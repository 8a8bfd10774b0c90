import Pipework.Log.Logger
import Pipework.Proofs.Log.Rendering

/-!
# Setting one level

What a rule that is added to a filter wins, and that it leaves all other subsystems alone.

* The rule decides about the subsystems that it matches and that no rule tried before it matches
  (`Filter.find?_insertRule`).
* For the rule of a level that is set, those are the rules without fields whose name is longer
  (`Filter.Refines`); the default rule comes after every rule with a name (`Filter.Names`).
* A logger and its clones answer by one filter whatever is done to any logger
  (`Loggers.shares_run`), so a level set through one is set for all, and for no other logger
  (`Loggers.setLevel_local`).
-/

namespace Pipework

namespace Rule

variable {rule other : Rule} {subsystem : String}

theorem matchesName_iff : rule.matchesName subsystem ↔
    rule.fields = [] ∧ ∀ name ∈ rule.target, name.toList <+: subsystem.toList := by
  rw [matchesName, Bool.and_eq_true, List.isEmpty_iff]
  cases rule.target <;> simp

/-- What a rule matches depends on its target and its fields. -/
theorem matchesName_congr (h : rule.order other = .eq) :
    rule.matchesName subsystem = other.matchesName subsystem := by
  obtain ⟨htarget, hfields⟩ := (order_eq_iff rule other).mp h
  rw [matchesName, matchesName, htarget, hfields]

/-- Of two rules without fields the one with the longer name is tried first. -/
theorem order_of_longer {name longer : String} (htarget : rule.target = some name)
    (hother : other.target = some longer) (h : name.utf8ByteSize < longer.utf8ByteSize) :
    rule.order other = .gt := by
  have hsize : compare other.targetSize rule.targetSize = .gt := by
    simp only [targetSize, htarget, hother]
    exact Nat.compare_eq_gt.mpr (Nat.succ_lt_succ h)
  simp [order, hsize]

/-- A rule with a name is tried before one without. -/
theorem order_of_named {name : String} (htarget : rule.target = none)
    (hother : other.target = some name) : rule.order other = .gt := by
  have hsize : compare other.targetSize rule.targetSize = .gt := by
    simp only [targetSize, htarget, hother]
    exact Nat.compare_eq_gt.mpr (Nat.succ_pos _)
  simp [order, hsize]

end Rule

namespace Filter

open Rule

variable {f : Filter} {rule : Rule} {rules : List Rule} {s t : String} {l q : Verbosity}

/-- A rule of the list that matches is tried before the given one. -/
def Before (rules : List Rule) (rule : Rule) (subsystem : String) : Prop :=
  ∃ other ∈ rules, other.matchesName subsystem ∧ rule.order other = .gt

instance (rules : List Rule) (rule : Rule) (subsystem : String) :
    Decidable (Before rules rule subsystem) := by
  unfold Before
  infer_instance

/-- **What an added rule decides.** The subsystems that it matches and that no rule before it
matches; about the others the old rules decide. -/
theorem find?_insertRule (h : Sorted rules) (rule : Rule) (t : String) :
    (insertRule rule rules).find? (·.matchesName t) =
      if rule.matchesName t ∧ ¬ Before rules rule t then some rule
      else rules.find? (·.matchesName t) := by
  induction rules with
  | nil => cases hmatch : rule.matchesName t <;> simp [insertRule, Before, hmatch]
  | cons first rules ih =>
    obtain ⟨hfirst, hrules⟩ := List.pairwise_cons.mp h
    simp only [insertRule]
    split <;> rename_i horder
    · have hnone : ¬ Before (first :: rules) rule t := by
        rintro ⟨other, hother, -, hgt⟩
        rcases List.mem_cons.mp hother with rfl | hother
        · simp [horder] at hgt
        · simp [Std.TransCmp.lt_trans horder (hfirst other hother)] at hgt
      cases hmatch : rule.matchesName t <;> simp [List.find?_cons, hmatch, hnone]
    · have hnone : ¬ Before (first :: rules) rule t := by
        rintro ⟨other, hother, -, hgt⟩
        rcases List.mem_cons.mp hother with rfl | hother
        · simp [horder] at hgt
        · simp [Std.TransCmp.lt_of_eq_of_lt horder (hfirst other hother)] at hgt
      -- the rule that is replaced matches what the new one matches
      have hsame : first.matchesName t = rule.matchesName t := (matchesName_congr horder).symm
      cases hmatch : rule.matchesName t <;> simp [hmatch, hsame, hnone]
    · cases hmatch : first.matchesName t with
      | true =>
        have hbefore : Before (first :: rules) rule t := ⟨first, List.mem_cons_self, hmatch, horder⟩
        simp [hmatch, hbefore]
      | false =>
        have hbefore : Before (first :: rules) rule t ↔ Before rules rule t := by
          simp [Before, hmatch]
        rw [List.find?_cons, List.find?_cons, hmatch, ih hrules]
        simp only [hbefore]

/-- **Whom an added rule affects.** -/
theorem enabled_add (h : Sorted f.rules) (rule : Rule) (t : String) (q : Verbosity) :
    (f.add rule).enabled t q =
      if rule.matchesName t ∧ ¬ Before f.rules rule t then rule.level.reports q else f.enabled t q := by
  simp only [enabled, add, find?_insertRule h]
  by_cases hwins : rule.matchesName t ∧ ¬ Before f.rules rule t
  · simp only [if_pos hwins]
  · simp only [if_neg hwins]

/-! ## Levels -/

/-- A rule without fields, whose name is longer than the given one, matches the subsystem. -/
def Refines (f : Filter) (name subsystem : String) : Prop :=
  ∃ rule ∈ f.rules, rule.fields = [] ∧ ∃ longer ∈ rule.target,
    name.utf8ByteSize < longer.utf8ByteSize ∧ longer.toList <+: subsystem.toList

/-- A rule with a name and without fields matches the subsystem. -/
def Names (f : Filter) (subsystem : String) : Prop :=
  ∃ rule ∈ f.rules, rule.fields = [] ∧ ∃ name ∈ rule.target, name.toList <+: subsystem.toList

instance (f : Filter) (name subsystem : String) : Decidable (f.Refines name subsystem) := by
  unfold Refines
  infer_instance

instance (f : Filter) (subsystem : String) : Decidable (f.Names subsystem) := by
  unfold Names
  infer_instance

/-- A text that another begins with, and that is not shorter, is the other. -/
theorem eq_of_leads {a b : String} (h : a.toList <+: b.toList)
    (hsize : b.utf8ByteSize ≤ a.utf8ByteSize) : a = b := by
  obtain ⟨rest, hrest⟩ := h
  have happend : b = a ++ String.ofList rest := by
    rw [← String.toList_inj, String.toList_append, String.toList_ofList, hrest]
  have hempty : (String.ofList rest).utf8ByteSize = 0 := by
    rw [happend, String.utf8ByteSize_append] at hsize
    omega
  rw [happend, String.utf8ByteSize_eq_zero_iff.mp hempty, String.append_empty]

theorem order_swap (r other : Rule) : r.order other = (other.order r).swap := Std.OrientedCmp.eq_swap

/-- Of the rules that match a subsystem those refine a name of it that are tried before its rule. -/
theorem longer_of_order {other : Rule} {name : String} {level : Verbosity}
    (hname : name.toList <+: t.toList) (hmatch : other.matchesName t)
    (h : ({ target := some name, level := level } : Rule).order other = .gt) :
    ∃ longer ∈ other.target, name.utf8ByteSize < longer.utf8ByteSize := by
  obtain ⟨hfields, hleads⟩ := matchesName_iff.mp hmatch
  cases htarget : other.target with
  | none =>
    have hlast : other.order { target := some name, level := level } = .gt :=
      order_of_named htarget rfl
    rw [order_swap, hlast] at h
    exact absurd h (by decide)
  | some longer =>
    refine ⟨longer, rfl, ?_⟩
    have hlonger := hleads longer htarget
    rcases Nat.lt_trichotomy name.utf8ByteSize longer.utf8ByteSize with hlt | heq | hgt
    · exact hlt
    · -- names of one size are the same name, and the rules are equally specific
      have hsame : name = longer := by
        rcases List.prefix_or_prefix_of_prefix hname hlonger with hshort | hshort
        · exact eq_of_leads hshort heq.ge
        · exact (eq_of_leads hshort heq.le).symm
      rw [(order_eq_iff _ other).mpr ⟨by rw [htarget, hsame], hfields.symm⟩] at h
      exact absurd h (by decide)
    · have hlast : other.order { target := some name, level := level } = .gt :=
        order_of_longer htarget rfl hgt
      rw [order_swap, hlast] at h
      exact absurd h (by decide)

/-- The rules that are tried before the one of a name are those that refine it. -/
theorem before_named {name : String} (hname : name.toList <+: t.toList) (level : Verbosity) :
    Before f.rules { target := some name, level := level } t ↔ f.Refines name t := by
  constructor
  · rintro ⟨other, hother, hmatch, hgt⟩
    obtain ⟨longer, hlonger, hsize⟩ := longer_of_order hname hmatch hgt
    obtain ⟨hfields, hleads⟩ := matchesName_iff.mp hmatch
    exact ⟨other, hother, hfields, longer, hlonger, hsize, hleads longer hlonger⟩
  · rintro ⟨other, hother, hfields, longer, hlonger, hsize, hleads⟩
    refine ⟨other, hother, matchesName_iff.mpr ⟨hfields, ?_⟩, order_of_longer rfl hlonger hsize⟩
    rintro name' hname'
    obtain rfl : longer = name' := Option.some.inj (hlonger.symm.trans hname')
    exact hleads

/-- The rules that are tried before the default rule are those with a name. -/
theorem before_default (level : Verbosity) :
    Before f.rules { target := none, level := level } t ↔ f.Names t := by
  constructor
  · rintro ⟨other, hother, hmatch, hgt⟩
    obtain ⟨hfields, hleads⟩ := matchesName_iff.mp hmatch
    cases htarget : other.target with
    | none =>
      rw [(order_eq_iff _ other).mpr ⟨htarget.symm, hfields.symm⟩] at hgt
      exact absurd hgt (by decide)
    | some name => exact ⟨other, hother, hfields, name, htarget, hleads name htarget⟩
  · rintro ⟨other, hother, hfields, name, hname, hleads⟩
    refine ⟨other, hother, matchesName_iff.mpr ⟨hfields, ?_⟩, order_of_named rfl hname⟩
    rintro name' hname'
    obtain rfl : name = name' := Option.some.inj (hname.symm.trans hname')
    exact hleads

/-- **A level that is set for a name** decides about the subsystems that begin with the name, unless
a longer name does. -/
theorem enabled_setLevel (h : Sorted f.rules) (hs : s ≠ "*") (l : Verbosity) (t : String)
    (q : Verbosity) :
    (f.setLevel s l).enabled t q =
      if s.toList <+: t.toList ∧ ¬ f.Refines s t then l.reports q else f.enabled t q := by
  rw [setLevel, if_neg hs, enabled_add h]
  by_cases hleads : s.toList <+: t.toList
  · have hmatch : ({ target := some s, level := l } : Rule).matchesName t :=
      matchesName_iff.mpr ⟨rfl, by simpa using hleads⟩
    simp only [hmatch, hleads, before_named hleads, true_and]
  · have hmatch : ¬ ({ target := some s, level := l } : Rule).matchesName t := fun hmatch =>
      hleads ((matchesName_iff.mp hmatch).2 s rfl)
    simp only [hleads, false_and, if_false, if_neg fun h => hmatch (And.left h)]

/-- **A level that is set for all** decides about the subsystems without a name of their own. -/
theorem enabled_setLevel_star (h : Sorted f.rules) (l : Verbosity) (t : String) (q : Verbosity) :
    (f.setLevel "*" l).enabled t q = if f.Names t then f.enabled t q else l.reports q := by
  have hmatch : ({ target := none, level := l } : Rule).matchesName t :=
    matchesName_iff.mpr ⟨rfl, by simp⟩
  rw [setLevel, if_pos rfl, enabled_add h]
  simp only [hmatch, before_default, true_and, ite_not]

end Filter

/-! ## Clones -/

namespace Loggers

variable {ls : Loggers} {logger other : Nat}

/-- The loggers look at the same filter. -/
def Shares (ls : Loggers) (logger other : Nat) : Prop := ls.handles[logger]? = ls.handles[other]?

instance (ls : Loggers) (logger other : Nat) : Decidable (ls.Shares logger other) :=
  inferInstanceAs (Decidable (_ = _))

/-- Every logger has a filter, and the rules of all filters are in order. -/
structure Sound (ls : Loggers) : Prop where
  placed : ∀ place ∈ ls.handles, place < ls.filters.length
  sorted : ∀ filter ∈ ls.filters, Filter.Sorted filter.rules

/-- A new logger finds its filter, and the others keep theirs. -/
theorem Sound.make (h : ls.Sound) {filter : Filter} (hsorted : Filter.Sorted filter.rules) :
    (ls.make filter).Sound where
  placed place hplace := by
    have hlength : (ls.make filter).filters.length = ls.filters.length + 1 := by simp [Loggers.make]
    rw [hlength]
    rcases List.mem_append.mp hplace with hplace | hplace
    · exact (h.placed place hplace).trans (Nat.lt_succ_self _)
    · exact List.mem_singleton.mp hplace ▸ Nat.lt_succ_self _
  sorted other hother := by
    rcases List.mem_append.mp hother with hother | hother
    · exact h.sorted other hother
    · exact List.mem_singleton.mp hother ▸ hsorted

theorem Sound.change (h : ls.Sound) (logger : Nat) {f : Filter → Filter}
    (hsorted : ∀ filter, Filter.Sorted filter.rules → Filter.Sorted (f filter).rules) :
    (ls.change logger f).Sound := by
  unfold Loggers.change
  split
  · rename_i place _
    refine ⟨fun place hplace => by simpa using h.placed place hplace, fun filter hfilter => ?_⟩
    obtain ⟨i, hi⟩ := List.mem_iff_getElem?.mp hfilter
    rw [List.getElem?_modify] at hi
    obtain ⟨before, hbefore, rfl⟩ := Option.map_eq_some_iff.mp hi
    have hsound := h.sorted before (List.mem_of_getElem? hbefore)
    split
    · exact hsorted before hsound
    · exact hsound
  · exact h

theorem Sound.step (h : ls.Sound) (op : LoggerOp) : (ls.step op).Sound := by
  cases op with
  | read text => exact h.make (Filter.sorted_start text)
  | ofRules rules => exact h.make (Filter.sorted_ofRules rules)
  | clone logger =>
    refine ⟨fun place hplace => ?_, h.sorted⟩
    rcases List.mem_append.mp hplace with hplace | hplace
    · exact h.placed place hplace
    · exact h.placed place (List.mem_of_getElem? (Option.mem_toList.mp hplace))
  | setFilter logger text =>
    refine h.change logger fun filter hsorted => ?_
    cases hparse : Filter.parse? text with
    | error e => exact hsorted
    | ok parsed => exact Filter.sorted_parse? hparse
  | setLevel logger subsystem level =>
    exact h.change logger fun filter hsorted => Filter.sorted_insertRule _ hsorted

theorem Sound.run (h : ls.Sound) (ops : List LoggerOp) : (ls.run ops).Sound := by
  induction ops generalizing ls with
  | nil => exact h
  | cons op ops ih => exact ih (h.step op)

/-- No operation takes a logger away from its filter. -/
theorem handles_step (op : LoggerOp) : ls.handles <+: (ls.step op).handles := by
  have hchange : ∀ logger f, ls.handles <+: (ls.change logger f).handles := by
    intro logger f
    unfold Loggers.change
    split <;> exact List.prefix_rfl
  cases op with
  | read text => exact List.prefix_append _ _
  | ofRules rules => exact List.prefix_append _ _
  | clone logger => exact List.prefix_append _ _
  | setFilter logger text => exact hchange _ _
  | setLevel logger subsystem level => exact hchange _ _

theorem handles_run (ops : List LoggerOp) : ls.handles <+: (ls.run ops).handles := by
  induction ops generalizing ls with
  | nil => exact List.prefix_rfl
  | cons op ops ih => exact (handles_step op).trans ih

/-- Whatever is done to loggers, those that share a filter go on to share it, and no others. -/
theorem shares_run (ops : List LoggerOp) (hlogger : logger < ls.handles.length)
    (hother : other < ls.handles.length) : (ls.run ops).Shares logger other ↔ ls.Shares logger other := by
  have hgrown : ls.handles <+: (ls.run ops).handles := handles_run ops
  obtain ⟨rest, hrest⟩ := hgrown
  rw [Shares, Shares, ← hrest, List.getElem?_append_left hlogger, List.getElem?_append_left hother]

/-- A clone shares the filter. -/
theorem shares_clone (h : logger < ls.handles.length) :
    (ls.step (.clone logger)).Shares logger ls.handles.length := by
  have hclone : (ls.step (.clone logger)).handles = ls.handles ++ [ls.handles[logger]] := by
    simp [step, List.getElem?_eq_getElem h]
  rw [Shares, hclone, List.getElem?_append_left h, List.getElem?_concat_length,
    List.getElem?_eq_getElem h]

/-- A change of the filter of a logger is one for those that share it. -/
theorem filter?_change (logger other : Nat) (f : Filter → Filter) :
    (ls.change logger f).filter? other =
      if ls.Shares logger other then (ls.filter? other).map f else ls.filter? other := by
  unfold Loggers.change
  split <;> rename_i hlogger
  · simp only [Shares, hlogger, filter?]
    cases hother : ls.handles[other]? with
    | none => simp
    | some place' =>
      simp only [Option.bind_some, Option.some.injEq, List.getElem?_modify]
      split <;> simp
  · split
    · rename_i hshares
      have hother : ls.handles[other]? = none := hshares.symm.trans hlogger
      simp [filter?, hother]
    · rfl

theorem Sound.exists_filter (h : ls.Sound) (hlogger : logger < ls.handles.length) :
    ∃ f, ls.filter? logger = some f ∧ Filter.Sorted f.rules := by
  have hplace := h.placed _ (List.getElem_mem hlogger)
  refine ⟨ls.filters[ls.handles[logger]], ?_, h.sorted _ (List.getElem_mem hplace)⟩
  rw [filter?, List.getElem?_eq_getElem hlogger, Option.bind_some, List.getElem?_eq_getElem hplace]

theorem filter?_congr (h : ls.Shares logger other) : ls.filter? other = ls.filter? logger := by
  rw [filter?, filter?, ← h]

/-- **Setting a level is local.** Take any loggers that have come about by any operations, one of
them, and the filter that it looks at.

* After a level is set through it for a name, it and every logger that shares its filter let a
  message through by that level if its subsystem begins with the name and with no longer name of a
  rule without fields, and as before otherwise.
* After a level is set for the star, only the subsystems change that begin with no name of a rule
  without fields.
* Loggers with other filters answer as before.
* A clone of the logger shares its filter, whatever is done afterwards. -/
theorem setLevel_local (made : List LoggerOp) {ls : Loggers} (hmade : ls = ({} : Loggers).run made)
    {logger : Nat} (hlogger : logger < ls.handles.length) (l : Verbosity) :
    (∃ f, ls.filter? logger = some f ∧ ∀ other, ls.Shares logger other → ∀ t q,
      (∀ s, s ≠ "*" → (ls.step (.setLevel logger s l)).enabled other t q =
        if s.toList <+: t.toList ∧ ¬ f.Refines s t then l.reports q else ls.enabled other t q) ∧
      (ls.step (.setLevel logger "*" l)).enabled other t q =
        if f.Names t then ls.enabled other t q else l.reports q) ∧
    (∀ s other, ¬ ls.Shares logger other → ∀ t q,
      (ls.step (.setLevel logger s l)).enabled other t q = ls.enabled other t q) ∧
    ∀ more, ((ls.step (.clone logger)).run more).Shares logger ls.handles.length := by
  have hsound : ls.Sound := hmade ▸ Sound.run ⟨by simp, by simp⟩ made
  obtain ⟨f, hf, hsorted⟩ := hsound.exists_filter hlogger
  refine ⟨⟨f, hf, fun other hshares t q => ?_⟩, fun s other hshares t q => ?_, fun more => ?_⟩
  · have hother : ls.filter? other = some f := (filter?_congr hshares).trans hf
    have hset : ∀ s, (ls.step (.setLevel logger s l)).enabled other t q = (f.setLevel s l).enabled t q := by
      intro s
      simp [enabled, step, filter?_change, if_pos hshares, hother]
    have hbefore : ls.enabled other t q = f.enabled t q := by simp [enabled, hother]
    refine ⟨fun s hs => ?_, ?_⟩
    · rw [hset, hbefore, Filter.enabled_setLevel hsorted hs]
    · rw [hset, hbefore, Filter.enabled_setLevel_star hsorted]
  · simp [enabled, step, filter?_change, if_neg hshares]
  · have hlength : (ls.step (.clone logger)).handles.length = ls.handles.length + 1 := by
      simp [step, List.getElem?_eq_getElem hlogger]
    exact (shares_run more (by omega) (by omega)).mpr (shares_clone hlogger)

/-- A level set through a clone, between a shorter name and a longer one. -/
theorem setLevel_local_between :
    let ls := ({} : Loggers).run [.read "cmd,cmd:string:x=warn,*=error", .clone 0]
    ls = ({} : Loggers).run [.read "cmd,cmd:string:x=warn,*=error", .clone 0] ∧ 1 < ls.handles.length ∧
      (ls.step (.setLevel 1 "cmd:string" .off)).enabled 0 "cmd:string" .error = false ∧
      (ls.step (.setLevel 1 "cmd:string" .off)).enabled 0 "cmd:string:x" .warn = true ∧
      (ls.step (.setLevel 1 "cmd:string" .off)).enabled 0 "cmd:stream" .debug = true := by
  intro ls
  have hcount : 1 < ls.handles.length := by decide +kernel
  have hshares : ls.Shares 1 0 := by decide +kernel
  obtain ⟨⟨f, hf, hset⟩, -⟩ := setLevel_local _ rfl hcount .off
  obtain rfl : f = ⟨[⟨some "cmd:string:x", [], .warn⟩, ⟨some "cmd", [], .debug⟩, ⟨none, [], .error⟩]⟩ :=
    Option.some.inj (hf.symm.trans (by decide +kernel))
  refine ⟨rfl, hcount, ?_, ?_, ?_⟩
  · rw [(hset 0 hshares _ _).1 _ (by decide), if_pos (by decide +kernel)]
    rfl
  · rw [(hset 0 hshares _ _).1 _ (by decide), if_neg (by decide +kernel)]
    decide +kernel
  · rw [(hset 0 hshares _ _).1 _ (by decide), if_neg (by decide +kernel)]
    decide +kernel

end Loggers

end Pipework
