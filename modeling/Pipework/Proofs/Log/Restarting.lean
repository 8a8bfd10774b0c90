import Pipework.Proofs.Log.Directives

/-!
# Starting a filter again from its text

A filter that has been read from a text, and has had levels set since, is written down and read
again.

* What is read is the same filter exactly if the filter is plain (`Filter.restart_after_changes`).
* It is plain if the directives of the text had one of the usual forms (`Filter.Usual`) and the
  levels were set for the star or for names that can be written. The filter that is started from its
  text then answers like it and has the same text.
* Outside these forms a star may become the name of a target (`Filter.restart_star`), or the text of
  a rule lose its fields, and the filter that is started answers otherwise.
-/

namespace Pipework

namespace Filter

open Text

/-! ## Reading a rule that has been written -/

/-- Only the blanks before the name are trimmed away. -/
theorem trim_text (rule : Rule) : trim rule.text.toList =
    trimLeft (rule.target.getD "*").toList ++ '=' :: rule.level.name.toList := by
  have hequals : isBlank '=' = false := by decide
  have hleft : trimLeft rule.text.toList =
      trimLeft (rule.target.getD "*").toList ++ '=' :: rule.level.name.toList := by
    rw [rule.toList_text, trimLeft, trimLeft, List.dropWhile_append, List.dropWhile_cons, hequals]
    split
    · rename_i hnil
      rw [List.isEmpty_iff.mp hnil]
      rfl
    · rfl
  have htight : Tight (trimLeft (rule.target.getD "*").toList ++ '=' :: rule.level.name.toList) := by
    constructor
    · have hhead := List.head?_dropWhile_not isBlank (rule.target.getD "*").toList
      rw [← trimLeft] at hhead
      cases hname : trimLeft (rule.target.getD "*").toList with
      | nil => simp [hequals]
      | cons c cs =>
        rw [hname] at hhead
        simpa using hhead
    · cases rule.level <;> simp [Verbosity.name] <;> decide
  rw [← trim_trimLeft, hleft, trim_tight htight]

/-- The reader takes the directive of a rule for the default if the name is a star after blanks. -/
theorem plainDirective_text {rule : Rule} (hequals : '=' ∉ (rule.target.getD "*").toList) :
    plainDirective (trim rule.text.toList) =
      if trimLeft (rule.target.getD "*").toList = ['*'] then rule.level.name.toList
      else trim (rule.target.getD "*").toList ++ '=' :: rule.level.name.toList := by
  have hlevel : trim rule.level.name.toList = rule.level.name.toList :=
    trim_tight rule.level.tight_name
  have hfree : '=' ∉ trimLeft (rule.target.getD "*").toList := fun hmem =>
    hequals ((List.dropWhile_suffix isBlank).subset hmem)
  have hcut : cut? (· == '=') (trim rule.text.toList) =
      some (trimLeft (rule.target.getD "*").toList, rule.level.name.toList) := by
    rw [trim_text]
    exact cut?_append (Rule.forall_ne_equals hfree) (beq_self_eq_true '=')
  rw [plainDirective, hcut]
  split
  · rename_i level hstar
    obtain ⟨hname, rfl⟩ := Prod.mk.inj (Option.some.inj hstar)
    rw [if_pos hname, hlevel]
  · rename_i name level hnot hparts
    obtain ⟨rfl, rfl⟩ := Prod.mk.inj (Option.some.inj hparts)
    rw [if_neg hnot, trim_trimLeft, hlevel]
  · simp_all

/-- What a written rule is read as: the default rule if its name is a star after blanks, and
otherwise the name without the blanks around it, whose brackets may be taken for a field list. -/
theorem readRule?_text {rule : Rule} (hequals : '=' ∉ (rule.target.getD "*").toList) :
    readRule? (plainDirective (trim rule.text.toList)) =
      if trimLeft (rule.target.getD "*").toList = ['*'] then .ok { target := none, level := rule.level }
      else (readTarget? (trim (rule.target.getD "*").toList)).map fun (target, fields) =>
        { target := some target, fields := fields, level := rule.level } := by
  have hlevel := pieces_of_none (Rule.forall_ne_equals rule.level.equals_name)
  rw [plainDirective_text hequals]
  split
  · rw [readRule?, hlevel]
    simp [Verbosity.ofText?_name]
  · have hfree : '=' ∉ trim (rule.target.getD "*").toList := fun hmem => hequals (mem_of_mem_trim hmem)
    rw [readRule?, pieces_cut (Rule.forall_ne_equals hfree) (beq_self_eq_true '='), hlevel]
    cases hread : readTarget? (trim (rule.target.getD "*").toList) <;>
      simp [hread, Verbosity.ofText?_name, Except.map]

/-- No rule that is written is new. -/
theorem target_of_mem_written {f : Filter} {rule : Rule} (h : rule ∈ f.written) {name : String}
    (hname : rule.target = some name) : ∃ other ∈ f.rules, other.target = some name := by
  rcases List.mem_append.mp h with h | h
  · obtain ⟨entry, hentry, rfl⟩ := List.mem_map.mp h
    obtain ⟨other, hother, htarget⟩ :=
      List.mem_filterMap.mp ((List.mergeSort_perm _ _).mem_iff.mp hentry)
    obtain ⟨target, hsome, rfl⟩ := Option.map_eq_some_iff.mp htarget
    obtain rfl : target = name := by simpa using hname
    exact ⟨other, hother, hsome⟩
  · obtain ⟨level, -, rfl⟩ := List.mem_map.mp h
    simp at hname

/-- The directives in the text of a filter are those of its rules if no name has a comma. -/
theorem pieces_render {f : Filter} (hcomma : ∀ rule ∈ f.rules, ∀ name ∈ rule.target, ',' ∉ name.toList)
    {piece : List Char} (hpiece : piece ∈ pieces (· == ',') f.render.toList) (hne : trim piece ≠ []) :
    ∃ rule ∈ f.written, piece = rule.text.toList := by
  have hfree : ∀ part ∈ f.written.map (·.text.toList), ',' ∉ part := by
    intro part hpart
    obtain ⟨rule, hrule, rfl⟩ := List.mem_map.mp hpart
    have hname : ',' ∉ (rule.target.getD "*").toList := by
      cases htarget : rule.target with
      | none => decide
      | some name =>
        obtain ⟨other, hother, heq⟩ := target_of_mem_written hrule htarget
        exact hcomma other hother name heq
    rw [rule.toList_text]
    simp [hname, rule.level.comma_name]
  by_cases hempty : f.written = []
  · obtain rfl : piece = [] := by
      rw [render_eq, hempty] at hpiece
      exact List.mem_singleton.mp hpiece
    exact absurd rfl hne
  · have hpieces : pieces (· == ',') f.render.toList = f.written.map (·.text.toList) := by
      rw [render_eq]
      simp only [joined, List.map_map, String.toList_ofList]
      exact pieces_join (by simpa using hempty) hfree
    rw [hpieces] at hpiece
    obtain ⟨rule, hrule, rfl⟩ := List.mem_map.mp hpiece
    exact ⟨rule, hrule, rfl⟩

/-- The names of the filter have no comma, no equals sign and no opening of a field list. -/
def Clean (f : Filter) : Prop := ∀ rule ∈ f.rules, ∀ name ∈ rule.target,
  ',' ∉ name.toList ∧ '=' ∉ name.toList ∧ cutFieldLists name.toList = [name.toList]

section Rereading

variable {f : Filter} {rule : Rule}

theorem equals_of_mem_written
    (h : ∀ rule ∈ f.rules, ∀ name ∈ rule.target, '=' ∉ name.toList) (hrule : rule ∈ f.written) :
    '=' ∉ (rule.target.getD "*").toList := by
  cases htarget : rule.target with
  | none => decide
  | some name =>
    obtain ⟨other, hother, heq⟩ := target_of_mem_written hrule htarget
    exact h other hother name heq

/-- The text of a filter is accepted if its names are clean. -/
theorem Clean.parse?_render (h : f.Clean) : ∃ again, parse? f.render = .ok again := by
  refine parse?_ok fun piece hpiece hne => ?_
  obtain ⟨rule, hrule, rfl⟩ :=
    pieces_render (fun rule hrule name hname => (h rule hrule name hname).1) hpiece hne
  rw [readRule?_text
    (equals_of_mem_written (fun rule hrule name hname => (h rule hrule name hname).2.1) hrule)]
  split
  · exact ⟨_, rfl⟩
  · rename_i hstar
    have hbracket : cutFieldLists (rule.target.getD "*").toList = [(rule.target.getD "*").toList] := by
      cases htarget : rule.target with
      | none => decide
      | some name =>
        obtain ⟨other, hother, heq⟩ := target_of_mem_written hrule htarget
        exact (h other hother name heq).2.2
    exact ⟨_, by rw [readTarget?, cutFieldLists_trim hbracket]; rfl⟩

/-- Where the names have no commas and no equals signs, each rule that is read from the text of a
filter is a default rule or comes from a rule with a name other than the star. -/
theorem target_of_parse?_render {again : Filter}
    (hclean : ∀ rule ∈ f.rules, ∀ name ∈ rule.target, ',' ∉ name.toList ∧ '=' ∉ name.toList)
    (h : parse? f.render = .ok again) (hrule : rule ∈ again.rules) :
    rule.target = none ∧ rule.fields = [] ∨
      ∃ other ∈ f.rules, ∃ name target, other.target = some name ∧ trimLeft name.toList ≠ ['*'] ∧
        readTarget? (trim name.toList) = .ok (target, rule.fields) ∧ rule.target = some target := by
  obtain ⟨piece, hpiece, hne, hread⟩ := mem_parse? h hrule
  obtain ⟨written, hwritten, rfl⟩ :=
    pieces_render (fun rule hrule name hname => (hclean rule hrule name hname).1) hpiece hne
  rw [readRule?_text
    (equals_of_mem_written (fun rule hrule name hname => (hclean rule hrule name hname).2) hwritten)]
    at hread
  split at hread
  · obtain rfl := Except.ok.inj hread
    exact .inl ⟨rfl, rfl⟩
  · rename_i hstar
    cases htarget : written.target with
    | none =>
      rw [htarget] at hstar
      exact absurd (by decide) hstar
    | some name =>
      rw [htarget, Option.getD_some] at hread hstar
      obtain ⟨other, hother, heq⟩ := target_of_mem_written hwritten htarget
      cases hname : readTarget? (trim name.toList) with
      | error e => simp [hname, Except.map] at hread
      | ok parts =>
        obtain ⟨target, fields⟩ := parts
        rw [hname] at hread
        obtain rfl := Except.ok.inj hread
        exact .inr ⟨other, hother, name, target, heq, hstar, hname, rfl⟩

/-- **A filter that is read back from its text is plain.** -/
theorem plain_of_parse?_render (h : parse? f.render = .ok f) : f.Plain := by
  have hread := fun rule (hrule : rule ∈ f.rules) =>
    target_of_parse?_render (fun rule hrule => target_of_parse? h hrule) h hrule
  -- every name stands before a field list, so none has the opening of one
  have hbracket : ∀ rule ∈ f.rules, ∀ name, rule.target = some name →
      cutFieldLists name.toList = [name.toList] := by
    intro rule hrule name hname
    rcases hread rule hrule with ⟨hnone, -⟩ | ⟨_, _, _, target, _, _, htarget, hsome⟩
    · simp [hnone] at hname
    · obtain rfl : target = name := Option.some.inj (hsome.symm.trans hname)
      exact (readTarget?_front htarget).2
  -- so every rule has the trimmed name of some rule, and no fields
  have htrimmed : ∀ rule ∈ f.rules, rule.fields = [] ∧ ∀ target, rule.target = some target →
      ∃ other ∈ f.rules, ∃ name, other.target = some name ∧ trimLeft name.toList ≠ ['*'] ∧
        target.toList = trim name.toList := by
    intro rule hrule
    rcases hread rule hrule with ⟨hnone, hfields⟩ | ⟨other, hother, name, target, hname, hstar, htarget, hsome⟩
    · exact ⟨hfields, by simp [hnone]⟩
    · rw [readTarget?, cutFieldLists_trim (hbracket other hother name hname)] at htarget
      obtain ⟨hname', hfields⟩ := Prod.mk.inj (Except.ok.inj htarget)
      refine ⟨hfields.symm, fun target' htarget' => ⟨other, hother, name, hname, hstar, ?_⟩⟩
      obtain rfl : target = target' := Option.some.inj (hsome.symm.trans htarget')
      rw [← hname', String.toList_ofList]
  have htight : ∀ rule ∈ f.rules, ∀ name, rule.target = some name → Tight name.toList := by
    intro rule hrule name hname
    obtain ⟨-, -, other, -, -, heq⟩ := (htrimmed rule hrule).2 name hname
    exact heq ▸ tight_trim _
  intro rule hrule
  obtain ⟨hfields, hnames⟩ := htrimmed rule hrule
  refine ⟨hfields, fun name hname => ?_⟩
  obtain ⟨hcomma, hequals⟩ := target_of_parse? h hrule name hname
  refine ⟨htight rule hrule name hname, hcomma, hequals, hbracket rule hrule name hname, ?_⟩
  -- a star would come from a name without blanks, which is the star, but that is read as no name
  rintro rfl
  obtain ⟨other, hother, source, hsource, hstar, heq⟩ := hnames "*" hname
  rw [trim_tight (htight other hother source hsource)] at heq
  exact hstar (heq ▸ rfl)

end Rereading

/-! ## Changes -/

/-- Set the levels of several subsystems, one after another. -/
def setLevels (f : Filter) (changes : List (String × Verbosity)) : Filter :=
  changes.foldl (fun f change => f.setLevel change.1 change.2) f

section Changes

variable {f : Filter} {changes : List (String × Verbosity)}

theorem sorted_setLevels (h : Sorted f.rules) : Sorted (f.setLevels changes).rules := by
  induction changes generalizing f with
  | nil => exact h
  | cons change changes ih => exact ih (sorted_insertRule _ h)

theorem Plain.setLevels (h : f.Plain)
    (hnames : ∀ change ∈ changes, change.1 = "*" ∨ PlainName change.1) :
    (f.setLevels changes).Plain := by
  induction changes generalizing f with
  | nil => exact h
  | cons change changes ih =>
    refine ih (h.setLevel (hnames change List.mem_cons_self) change.2) fun other hother => ?_
    exact hnames other (List.mem_cons_of_mem _ hother)

/-- **A filter started again from its text.** Take the filter of a text that is accepted, with any
levels set since.

* If the directives of the text have the usual forms and levels were set for the star and for plain
  names, then the text of the filter is accepted and stands for this very filter: what is started
  from it has the same text and the same answer for every subsystem and level.
* Whatever the text and the changes were, the filter is read back from its text exactly if it is
  plain.
* Its text is accepted, though for another filter, if its names are only clean. -/
theorem restart_after_changes {text : String} (h : parse? text = .ok f)
    (changes : List (String × Verbosity)) :
    (UsualText text → (∀ change ∈ changes, change.1 = "*" ∨ PlainName change.1) →
      parse? (f.setLevels changes).render = .ok (f.setLevels changes) ∧
      (start (f.setLevels changes).render).1.render = (f.setLevels changes).render ∧
      ∀ subsystem level, (start (f.setLevels changes).render).1.enabled subsystem level =
        (f.setLevels changes).enabled subsystem level) ∧
    (parse? (f.setLevels changes).render = .ok (f.setLevels changes) ↔ (f.setLevels changes).Plain) ∧
    ((f.setLevels changes).Clean → ∃ again, parse? (f.setLevels changes).render = .ok again) := by
  have hsorted : Sorted (f.setLevels changes).rules := sorted_setLevels (sorted_parse? h)
  refine ⟨fun husual hnames => ?_, ⟨plain_of_parse?_render, fun hplain => ?_⟩, Clean.parse?_render⟩
  · have hplain : (f.setLevels changes).Plain := (husual.plain h).setLevels hnames
    have hstart : (start (f.setLevels changes).render).1 = f.setLevels changes :=
      start_render hplain hsorted
    rw [hstart]
    exact ⟨parse?_render hplain hsorted, rfl, fun _ _ => rfl⟩
  · exact parse?_render hplain hsorted

end Changes

/-- Three directives of usual forms, with a level set for a new name and by the star. -/
theorem restart_after_changes_three :
    ∃ f, parse? " cmd, exec = INFO,*=error" = .ok f ∧
      parse? (f.setLevels [("pipe", .debug), ("*", .off)]).render =
        .ok (f.setLevels [("pipe", .debug), ("*", .off)]) ∧
      (f.setLevels [("pipe", .debug), ("*", .off)]).render = "exec=info,pipe=debug,cmd=debug,*=off" := by
  have hread : parse? " cmd, exec = INFO,*=error" =
      .ok ⟨[⟨some "exec", [], .info⟩, ⟨some "cmd", [], .debug⟩, ⟨none, [], .error⟩]⟩ := by decide
  have husual : UsualText " cmd, exec = INFO,*=error" := by
    intro piece hpiece _
    have hpieces : pieces (· == ',') " cmd, exec = INFO,*=error".toList =
        [" cmd".toList, " exec = INFO".toList, "*=error".toList] := by decide
    rw [hpieces] at hpiece
    simp only [List.mem_cons, List.not_mem_nil, or_false] at hpiece
    rcases hpiece with rfl | rfl | rfl
    · exact .name (by decide)
    · exact @Usual.nameLevel "exec ".toList " INFO".toList (by decide) (by decide)
    · exact @Usual.starLevel "error".toList (by decide)
  have hnames : ∀ change ∈ [("pipe", Verbosity.debug), ("*", Verbosity.off)],
      change.1 = "*" ∨ PlainName change.1 := by decide
  exact ⟨_, hread, ((restart_after_changes hread _).1 husual hnames).1, by cbv⟩

/-- With a blank between the star and the equals sign the star is the name of a target, and nothing
is reported from elsewhere; but the filter has the text of a default for all. -/
theorem restart_star : ∃ f, parse? "* =debug" = .ok f ∧ f.render = "*=debug" ∧
    f.enabled "pipe" .debug = false ∧ (start f.render).1.enabled "pipe" .debug = true := by
  have hrender : (⟨[⟨some "*", [], .debug⟩]⟩ : Filter).render = "*=debug" := by cbv
  refine ⟨⟨[⟨some "*", [], .debug⟩]⟩, by decide, hrender, by decide, ?_⟩
  rw [hrender]
  decide

/-- The text of a rule has no fields; without them the rule applies. -/
example : parse? "a[\x7bx\x7d]=debug" = .ok ⟨[⟨some "a", ["x"], .debug⟩]⟩ ∧
    (⟨[⟨some "a", ["x"], .debug⟩]⟩ : Filter).render = "a=debug" ∧
    (⟨[⟨some "a", ["x"], .debug⟩]⟩ : Filter).enabled "a" .debug = false ∧
    (start "a=debug").1.enabled "a" .debug = true :=
  ⟨by decide, by cbv, by decide, by decide⟩

end Filter

end Pipework
