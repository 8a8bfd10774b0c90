import Pipework.Proofs.Config
import Pipework.Proofs.Config.Sections
import Pipework.Proofs.Toml.Tables

/-!
# One change, one entry

A configuration that comes from the defaults or from a document, and from changes of single settings,
holds its aliases in order (`Config.Reachable.ordered`). A change of such a configuration either fails
and leaves it alone, or enters the value that its text stands for under its key and touches no entry
under another key (`Config.change_frame`).

What stands under a dotted key is an entry of a section (`Config.entry?`, `Config.get_of_cut`): no key
with a second dot leads anywhere.
-/

namespace Pipework

/-- What comes out of two steps came out of the first and then of the second. -/
theorem ok_of_bind {ε α β : Type} {x : Except ε α} {f : α → Except ε β} {b : β}
    (h : x >>= f = .ok b) : ∃ a, x = .ok a ∧ f a = .ok b := by
  cases x with
  | error e => cases h
  | ok a => exact ⟨a, rfl, h⟩

theorem ok_of_toOption {ε α : Type} {x : Except ε α} {a : α} (h : x.toOption = some a) : x = .ok a := by
  cases x with
  | error e => cases h
  | ok b => exact congrArg _ (Option.some.inj h)

namespace Setting

variable {c c' : Config} {setting other : Setting} {v : Toml}

theorem eq_of_size {n : Nat} (h : Toml.size v = .ok n) : v = .integer n := by
  cases v with
  | integer i =>
    simp only [Toml.size] at h
    split at h
    · simp at h
    · split at h
      · obtain rfl := Except.ok.inj h
        rw [Int.toNat_of_nonneg (by omega)]
      · simp at h
  | _ => simp [Toml.size, Toml.wrongKind] at h

theorem eq_of_text {s : String} (h : Toml.text v = .ok s) : v = .string s := by
  cases v with
  | string s => exact congrArg _ (Except.ok.inj h)
  | _ => simp [Toml.text, Toml.wrongKind] at h

theorem eq_of_texts {items : List String} (h : Toml.texts v = .ok items) :
    v = .array (items.map .string) := by
  have hread : ∀ {values : List Toml} {items : List String}, values.mapM Toml.text = .ok items →
      values = items.map .string := by
    intro values
    induction values with
    | nil =>
      intro items h
      obtain rfl := Except.ok.inj h
      rfl
    | cons v values ih =>
      intro items h
      rw [List.mapM_cons] at h
      obtain ⟨first, hfirst, h⟩ := ok_of_bind h
      obtain ⟨rest, hrest, h⟩ := ok_of_bind h
      rw [← Except.ok.inj h, List.map_cons, eq_of_text hfirst, ih hrest]
  cases v with
  | array values => exact congrArg _ (hread h)
  | _ => simp [Toml.texts, Toml.wrongKind] at h

/-- A setting has the value that it was given. -/
theorem value?_assign (h : setting.assign c v = .ok c') : setting.value? c' = some v := by
  cases setting with
  | _ =>
    simp only [assign, bind, Except.bind] at h
    split at h
    · simp at h
    · rename_i read hread
      obtain rfl := Except.ok.inj h
      first
        | exact congrArg some (eq_of_text hread).symm
        | exact congrArg some (eq_of_size hread).symm
        | exact congrArg some (eq_of_texts hread).symm

/-- The other settings keep their values. -/
theorem value?_assign_of_ne (h : setting.assign c v = .ok c') (hne : other ≠ setting) :
    other.value? c' = other.value? c := by
  cases setting with
  | _ =>
    simp only [assign, bind, Except.bind] at h
    split at h
    · simp at h
    · obtain rfl := Except.ok.inj h
      cases other <;> first | rfl | exact absurd rfl hne

end Setting

namespace Config

variable {c c' : Config} {key raw title name : String} {v w : Toml}

/-! ## Entries -/

/-- What stands under a name of a section. -/
def entry? (c : Config) (title name : String) : Option Toml :=
  if title = "aliases" then (c.aliases.find? name).map .string
  else ((Setting.ofSection title).find? (·.name == name)).bind (·.value? c)

/-- No entry has parts. -/
theorem lookUp_entry? {next : String} {path : List String} (h : c.entry? title name = some v) :
    lookUp v (next :: path) = none := by
  unfold entry? at h
  split at h
  · obtain ⟨target, -, rfl⟩ := Option.map_eq_some_iff.mp h
    rfl
  · obtain ⟨setting, -, hvalue⟩ := Option.bind_eq_some_iff.mp h
    cases setting with
    | path =>
      obtain ⟨path, -, rfl⟩ := Option.map_eq_some_iff.mp hvalue
      rfl
    | _ => exact Option.some.inj hvalue ▸ rfl

/-- The sections of the table of a configuration. -/
def tables (c : Config) : List (String × Toml) :=
  ("aliases", .table (Keyed.ofList c.aliasFields)) ::
    sectionNames.map fun title => (title, .table (Keyed.ofList (c.fields title)))

theorem nodup_tables (c : Config) : (c.tables.map (·.1)).Nodup := by
  have hnames : c.tables.map (·.1) = ["aliases", "debug", "pipe", "history", "output"] := rfl
  rw [hnames]
  decide

/-- Below a section stand its entries. -/
theorem lookUp_tables (haliases : c.aliases.Ordered) (title name : String) (path : List String) :
    lookUp (.table (Keyed.ofList c.tables)) (title :: name :: path) =
      (c.entry? title name).bind fun v => lookUp v path := by
  rw [lookUp, entry?]
  by_cases htitle : title = "aliases"
  · have hfound : (Keyed.ofList c.tables).find? title = some (.table (Keyed.ofList c.aliasFields)) :=
      Keyed.find?_ofList_of_mem (nodup_tables c) (htitle ▸ List.mem_cons_self)
    rw [hfound, if_pos htitle, Option.bind_some, lookUp, ofList_aliasFields haliases, find?_aliasFields]
  · rw [if_neg htitle]
    by_cases hsection : title ∈ sectionNames
    · have hfound : (Keyed.ofList c.tables).find? title = some (.table (Keyed.ofList (c.fields title))) :=
        Keyed.find?_ofList_of_mem (nodup_tables c)
          (List.mem_cons_of_mem _ (List.mem_map.mpr ⟨title, hsection, rfl⟩))
      rw [hfound, Option.bind_some, lookUp, find?_fields]
    · have hmissing : (Keyed.ofList c.tables).find? title = none := by
        refine Keyed.find?_ofList_of_not_mem fun hmem => ?_
        obtain ⟨e, he, rfl⟩ := List.mem_map.mp hmem
        rcases List.mem_cons.mp he with rfl | he
        · exact htitle rfl
        · obtain ⟨known, hknown, rfl⟩ := List.mem_map.mp he
          exact hsection hknown
      have hnone : (Setting.ofSection title).find? (·.name == name) = none := by
        refine List.find?_eq_none.mpr fun setting hsetting => ?_
        exact absurd (Setting.mem_ofSection.mp hsetting ▸ setting.sectionName_mem) hsection
      rw [hmissing, hnone]
      rfl

/-- **Under a dotted key stands an entry of a section,** and nothing if there is a second dot. -/
theorem get_of_cut (hc : c.isWritable) (haliases : c.aliases.Ordered)
    (hcut : cutAt? '.' key = some (title, name)) :
    c.get key = .ok (if '.' ∈ name.toList then none else c.entry? title name) := by
  have htable : c.toTable = .ok (Keyed.ofList c.tables) := if_pos hc
  have hget : c.get key = .ok (lookUp (.table (Keyed.ofList c.tables)) (title :: piecesAt '.' name)) := by
    rw [get, htable, Text.piecesAt_of_cutAt? hcut]
    rfl
  rw [hget]
  refine congrArg _ ?_
  split
  · -- a second dot asks for a part of an entry
    rename_i hdot
    obtain ⟨before, after, hmore⟩ := Text.cut?_of_mem (p := (· == '.')) hdot (by decide)
    obtain ⟨next, path, hrest⟩ := List.exists_cons_of_ne_nil (Text.pieces_ne_nil (· == '.') after)
    rw [piecesAt, Text.pieces_of_cut? hmore, hrest, List.map_cons, List.map_cons,
      lookUp_tables haliases]
    cases hentry : c.entry? title (.ofList before) with
    | none => rfl
    | some v => exact lookUp_entry? hentry
  · rename_i hdot
    have hpieces : Text.pieces (· == '.') name.toList = [name.toList] :=
      Text.pieces_of_none fun d hd => beq_false_of_ne fun heq => hdot (heq ▸ hd)
    rw [piecesAt, hpieces, List.map_singleton, String.ofList_toList, lookUp_tables haliases]
    cases c.entry? title name <;> rfl

/-! ## Entering -/

/-- What is entered stands where it was entered, if anything does. -/
theorem entry?_enter (h : c.enter title name v = .ok c') (hstored : c'.entry? title name = some w) :
    w = v := by
  unfold enter at h
  unfold entry? at hstored
  split at h
  · rename_i htitle
    rw [if_pos (by simpa using htitle)] at hstored
    obtain ⟨target, hv, h⟩ := ok_of_bind h
    rw [← Except.ok.inj h, Keyed.find?_insert, if_pos rfl, Option.map_some] at hstored
    rw [← Option.some.inj hstored, Setting.eq_of_text hv]
  · rename_i htitle
    rw [if_neg (by simpa using htitle)] at hstored
    split at h
    · rename_i setting hsetting
      rw [hsetting, Option.bind_some, Setting.value?_assign h] at hstored
      exact (Option.some.inj hstored).symm
    · rename_i hnone
      rw [hnone] at hstored
      simp at hstored

/-- Nothing else is touched. -/
theorem entry?_enter_of_ne (h : c.enter title name v = .ok c') {title' name' : String}
    (hne : (title', name') ≠ (title, name)) : c'.entry? title' name' = c.entry? title' name' := by
  unfold enter at h
  unfold entry?
  split at h
  · rename_i htitle
    obtain rfl : title = "aliases" := by simpa using htitle
    obtain ⟨target, -, h⟩ := ok_of_bind h
    obtain rfl := Except.ok.inj h
    split
    · rename_i htitle'
      have hname : name ≠ name' := fun heq => hne (by rw [htitle', heq])
      rw [Keyed.find?_insert, if_neg hname]
    · refine congrArg _ (funext fun setting => ?_)
      cases setting <;> rfl
  · split at h
    · rename_i setting hsetting
      split
      · rw [Setting.aliases_assign h]
      · cases hother : (Setting.ofSection title').find? (·.name == name') with
        | none => rfl
        | some other =>
          rw [Option.bind_some, Option.bind_some]
          refine Setting.value?_assign_of_ne h fun heq => hne ?_
          obtain ⟨rfl, rfl⟩ := Setting.find?_ofSection.mp hother
          obtain ⟨rfl, rfl⟩ := Setting.find?_ofSection.mp hsetting
          rw [heq]
    · rw [Except.ok.inj h]

/-! ## Configurations that come up -/

theorem ordered_enter (hc : c.aliases.Ordered) (h : c.enter title name v = .ok c') :
    c'.aliases.Ordered := by
  rcases aliases_enter h with hsame | ⟨-, target, -, hentered⟩
  · rwa [hsame]
  · rw [hentered]
    exact Keyed.ordered_insert hc

theorem aliases_foldlM {α : Type} {step : Config → α → Except String Config} {items : List α}
    {base : Config} (hstep : ∀ {b a b'}, step b a = .ok b' → b'.aliases = b.aliases)
    (h : items.foldlM step base = .ok c) : c.aliases = base.aliases := by
  induction items generalizing base with
  | nil => rw [Except.ok.inj h]
  | cons a items ih =>
    rw [List.foldlM_cons] at h
    obtain ⟨b, hfirst, h⟩ := ok_of_bind h
    rw [ih h, hstep hfirst]

theorem aliases_readSection {base : Config} (h : readSection title v base = .ok c) :
    c.aliases = base.aliases := by
  unfold readSection at h
  split at h
  · exact aliases_foldlM (fun hstep => Setting.aliases_assign hstep) h
  · split at h
    · refine aliases_foldlM (fun {b setting b'} hstep => ?_) h
      split at hstep
      · exact Setting.aliases_assign hstep
      · rw [Except.ok.inj hstep]
    · simp [Toml.wrongKind] at h

/-- Texts are read under the names that they stand under. -/
theorem names_of_mapM {entries : List (String × Toml)} {aliases : List (String × String)}
    (h : (entries.mapM fun (name, v) => do .ok (name, ← v.text) : Except String (List (String × String))) =
      .ok aliases) : aliases.map (·.1) = entries.map (·.1) := by
  induction entries generalizing aliases with
  | nil => exact congrArg _ (Except.ok.inj h).symm
  | cons e entries ih =>
    rw [List.mapM_cons] at h
    obtain ⟨first, hfirst, h⟩ := ok_of_bind h
    obtain ⟨rest, hrest, h⟩ := ok_of_bind h
    obtain ⟨target, -, hfirst⟩ := ok_of_bind hfirst
    rw [← Except.ok.inj h, ← Except.ok.inj hfirst, List.map_cons, ih hrest, List.map_cons]

theorem ordered_entries? {entries : Keyed Toml} (hv : v.InOrder) (h : v.entries? = some entries) :
    entries.Ordered := by
  cases v with
  | table entries => exact Option.some.inj h ▸ hv _ rfl
  | moment m => exact Option.some.inj h ▸ List.pairwise_singleton _ _
  | _ => cases h

/-- Aliases stand in the order of the entries that they are read from. -/
theorem ordered_readAliases {base : Config} (hv : v.InOrder) (h : readAliases v base = .ok c) :
    c.aliases.Ordered := by
  unfold readAliases at h
  split at h
  · rename_i entries hentries
    obtain ⟨aliases, haliases, h⟩ := ok_of_bind h
    have hordered : (entries.map (·.1)).Pairwise (· < ·) :=
      List.pairwise_map.mpr (ordered_entries? hv hentries)
    rw [← names_of_mapM haliases] at hordered
    exact Except.ok.inj h ▸ List.pairwise_map.mp hordered
  · simp [Toml.wrongKind] at h

/-- The aliases of a configuration that is read stand in order. -/
theorem ordered_ofToml? {text : String} (h : ofToml? text = some c) : c.aliases.Ordered := by
  obtain ⟨root, hroot, h⟩ := Option.bind_eq_some_iff.mp h
  have hread := ok_of_toOption h
  obtain ⟨base, hbase, hread⟩ := ok_of_bind hread
  have hnone : base.aliases = [] := by
    refine aliases_foldlM (fun {b title b'} hstep => ?_) hbase
    split at hstep
    · exact aliases_readSection hstep
    · rw [Except.ok.inj hstep]
  split at hread
  · rename_i v hfound
    refine ordered_readAliases (fun entries hv => ?_) hread
    exact Toml.ordered_of_read? hroot (hv ▸ hfound)
  · rw [← Except.ok.inj hread, hnone]
    exact .nil

/-- The configurations that come up: the defaults, what a document holds, and what changes of single
settings make of these. -/
inductive Reachable : Config → Prop
  /-- The defaults. -/
  | standard : Reachable standard
  /-- What a document holds. -/
  | read {text : String} {c : Config} (h : ofToml? text = some c) : Reachable c
  /-- What a change makes of another. -/
  | set {c c' : Config} {key raw : String} {v : Toml} (hc : Reachable c)
    (h : c.set key raw = .ok (v, c')) : Reachable c'

/-- Aliases always stand in order. -/
theorem Reachable.ordered (h : c.Reachable) : c.aliases.Ordered := by
  induction h with
  | standard => exact .nil
  | read h => exact ordered_ofToml? h
  | set _ h ih =>
    obtain ⟨title, name, -, henter, -⟩ := enter_of_set h
    exact ordered_enter ih henter

/-! ## Changes -/

/-- A change in place: the answer, and the configuration that holds afterwards. -/
def change (c : Config) (key raw : String) : Except ShellError Toml × Config :=
  match c.set key raw with
  | .ok (v, updated) => (.ok v, updated)
  | .error e => (.error e, c)

/-- A key with a dot is cut there. -/
theorem exists_cutAt?_of_dot (h : '.' ∈ key.toList) :
    ∃ title name, cutAt? '.' key = some (title, name) := by
  obtain ⟨before, after, hcut⟩ := Text.cut?_of_mem (p := (· == '.')) h (by decide)
  exact ⟨.ofList before, .ofList after, congrArg (Option.map _) hcut⟩

/-- Only a configuration that can be written is changed. -/
theorem isWritable_of_set (h : c.set key raw = .ok (v, c')) : c.isWritable := by
  unfold set at h
  dsimp only at h
  split at h
  · simp at h
  · obtain ⟨table, htable, -⟩ := ok_of_bind h
    exact isWritable_of_toTable htable

/-- What a change does that is made. -/
theorem set_frame (haliases : c.aliases.Ordered) (h : c.set key raw = .ok (v, c')) :
    c'.get key = .ok (some v) ∧ v = valueOf raw ∧
      (∀ other : String, '.' ∈ other.toList → other ≠ key → c'.get other = c.get other) ∧
      (c'.aliases = c.aliases ∨
        ∃ name target, key = "aliases." ++ name ∧ c'.aliases = c.aliases.insert name target) := by
  obtain ⟨title, name, hcut, henter, hget⟩ := enter_of_set h
  have hwritable : c.isWritable := isWritable_of_set h
  have hwritable' : c'.isWritable := (set_ok h).1
  have haliases' : c'.aliases.Ordered := ordered_enter haliases henter
  refine ⟨hget, ?_, fun other hdot hne => ?_, ?_⟩
  · -- the answer is what is found under the key, so its name has no dot and the value was entered
    rw [get_of_cut hwritable' haliases' hcut, Except.ok.injEq] at hget
    split at hget
    · cases hget
    · exact entry?_enter henter hget
  · obtain ⟨title', name', hcut'⟩ := exists_cutAt?_of_dot hdot
    have hentry : (title', name') ≠ (title, name) := by
      rintro ⟨⟩
      exact hne ((Text.eq_of_cutAt? hcut').trans (Text.eq_of_cutAt? hcut).symm)
    rw [get_of_cut hwritable' haliases' hcut', get_of_cut hwritable haliases hcut',
      entry?_enter_of_ne henter hentry]
  · rcases aliases_enter henter with hsame | ⟨rfl, target, -, hentered⟩
    · exact .inl hsame
    · exact .inr ⟨name, target, Text.eq_of_cutAt? hcut, hentered⟩

/-- **A change that fails leaves a configuration alone, and one that is made enters one value:** the one
that its text stands for is found under its key, what stands under any other dotted key stands there
still, and no alias changes but the one that the key names. -/
theorem change_frame (h : c.Reachable) (key raw : String) :
    (∀ e, (c.change key raw).1 = .error e → (c.change key raw).2 = c) ∧
      ∀ v, (c.change key raw).1 = .ok v →
        (c.change key raw).2.get key = .ok (some v) ∧ v = valueOf raw ∧
        (∀ other : String, '.' ∈ other.toList → other ≠ key →
          (c.change key raw).2.get other = c.get other) ∧
        ((c.change key raw).2.aliases = c.aliases ∨ ∃ name target, key = "aliases." ++ name ∧
          (c.change key raw).2.aliases = c.aliases.insert name target) ∧
        ∀ name, key ≠ "aliases." ++ name →
          (c.change key raw).2.aliases.find? name = c.aliases.find? name := by
  unfold Config.change
  cases hset : c.set key raw with
  | error e => exact ⟨fun _ _ => rfl, fun _ heq => (nomatch heq)⟩
  | ok answer =>
    obtain ⟨v, c'⟩ := answer
    obtain ⟨hget, hvalue, hother, haliases⟩ := set_frame h.ordered hset
    refine ⟨fun _ heq => (nomatch heq), fun w heq => ?_⟩
    obtain rfl := Except.ok.inj heq
    refine ⟨hget, hvalue, hother, haliases, fun name hkey => ?_⟩
    rcases haliases with hsame | ⟨changed, target, rfl, hentered⟩
    · rw [hsame]
    · have hne : changed ≠ name := fun heq => hkey (heq ▸ rfl)
      dsimp only
      rw [hentered, Keyed.find?_insert, if_neg hne]

/-- Another capacity among the defaults: it is found, the other sizes are as they were, and there is
still no alias. -/
theorem change_frame_standard :
    Reachable standard ∧ (standard.change "pipe.capacity" "7").1 = .ok (.integer 7) ∧
      (standard.change "pipe.capacity" "7").2.get "pipe.capacity" = .ok (some (.integer 7)) ∧
      (standard.change "pipe.capacity" "7").2.get "history.max_size" =
        standard.get "history.max_size" ∧
      (standard.change "pipe.capacity" "7").2.aliases.find? "hi" = none := by
  have hmade : (standard.change "pipe.capacity" "7").1 = .ok (.integer 7) := rfl
  obtain ⟨hget, -, hother, -, haliases⟩ := (change_frame .standard "pipe.capacity" "7").2 _ hmade
  exact ⟨.standard, hmade, hget, hother "history.max_size" (by decide) (by decide),
    haliases "hi" (by decide)⟩

end Config

end Pipework
