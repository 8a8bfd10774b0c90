import Pipework.Proofs.Text.Keyed
import Pipework.Toml.Reader

/-!
# Tables in order

Whatever document is read, its root table is in order, and so are the tables that stand in it
(`ordered_of_read?`). Entries are only ever put in under their keys, which keeps the order at every level
of a document under construction (`Part.Wf`).
-/

namespace Pipework.Toml

/-- If the value is a table, its keys are in order. -/
def InOrder (v : Toml) : Prop := ∀ entries, v = .table entries → Keyed.Ordered entries

namespace Part

/-- The tables that a part is made of are in order, on every level. -/
inductive Wf : Part → Prop
  /-- A value, if it is in order itself. -/
  | value {v : Toml} (h : v.InOrder) : Wf (.value v)
  /-- A table of such parts. -/
  | table {origin : Origin} {entries : Keyed Part} (hordered : entries.Ordered)
    (hentries : ∀ e ∈ entries, Wf e.2) : Wf (.table origin entries)
  /-- An array of such tables. -/
  | tables {elements : List (Keyed Part)} (hordered : ∀ entries ∈ elements, entries.Ordered)
    (hentries : ∀ entries ∈ elements, ∀ e ∈ entries, Wf e.2) : Wf (.tables elements)

/-- Entries in order, and parts made of such tables. -/
structure Sorted (entries : Keyed Part) : Prop where
  ordered : entries.Ordered
  parts : ∀ e ∈ entries, e.2.Wf

namespace Sorted

variable {entries : Keyed Part} {key : String} {p : Part}

theorem nil : Sorted [] := ⟨.nil, by simp⟩

theorem insert (h : Sorted entries) (hp : p.Wf) : Sorted (entries.insert key p) := by
  refine ⟨Keyed.ordered_insert h.ordered, fun e he => ?_⟩
  rcases Keyed.mem_insert he with rfl | he
  · exact hp
  · exact h.parts e he

theorem find? (h : Sorted entries) (hfound : entries.find? key = some p) : p.Wf :=
  h.parts _ (Keyed.mem_of_find? hfound)

theorem table {origin : Origin} (h : Sorted entries) : Wf (.table origin entries) :=
  .table h.ordered h.parts

end Sorted

/-- A change of one table that keeps the order keeps it at every level. -/
theorem Sorted.change {through : Origin} {f : Origin → Keyed Part → Option (Keyed Part)}
    (hf : ∀ {origin entries entries'}, Sorted entries → f origin entries = some entries' → Sorted entries')
    {path : List String} {origin : Origin} {entries entries' : Keyed Part} (h : Sorted entries)
    (hchange : Part.change through f path origin entries = some entries') : Sorted entries' := by
  induction path generalizing origin entries entries' with
  | nil => exact hf h hchange
  | cons key path ih =>
    rw [Part.change.eq_def] at hchange
    dsimp only at hchange
    -- the path leads through nothing yet, through a table, or through the last element of an array
    split at hchange
    · obtain ⟨inner, hinner, heq⟩ := Option.bind_eq_some_iff.mp hchange
      exact Option.some.inj heq ▸ h.insert (ih .nil hinner).table
    · rename_i hfound
      obtain ⟨-, -, hchange⟩ := Option.bind_eq_some_iff.mp hchange
      obtain ⟨inner, hinner, heq⟩ := Option.bind_eq_some_iff.mp hchange
      cases h.find? hfound with
      | table hordered hentries =>
        exact Option.some.inj heq ▸ h.insert (ih ⟨hordered, hentries⟩ hinner).table
    · rename_i last earlier hfound
      obtain ⟨inner, hinner, heq⟩ := Option.bind_eq_some_iff.mp hchange
      cases h.find? hfound with
      | tables hordered hentries =>
        have hlast := ih ⟨hordered _ List.mem_cons_self, hentries _ List.mem_cons_self⟩ hinner
        refine Option.some.inj heq ▸ h.insert (.tables (fun es hes => ?_) fun es hes => ?_)
        all_goals rcases List.mem_cons.mp hes with rfl | hes
        · exact hlast.ordered
        · exact hordered es (List.mem_cons_of_mem _ hes)
        · exact hlast.parts
        · exact hentries es (List.mem_cons_of_mem _ hes)
    · simp at hchange

theorem Sorted.enter {path : List String} {v : Toml} {origin : Origin} {entries entries' : Keyed Part}
    (h : Sorted entries) (hv : v.InOrder) (henter : Part.enter path v origin entries = some entries') :
    Sorted entries' := by
  obtain ⟨key, -, hchange⟩ := Option.bind_eq_some_iff.mp henter
  refine h.change (fun {_ _ _} h hf => ?_) hchange
  obtain ⟨-, -, hf⟩ := Option.bind_eq_some_iff.mp hf
  obtain ⟨-, -, hf⟩ := Option.bind_eq_some_iff.mp hf
  exact Option.some.inj hf ▸ h.insert (.value hv)

theorem Sorted.openTable {path : List String} {root root' : Keyed Part} (h : Sorted root)
    (hopen : Part.openTable path root = some root') : Sorted root' := by
  obtain ⟨key, -, hchange⟩ := Option.bind_eq_some_iff.mp hopen
  refine h.change (fun {_ _ _} h hf => ?_) hchange
  split at hf
  · exact Option.some.inj hf ▸ h.insert Sorted.nil.table
  · rename_i hfound
    cases h.find? hfound with
    | table hordered hentries => exact Option.some.inj hf ▸ h.insert (.table hordered hentries)
  · simp at hf

theorem Sorted.openElement {path : List String} {root root' : Keyed Part} (h : Sorted root)
    (hopen : Part.openElement path root = some root') : Sorted root' := by
  obtain ⟨key, -, hchange⟩ := Option.bind_eq_some_iff.mp hopen
  refine h.change (fun {_ _ _} h hf => ?_) hchange
  split at hf
  · exact Option.some.inj hf ▸ h.insert (.tables (by simp; exact .nil) (by simp))
  · rename_i hfound
    cases h.find? hfound with
    | tables hordered hentries =>
      refine Option.some.inj hf ▸ h.insert (.tables (fun es hes => ?_) fun es hes => ?_)
      all_goals rcases List.mem_cons.mp hes with rfl | hes
      · exact .nil
      · exact hordered es hes
      · simp
      · exact hentries es hes
  · simp at hf

end Part

namespace Part

theorem finishEntries_eq_map (entries : Keyed Part) :
    finishEntries entries = entries.map fun e => (e.1, e.2.finish) := by
  induction entries with
  | nil => rfl
  | cons e entries ih => rw [finishEntries, ih, List.map_cons]

theorem Sorted.finishEntries {entries : Keyed Part} (h : Sorted entries) :
    Keyed.Ordered (finishEntries entries) := by
  rw [finishEntries_eq_map]
  exact h.ordered.map fun _ => rfl

theorem Wf.finish {p : Part} (h : p.Wf) : p.finish.InOrder := by
  intro entries heq
  cases h with
  | value hv => exact hv entries heq
  | table hordered hentries =>
    rw [Part.finish] at heq
    exact Toml.table.inj heq ▸ Sorted.finishEntries ⟨hordered, hentries⟩
  | tables => simp [Part.finish] at heq

end Part

/-! ## Reading -/

theorem inOrder_of_ne {v : Toml} (h : ∀ entries, v ≠ .table entries) : v.InOrder :=
  fun entries heq => absurd heq (h entries)

theorem inOrder_bareValue? {cs : List Char} {v : Toml} (h : bareValue? cs = some v) : v.InOrder := by
  refine inOrder_of_ne fun entries => ?_
  unfold bareValue? at h
  split at h
  · simp [← Option.some.inj h]
  split at h
  · simp [← Option.some.inj h]
  split at h
  · simp [← Option.some.inj h]
  · simp [← Option.some.inj h]
  · simp [← Option.some.inj h]
  · simp at h

/-- Inline tables are read in order. -/
theorem inOrder_readValue {fuel : Nat} :
    (∀ {depth cs v rest}, readValue fuel depth cs = some (v, rest) → v.InOrder) ∧
      ∀ {depth entries cs entries' rest}, Part.Sorted entries →
        readEntries fuel depth entries cs = some (entries', rest) → Part.Sorted entries' := by
  induction fuel with
  | zero => simp [readValue, readEntries]
  | succ fuel ih =>
    obtain ⟨ihValue, ihEntries⟩ := ih
    constructor
    · intro depth cs v rest h
      unfold readValue at h
      split at h
      · simp only [Option.map_eq_some_iff, Prod.mk.injEq] at h
        obtain ⟨_, -, rfl, -⟩ := h
        exact inOrder_of_ne (by simp)
      · simp only [Option.map_eq_some_iff, Prod.mk.injEq] at h
        obtain ⟨_, -, rfl, -⟩ := h
        exact inOrder_of_ne (by simp)
      · split at h
        · simp at h
        · simp only [Option.map_eq_some_iff, Prod.mk.injEq] at h
          obtain ⟨_, -, rfl, -⟩ := h
          exact inOrder_of_ne (by simp)
      · split at h
        · simp at h
        · simp only [Option.map_eq_some_iff, Prod.mk.injEq] at h
          obtain ⟨⟨entries, _⟩, hentries, rfl, -⟩ := h
          rintro _ ⟨⟩
          exact (ihEntries .nil hentries).finishEntries
      · simp only [Option.map_eq_some_iff, Prod.mk.injEq] at h
        obtain ⟨_, hbare, rfl, -⟩ := h
        exact inOrder_bareValue? hbare
    · intro depth entries cs entries' rest hsorted h
      unfold readEntries at h
      split at h
      · simp only [Option.some.injEq, Prod.mk.injEq] at h
        exact h.1 ▸ hsorted
      · obtain ⟨⟨path, after⟩, -, h⟩ := Option.bind_eq_some_iff.mp h
        dsimp only at h
        split at h
        · obtain ⟨⟨v, after⟩, hvalue, h⟩ := Option.bind_eq_some_iff.mp h
          obtain ⟨entered, henter, h⟩ := Option.bind_eq_some_iff.mp h
          have hentered := hsorted.enter (ihValue hvalue) henter
          split at h
          · simp only [Option.some.injEq, Prod.mk.injEq] at h
            exact h.1 ▸ hentered
          · exact ihEntries hentered h
          · simp at h
        · simp at h
      · simp at h

/-- A line that is read keeps the document in order. -/
theorem sorted_readLine {fuel : Nat} {doc doc' : Document} {cs rest : List Char}
    (h : Part.Sorted doc.root) (hread : readLine fuel doc cs = some (doc', rest)) :
    Part.Sorted doc'.root := by
  unfold readLine at hread
  split at hread
  · obtain ⟨⟨path, after⟩, -, hread⟩ := Option.bind_eq_some_iff.mp hread
    dsimp only at hread
    split at hread
    · obtain ⟨root, hroot, hread⟩ := Option.bind_eq_some_iff.mp hread
      simp only [Option.some.injEq, Prod.mk.injEq] at hread
      exact hread.1 ▸ h.openElement hroot
    · simp at hread
  · obtain ⟨⟨path, after⟩, -, hread⟩ := Option.bind_eq_some_iff.mp hread
    dsimp only at hread
    split at hread
    · obtain ⟨root, hroot, hread⟩ := Option.bind_eq_some_iff.mp hread
      simp only [Option.some.injEq, Prod.mk.injEq] at hread
      exact hread.1 ▸ h.openTable hroot
    · simp at hread
  · obtain ⟨⟨path, after⟩, -, hread⟩ := Option.bind_eq_some_iff.mp hread
    dsimp only at hread
    split at hread
    · obtain ⟨⟨v, after⟩, hvalue, hread⟩ := Option.bind_eq_some_iff.mp hread
      obtain ⟨root, hroot, hread⟩ := Option.bind_eq_some_iff.mp hread
      simp only [Option.some.injEq, Prod.mk.injEq] at hread
      have hv := inOrder_readValue.1 hvalue
      exact hread.1 ▸ h.change (fun h hf => h.enter hv hf) hroot
    · simp at hread

theorem sorted_readLines {fuel : Nat} {doc doc' : Document} {cs : List Char}
    (h : Part.Sorted doc.root) (hread : readLines fuel doc cs = some doc') : Part.Sorted doc'.root := by
  induction fuel generalizing doc cs with
  | zero => simp [readLines] at hread
  | succ fuel ih =>
    unfold readLines at hread
    split at hread
    · simp at hread
    · exact Option.some.inj hread ▸ h
    · obtain ⟨⟨next, rest⟩, hline, hread⟩ := Option.bind_eq_some_iff.mp hread
      obtain ⟨rest, -, hread⟩ := Option.bind_eq_some_iff.mp hread
      exact ih (sorted_readLine h hline) hread

/-- **A table that stands in a document is read in order.** -/
theorem ordered_of_read? {text key : String} {root : Keyed Toml} {entries : List (String × Toml)}
    (h : read? text = some root) (hfound : root.find? key = some (.table entries)) :
    Keyed.Ordered entries := by
  obtain ⟨doc, hlines, rfl⟩ := Option.map_eq_some_iff.mp h
  have hsorted : Part.Sorted doc.root := sorted_readLines .nil hlines
  have hmem := Keyed.mem_of_find? hfound
  rw [Part.finishEntries_eq_map] at hmem
  obtain ⟨e, he, heq⟩ := List.mem_map.mp hmem
  exact (hsorted.parts e he).finish entries (congrArg Prod.snd heq)

end Pipework.Toml
