import Mathlib
import Pipework.Text.Keyed

/-!
# Entries of keyed lists

What is found is an entry, and an entry put in is found in place of the one before it. Entering and
removing bring nothing else in. In a list whose numbers differ every entry is found under its own.
Entering keeps the order of the keys (`Ordered`), and entries in order are a table already.
-/

namespace Pipework.Keyed

variable {α : Type} {entries : Keyed α} {key : String} {a : α} {e : String × α}

theorem mem_of_find? (h : entries.find? key = some a) : (key, a) ∈ entries := by
  induction entries with
  | nil => simp [find?] at h
  | cons e entries ih =>
    obtain ⟨k, b⟩ := e
    simp only [find?] at h
    split at h <;> rename_i hkey
    · obtain rfl := Option.some.inj h
      exact hkey ▸ List.mem_cons_self
    · exact List.mem_cons_of_mem _ (ih h)

theorem mem_insert (h : e ∈ entries.insert key a) : e = (key, a) ∨ e ∈ entries := by
  induction entries with
  | nil => exact .inl (List.mem_singleton.mp h)
  | cons first entries ih =>
    obtain ⟨k, b⟩ := first
    simp only [insert] at h
    split at h
    · exact List.mem_cons.mp h
    · split at h
      · exact (List.mem_cons.mp h).imp_right (List.mem_cons_of_mem _)
      · rcases List.mem_cons.mp h with rfl | h
        · exact .inr List.mem_cons_self
        · exact (ih h).imp_right (List.mem_cons_of_mem _)

theorem mem_erase (h : e ∈ entries.erase key) : e ∈ entries := List.mem_of_mem_filter h

theorem mem_ofList {entries : List (String × α)} (h : e ∈ ofList entries) : e ∈ entries := by
  have hfold : ∀ (entries : List (String × α)) (table : Keyed α),
      e ∈ entries.foldl (fun table e => insert e.1 e.2 table) table → e ∈ table ∨ e ∈ entries := by
    intro entries
    induction entries with
    | nil => exact fun _ => .inl
    | cons first entries ih =>
      intro table h
      rcases ih _ h with h | h
      · rcases mem_insert h with rfl | h
        · exact .inr List.mem_cons_self
        · exact .inl h
      · exact .inr (List.mem_cons_of_mem _ h)
  exact (hfold entries [] h).resolve_left List.not_mem_nil

theorem find?_insert (key other : String) (a : α) :
    (entries.insert key a).find? other = if key = other then some a else entries.find? other := by
  induction entries with
  | nil => rfl
  | cons e entries ih =>
    obtain ⟨k, b⟩ := e
    simp only [insert]
    split
    · rfl
    · split <;> rename_i hkey
      · subst hkey
        simp only [find?]
        split <;> rfl
      · simp only [find?, ih]
        by_cases hk : k = other
        · subst hk
          rw [if_pos rfl, if_neg hkey, if_pos rfl]
        · rw [if_neg hk, if_neg hk]

/-- An entry is found under its number if no other has the same. -/
theorem find?_numbered {β : Type*} {b : β} {number : Nat} {numbered : List (Nat × β)}
    (h : (numbered.map (·.1)).Nodup) (hb : (number, b) ∈ numbered) :
    numbered.find? (·.1 == number) = some (number, b) := by
  obtain ⟨found, hfound⟩ : ∃ found, numbered.find? (·.1 == number) = some found :=
    Option.isSome_iff_exists.mp (List.find?_isSome.mpr ⟨_, hb, beq_self_eq_true number⟩)
  have hsame : found.1 = number := by simpa using List.find?_some hfound
  rw [hfound, List.inj_on_of_nodup_map h (List.mem_of_find?_eq_some hfound) hb hsame]

/-! ## Order -/

/-- The keys stand in ascending order, so that none stands twice. -/
def Ordered (entries : Keyed α) : Prop := entries.Pairwise (·.1 < ·.1)

instance : Decidable (Ordered entries) := inferInstanceAs (Decidable (entries.Pairwise _))

theorem ordered_insert (h : entries.Ordered) : (entries.insert key a).Ordered := by
  induction entries with
  | nil => exact List.pairwise_singleton ..
  | cons first entries ih =>
    obtain ⟨k, b⟩ := first
    obtain ⟨hfirst, hrest⟩ := List.pairwise_cons.mp h
    simp only [insert]
    split
    · rename_i hlt
      refine List.pairwise_cons.mpr ⟨fun e he => ?_, h⟩
      rcases List.mem_cons.mp he with rfl | he
      · exact hlt
      · exact lt_trans hlt (hfirst e he)
    · split
      · rename_i hkey
        exact List.pairwise_cons.mpr ⟨fun e he => hkey ▸ hfirst e he, hrest⟩
      · rename_i hle hne
        refine List.pairwise_cons.mpr ⟨fun e he => ?_, ih hrest⟩
        rcases mem_insert he with rfl | he
        · exact lt_of_le_of_ne (not_lt.mp hle) (Ne.symm hne)
        · exact hfirst e he

/-- An entry whose key comes after all others is put at the end. -/
theorem insert_last (h : ∀ e ∈ entries, e.1 < key) :
    entries.insert key a = entries ++ [(key, a)] := by
  induction entries with
  | nil => rfl
  | cons first entries ih =>
    have hfirst : first.1 < key := h first List.mem_cons_self
    rw [insert, if_neg (lt_asymm hfirst), if_neg (ne_of_gt hfirst),
      ih fun e he => h e (List.mem_cons_of_mem _ he), List.cons_append]

/-- Entries in order are a table already. -/
theorem ofList_of_ordered (h : entries.Ordered) : ofList entries = entries := by
  have hfold : ∀ (entries table : Keyed α), (table ++ entries).Ordered →
      entries.foldl (fun table e => insert e.1 e.2 table) table = table ++ entries := by
    intro entries
    induction entries with
    | nil => simp
    | cons e entries ih =>
      intro table h
      have hlast : ∀ f ∈ table, f.1 < e.1 := fun f hf =>
        (List.pairwise_append.mp h).2.2 f hf e List.mem_cons_self
      rw [List.append_cons] at h ⊢
      rw [List.foldl_cons, insert_last hlast, ih _ h]
  exact hfold entries [] h

/-- Of two entries put in under one key the later stays. -/
theorem insert_insert (key : String) (a b : α) :
    (entries.insert key a).insert key b = entries.insert key b := by
  induction entries with
  | nil => simp [insert]
  | cons first entries ih =>
    obtain ⟨k, c⟩ := first
    by_cases hlt : key < k
    · simp [insert, hlt]
    · by_cases hkey : key = k
      · simp [insert, hkey]
      · simp [insert, hlt, hkey, ih]

/-! ## Lists of entries -/

theorem find?_foldl_of_not_mem {entries : List (String × α)} (h : key ∉ entries.map (·.1))
    (table : Keyed α) :
    Keyed.find? key (entries.foldl (fun table e => insert e.1 e.2 table) table) = table.find? key := by
  induction entries generalizing table with
  | nil => rfl
  | cons e entries ih =>
    obtain ⟨hne, hrest⟩ := not_or.mp (List.mem_cons.not.mp h)
    rw [List.foldl_cons, ih hrest, find?_insert, if_neg (Ne.symm hne)]

/-- What no entry of a list goes by is not found in its table. -/
theorem find?_ofList_of_not_mem {entries : List (String × α)} (h : key ∉ entries.map (·.1)) :
    (ofList entries).find? key = none := find?_foldl_of_not_mem h []

/-- An entry of a list is found in its table if no other goes by the same key. -/
theorem find?_ofList_of_mem {entries : List (String × α)} (hnodup : (entries.map (·.1)).Nodup)
    (h : (key, a) ∈ entries) : (ofList entries).find? key = some a := by
  suffices hfold : ∀ table : Keyed α,
      Keyed.find? key (entries.foldl (fun table e => insert e.1 e.2 table) table) = some a from hfold []
  induction entries with
  | nil => exact absurd h List.not_mem_nil
  | cons e entries ih =>
    intro table
    obtain ⟨hother, hnodup⟩ := List.nodup_cons.mp hnodup
    rw [List.foldl_cons]
    rcases List.mem_cons.mp h with rfl | h
    · rw [find?_foldl_of_not_mem hother, find?_insert, if_pos rfl]
    · exact ih hnodup h _

theorem Ordered.nodup (h : entries.Ordered) : (entries.map (·.1)).Nodup := by
  rw [List.Nodup, List.pairwise_map]
  exact h.imp ne_of_lt

/-- The order is one of the keys alone. -/
theorem ordered_of_keys {β : Type} {others : Keyed β} (hkeys : others.map (·.1) = entries.map (·.1))
    (h : entries.Ordered) : others.Ordered := by
  rw [Ordered, ← List.pairwise_map] at h ⊢
  rwa [hkeys]

/-- The same function on every entry keeps the order. -/
theorem Ordered.map {β : Type} {f : String × α → String × β} (hf : ∀ e, (f e).1 = e.1)
    (h : entries.Ordered) : Ordered (entries.map f) := by
  refine ordered_of_keys ?_ h
  rw [List.map_map]
  exact List.map_congr_left fun e _ => hf e

end Pipework.Keyed
