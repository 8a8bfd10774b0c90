import Mathlib
import Pipework.Log.Filter

/-!
# The order of the rules of a filter

Specificity is a total order of the rules up to their levels: it is transitive, and only rules with
the same target and fields are equally specific (`Rule.order_eq_iff`). So every filter that is made
by adding rules has them in order (`Filter.sorted_ofRules`), and the same rules added in any other
sequence make the same filter (`Filter.ofRules_of_perm`).
-/

namespace Pipework

namespace Rule

theorem compareTargets_eq (a b : Option String) : compareTargets a b = compare a b := by
  cases a <;> cases b <;> rfl

theorem compareTexts_eq (as bs : List String) : compareTexts as bs = compare as bs := by
  induction as generalizing bs with
  | nil => cases bs <;> rfl
  | cons a as ih =>
    cases bs with
    | nil => rfl
    | cons b bs =>
      show (compare a b).then (compareTexts as bs) = List.compareLex compare (a :: as) (b :: bs)
      rw [ih, List.compareLex_cons_cons]
      rfl

/-- Specificity compares sizes, numbers of fields, targets and fields, each the other way round. -/
theorem order_eq : order = fun a b =>
    compareLex (compareLex (compareOn targetSize) (compareOn (·.fields.length)))
      (compareLex (compareOn (·.target)) (compareOn (·.fields))) b a := by
  funext a b
  simp only [order, compareTargets_eq, compareTexts_eq]
  rfl

instance : Std.TransCmp order := by
  rw [order_eq]
  infer_instance

theorem order_eq_iff (a b : Rule) :
    a.order b = .eq ↔ a.target = b.target ∧ a.fields = b.fields := by
  constructor
  · intro h
    rw [order_eq] at h
    simp only [compareLex, compareOn, Ordering.then_eq_eq, Std.compare_eq_iff_eq] at h
    exact ⟨h.2.1.symm, h.2.2.symm⟩
  · rintro ⟨htarget, hfields⟩
    rw [order_eq]
    simp [compareLex, compareOn, targetSize, htarget, hfields]

theorem differ_symm {a b : Rule} (h : a.order b ≠ .eq) : b.order a ≠ .eq :=
  fun hba => h (Std.OrientedCmp.eq_symm hba)

end Rule

namespace Filter

/-- The rules stand in the order in which they are tried. -/
def Sorted (rules : List Rule) : Prop := rules.Pairwise fun a b => a.order b = .lt

variable {rule other : Rule} {rules : List Rule}

theorem mem_insertRule (h : other ∈ insertRule rule rules) : other = rule ∨ other ∈ rules := by
  induction rules with
  | nil => simpa [insertRule] using h
  | cons first rules ih =>
    simp only [insertRule] at h
    split at h
    · simpa using h
    · rcases List.mem_cons.mp h with h | h
      · exact .inl h
      · exact .inr (List.mem_cons_of_mem _ h)
    · rcases List.mem_cons.mp h with rfl | h
      · exact .inr List.mem_cons_self
      · exact (ih h).imp_right (List.mem_cons_of_mem _)

/-- A rule is put where it belongs. -/
theorem sorted_insertRule (rule : Rule) (h : Sorted rules) : Sorted (insertRule rule rules) := by
  induction rules with
  | nil => exact List.pairwise_singleton _ _
  | cons first rules ih =>
    obtain ⟨hfirst, hrules⟩ := List.pairwise_cons.mp h
    simp only [insertRule]
    split <;> rename_i horder
    · refine List.pairwise_cons.mpr ⟨fun other hother => ?_, h⟩
      rcases List.mem_cons.mp hother with rfl | hother
      · exact horder
      · exact Std.TransCmp.lt_trans horder (hfirst other hother)
    · refine List.pairwise_cons.mpr ⟨fun other hother => ?_, hrules⟩
      exact Std.TransCmp.lt_of_eq_of_lt horder (hfirst other hother)
    · refine List.pairwise_cons.mpr ⟨fun other hother => ?_, ih hrules⟩
      rcases mem_insertRule hother with rfl | hother
      · exact Std.OrientedCmp.gt_iff_lt.mp horder
      · exact hfirst other hother

/-- A rule that replaces none joins the others. -/
theorem perm_insertRule (h : ∀ other ∈ rules, rule.order other ≠ .eq) :
    (insertRule rule rules).Perm (rule :: rules) := by
  induction rules with
  | nil => exact .refl _
  | cons first rules ih =>
    simp only [insertRule]
    split <;> rename_i horder
    · exact .refl _
    · exact absurd horder (h first List.mem_cons_self)
    · have htail := ih fun other hother => h other (List.mem_cons_of_mem _ hother)
      exact (htail.cons first).trans (.swap rule first rules)

/-- The rules of a filter that has been made by adding rules are in order. -/
theorem sorted_foldl (added : List Rule) {filter : Filter} (h : Sorted filter.rules) :
    Sorted (added.foldl add filter).rules := by
  induction added generalizing filter with
  | nil => exact h
  | cons rule added ih => exact ih (sorted_insertRule rule h)

theorem sorted_ofRules (added : List Rule) : Sorted (ofRules added).rules :=
  sorted_foldl added List.Pairwise.nil

/-- Adding rules that replace none collects them. -/
theorem perm_foldl {added : List Rule} {filter : Filter}
    (h : (added ++ filter.rules).Pairwise fun a b => a.order b ≠ .eq) :
    (added.foldl add filter).rules.Perm (added ++ filter.rules) := by
  induction added generalizing filter with
  | nil => exact .refl _
  | cons rule added ih =>
    obtain ⟨hrule, htail⟩ := List.pairwise_cons.mp h
    have hadd : (filter.add rule).rules.Perm (rule :: filter.rules) :=
      perm_insertRule fun other hother => hrule other (List.mem_append_right _ hother)
    have hperm : (added ++ (filter.add rule).rules).Perm (rule :: (added ++ filter.rules)) :=
      (hadd.append_left added).trans List.perm_middle
    exact (ih ((hperm.pairwise_iff Rule.differ_symm).mpr h)).trans hperm

/-- The rules of a filter make it again, in whatever sequence they are added. -/
theorem ofRules_of_perm {added : List Rule} (hrules : Sorted rules) (hperm : added.Perm rules) :
    ofRules added = ⟨rules⟩ := by
  have hdistinct : added.Pairwise fun a b => a.order b ≠ .eq := by
    refine (hperm.pairwise_iff Rule.differ_symm).mpr ?_
    exact hrules.imp fun hab => by simp [hab]
  have hmade : (ofRules added).rules.Perm rules := by
    have hfold : (ofRules added).rules.Perm (added ++ []) :=
      @perm_foldl added ⟨[]⟩ (by simpa using hdistinct)
    rw [List.append_nil] at hfold
    exact hfold.trans hperm
  have hsame : (ofRules added).rules = rules := by
    refine hmade.eq_of_pairwise (fun a b _ _ hab hba => ?_) (sorted_ofRules added) hrules
    have hswap : a.order b = (b.order a).swap := Std.OrientedCmp.eq_swap
    rw [hba, hab] at hswap
    exact absurd hswap (by decide)
  exact congrArg Filter.mk hsame

end Filter

end Pipework
