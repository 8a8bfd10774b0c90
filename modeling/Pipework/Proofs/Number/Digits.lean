import Mathlib
import Pipework.Number.Layout
import Pipework.Number.Reading

/-!
# Decimal digits

What `Nat.toDigits` writes of a natural are ASCII digits without a needless zero in front, and they
stand for the natural again (`digitsValue_toDigits`). The digits of a natural that goes on behind
another shift it by their number (`digitsValue_append`), and a natural has as many digits as powers of
ten it reaches (`lt_pow_digitCount`, `pow_digitCount_le`).
-/

namespace Pipework.Number

/-! ## The digits of a natural -/

theorem isDigit_of_mem_toDigits {k : Nat} {c : Char} (hc : c ∈ Nat.toDigits 10 k) :
    isDigit c = true := by
  have hdigit := Nat.isDigit_of_mem_toDigits (by decide) (by decide) hc
  simpa [Char.isDigit, isDigit, Char.le_def, ge_iff_le, and_comm] using hdigit

theorem isDigit_of_mem_toString {k : Nat} {c : Char} (hc : c ∈ (toString k).toList) :
    isDigit c = true := by
  rw [Nat.toString_eq_repr, Nat.toList_repr] at hc
  exact isDigit_of_mem_toDigits hc

/-- The digits of a positive number begin with no zero. -/
theorem head?_toDigits {n : Nat} (hn : 0 < n) : (Nat.toDigits 10 n).head? ≠ some '0' := by
  induction n using Nat.strongRecOn with
  | ind n ih =>
    rw [Nat.toDigits_eq_if (by decide)]
    split
    · rename_i hsmall
      have hdigit : ∀ n < 10, 0 < n → [n.digitChar].head? ≠ some '0' := by decide
      exact hdigit n hsmall hn
    · rw [List.head?_append_of_ne_nil _ Nat.toDigits_ne_nil]
      exact ih (n / 10) (by omega) (by omega)

/-! ## What digits stand for -/

theorem digitsValue_toDigits (n : Nat) : digitsValue (Nat.toDigits 10 n) = n :=
  Nat.ofDigitChars_ten_toDigits

theorem digitsValue_append (cs ds : List Char) :
    digitsValue (cs ++ ds) = 10 ^ ds.length * digitsValue cs + digitsValue ds := by
  have hshift : Nat.ofDigitChars 10 ds (digitsValue cs) =
      10 ^ ds.length * digitsValue cs + Nat.ofDigitChars 10 ds 0 := Nat.ofDigitChars_eq_ofDigitChars_zero
  rw [digitsValue, List.foldl_append]
  exact hshift

theorem digitsValue_zeros (n : Nat) : digitsValue (List.replicate n '0') = 0 :=
  Nat.ofDigitChars_replicate_zero.trans (Nat.mul_zero _)

/-- A run of digits is taken up to what follows it. -/
theorem takeWhile_digits {cs rest : List Char} (hcs : ∀ c ∈ cs, isDigit c = true)
    (hrest : ∀ c ∈ rest.head?, isDigit c = false) :
    (cs ++ rest).takeWhile isDigit = cs ∧ (cs ++ rest).dropWhile isDigit = rest := by
  rw [List.takeWhile_append_of_pos hcs, List.dropWhile_append_of_pos hcs]
  cases rest with
  | nil => simp
  | cons c rest =>
    have hc : isDigit c = false := hrest c rfl
    simp [hc]

/-! ## How many digits -/

theorem digitCount_pos (n : Nat) : 0 < digitCount n := Nat.length_toDigits_pos

theorem digitCount_le_iff {n k : Nat} (hk : 0 < k) : digitCount n ≤ k ↔ n < 10 ^ k :=
  Nat.length_toDigits_le_iff (by decide) hk

theorem lt_pow_digitCount (n : Nat) : n < 10 ^ digitCount n :=
  (digitCount_le_iff (digitCount_pos n)).mp (Nat.le_refl _)

theorem pow_digitCount_le {n : Nat} (hn : 0 < n) : 10 ^ (digitCount n - 1) ≤ n := by
  rcases Nat.eq_zero_or_pos (digitCount n - 1) with hone | hmore
  · rw [hone]
    exact hn
  · by_contra hlt
    have hfewer := (digitCount_le_iff hmore).mpr (Nat.lt_of_not_le hlt)
    omega

end Pipework.Number
