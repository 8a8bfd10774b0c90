import Mathlib
import Pipework.Proofs.Number.Digits

/-!
# The size of shortest decimals

The grids on which a shortest decimal is looked for begin at the first digit of the number
(`lt_leadingExponent`), so that a grid that is `n` steps finer has no more than `10 ^ (n + 1)` whole
numbers up to it, and after all steps there are 18 digits at most (`firstHit_spec`). With the bounds on
the parts of a number (`Parts.of_finite`) this gives the bounds on its decimal: **`shortest_bounds`**.
-/

namespace Pipework.Number

/-- The number that an interval is around. -/
def Interval.size (i : Interval) : ℚ := i.value / i.den

theorem Interval.size_inUnits (i : Interval) (k : Int) : (i.inUnits k).size = i.size / 10 ^ k := by
  unfold inUnits
  split
  · rename_i hk
    obtain ⟨n, rfl⟩ := Int.eq_ofNat_of_zero_le hk
    simp only [size, Nat.pow_eq, Int.toNat_natCast, zpow_natCast]
    push_cast
    rw [div_div]
  · rename_i hk
    obtain ⟨n, rfl⟩ : ∃ n : ℕ, k = -(n : Int) := ⟨(-k).toNat, by omega⟩
    simp only [size, Nat.pow_eq, neg_neg, Int.toNat_natCast, zpow_neg, zpow_natCast, div_inv_eq_mul]
    push_cast
    rw [div_mul_eq_mul_div]

theorem Interval.den_inUnits {i : Interval} (h : 0 < i.den) (k : Int) : 0 < (i.inUnits k).den := by
  unfold inUnits
  split
  · exact Nat.mul_pos h (Nat.pow_pos (by decide))
  · exact h

/-- A ratio is less than the power of ten after the one of its first digit. -/
theorem lt_leadingExponent (value : Nat) {den : Nat} (hden : 0 < den) :
    (value : ℚ) / den < 10 ^ (leadingExponent value den + 1) := by
  have hpos : (0 : ℚ) < den := by exact_mod_cast hden
  have hvalue : (value : ℚ) < 10 ^ digitCount value := by exact_mod_cast lt_pow_digitCount value
  have hlow : (10 : ℚ) ^ (digitCount den - 1) ≤ den := by exact_mod_cast pow_digitCount_le hden
  have hone := digitCount_pos den
  rw [div_lt_iff₀ hpos]
  unfold leadingExponent
  dsimp only
  set guess : Int := (digitCount value : Int) - digitCount den with hguess
  -- the digit counts alone are one power of ten off at most; the guess is lowered where they are
  have hlarge : (value : ℚ) < 10 ^ (guess + 1) * den := by
    calc (value : ℚ) < 10 ^ digitCount value := hvalue
      _ = 10 ^ (guess + 1) * 10 ^ (digitCount den - 1) := by
        rw [← zpow_natCast, ← zpow_natCast, ← zpow_add₀ (by norm_num)]
        congr 1
        omega
      _ ≤ 10 ^ (guess + 1) * den := by gcongr
  by_cases hk : 0 ≤ guess
  · obtain ⟨n, hn⟩ := Int.eq_ofNat_of_zero_le hk
    simp only [hk, if_true]
    split
    · rename_i hsmall
      have hlt : value < den * 10 ^ n := by simpa [hn] using hsmall
      rw [Int.sub_add_cancel, hn, zpow_natCast, mul_comm]
      exact_mod_cast hlt
    · exact hlarge
  · obtain ⟨n, hn⟩ : ∃ n : ℕ, guess = -(n : Int) := ⟨(-guess).toNat, by omega⟩
    simp only [hk, if_false]
    split
    · rename_i hsmall
      have hlt : value * 10 ^ n < den := by simpa [hn] using hsmall
      rw [Int.sub_add_cancel, hn, zpow_neg, zpow_natCast, inv_mul_eq_div, lt_div_iff₀ (by positivity)]
      exact_mod_cast hlt
    · exact hlarge

theorem Interval.le_of_nearestWhole? {tie : Tie} {i : Interval} {d : Nat}
    (h : i.nearestWhole? tie = some d) : d ≤ i.value / i.den + 1 := by
  have hnearer : ∀ d gap den, tie.nearer d gap den ≤ d + 1 := by
    intro d gap den
    unfold Tie.nearer
    split
    · omega
    · split
      · omega
      · cases tie <;> dsimp only <;> omega
  unfold nearestWhole? at h
  dsimp only at h
  split at h <;> cases h
  · exact hnearer _ _ _
  · omega
  · omega

/-- The whole units of `10^k` in a number below `10^(k + n)`. -/
theorem Interval.div_inUnits_lt {i : Interval} (hden : 0 < i.den) {k : Int} {n : Nat}
    (h : i.size < 10 ^ (k + n)) : (i.inUnits k).value / (i.inUnits k).den < 10 ^ n := by
  have hpos : (0 : ℚ) < (i.inUnits k).den := by exact_mod_cast den_inUnits hden k
  have hsize : (i.inUnits k).size < 10 ^ n := by
    rw [size_inUnits, div_lt_iff₀ (by positivity), ← zpow_natCast, ← zpow_add₀ (by norm_num), add_comm]
    exact h
  rw [size, div_lt_iff₀ hpos] at hsize
  rw [Nat.div_lt_iff_lt_mul (den_inUnits hden k)]
  exact_mod_cast hsize

/-- Each grid that is passed over adds one digit at most and lowers the exponent by one. -/
theorem firstHit_spec (tie : Tie) {i : Interval} (hden : 0 < i.den) (count : Nat) {k : Int} {n : Nat}
    (h : i.size < 10 ^ (k + n)) :
    (firstHit tie i k count).digits ≤ 10 ^ (n + count) ∧
      k - count ≤ (firstHit tie i k count).exponent ∧ (firstHit tie i k count).exponent ≤ k := by
  have hwhole := Interval.div_inUnits_lt hden h
  induction count generalizing k n with
  | zero =>
    rw [firstHit]
    exact ⟨hwhole.le, by simp, le_rfl⟩
  | succ count ih =>
    have hfiner : i.size < 10 ^ (k - 1 + (n + 1 : Nat)) := by
      rwa [Nat.cast_add_one, show k - 1 + ((n : Int) + 1) = k + n by omega]
    obtain ⟨hdigits, hlow, hhigh⟩ := ih hfiner (Interval.div_inUnits_lt hden hfiner)
    rw [Nat.add_right_comm] at hdigits
    -- the grid is passed over: on the next one there is room for a digit more
    have hrest : (firstHit tie i (k - 1) count).digits ≤ 10 ^ (n + (count + 1)) ∧
        k - (count + 1 : Nat) ≤ (firstHit tie i (k - 1) count).exponent ∧
        (firstHit tie i (k - 1) count).exponent ≤ k := ⟨hdigits, by omega, by omega⟩
    rw [firstHit]
    split
    · rename_i d hhit
      split
      · exact hrest
      · refine ⟨(Interval.le_of_nearestWhole? hhit).trans ?_, by dsimp only; omega, le_rfl⟩
        calc (i.inUnits k).value / (i.inUnits k).den + 1 ≤ 10 ^ n := hwhole
          _ ≤ 10 ^ (n + (count + 1)) := Nat.pow_le_pow_right (by decide) (by omega)
    · exact hrest

/-- Numerator and denominator of the interval around a number of 53 bits. -/
theorem Interval.around_spec (m : Nat) (q : Int) :
    0 < (Interval.around m q).den ∧
      (m < 2 ^ 53 → -1074 ≤ q → q ≤ 971 →
        (Interval.around m q).value < 10 ^ 1024 ∧ (Interval.around m q).den < 10 ^ 1077) := by
  have hpow : ∀ {a b : Nat}, a ≤ b → 2 ^ a ≤ 2 ^ b := fun h => Nat.pow_le_pow_right (by decide) h
  have hten : ∀ a : Nat, 2 ^ a ≤ 10 ^ a := fun a => Nat.pow_le_pow_left (by decide) a
  unfold around
  dsimp only
  split
  · refine ⟨Nat.one_pos, fun hm _ hhigh => ⟨?_, ?_⟩⟩
    · calc 4 * m * Nat.pow 2 (q - 2).toNat < 2 ^ 55 * 2 ^ (q - 2).toNat :=
            Nat.mul_lt_mul_of_pos_right (by omega) (Nat.pow_pos (by decide))
        _ ≤ 2 ^ 55 * 2 ^ 969 := Nat.mul_le_mul_left _ (hpow (by omega))
        _ = 2 ^ 1024 := by rw [← pow_add]
        _ ≤ 10 ^ 1024 := hten _
    · exact (Nat.one_lt_two_pow (by decide)).trans_le (hten 1077)
  · refine ⟨Nat.pow_pos (by decide), fun hm hlow _ => ⟨?_, ?_⟩⟩
    · calc 4 * m * 1 < 2 ^ 55 := by omega
        _ ≤ 2 ^ 1024 := hpow (by decide)
        _ ≤ 10 ^ 1024 := hten _
    · calc Nat.pow 2 (2 - q).toNat ≤ 2 ^ 1076 := hpow (by omega)
        _ < 2 ^ 1077 := pow_lt_pow_right₀ (by decide) (by decide)
        _ ≤ 10 ^ 1077 := hten _

theorem natAbs_leadingExponent_le (value den : Nat) :
    (leadingExponent value den).natAbs ≤ digitCount value + digitCount den + 1 := by
  unfold leadingExponent
  dsimp only
  split <;> split <;> omega

theorem Decimal.stripZeros_spec (d : Decimal) :
    d.stripZeros.digits ≤ d.digits ∧
      d.stripZeros.exponent.natAbs ≤ d.exponent.natAbs + digitCount d.digits := by
  unfold stripZeros
  split
  · exact ⟨Nat.zero_le _, by simp⟩
  · have hzeros : ((Nat.toDigits 10 d.digits).reverse.takeWhile (· == '0')).length ≤
        digitCount d.digits := by
      refine (List.takeWhile_prefix _).length_le.trans ?_
      rw [List.length_reverse, digitCount]
    exact ⟨Nat.div_le_self _ _, by dsimp only; omega⟩

/-- Zeros moved out of the digits leave at least the first digit. -/
theorem Decimal.stripZeros_pos {d : Decimal} (h : d.digits ≠ 0) : 0 < d.stripZeros.digits := by
  have hpos := Nat.pos_of_ne_zero h
  have hkept : ((Nat.toDigits 10 d.digits).reverse.takeWhile (· == '0')).length ≤
      digitCount d.digits - 1 := by
    obtain ⟨c, cs, hcs⟩ := List.exists_cons_of_ne_nil (Nat.toDigits_ne_nil (b := 10) (n := d.digits))
    have hc : (c == '0') = false := by
      have hhead := head?_toDigits hpos
      rw [hcs] at hhead
      simpa using hhead
    rw [digitCount, hcs, List.reverse_cons, List.takeWhile_append]
    have hshort := (List.takeWhile_prefix (l := cs.reverse) (· == '0')).length_le
    split
    · simp [List.takeWhile, hc]
    · simpa using hshort
  unfold stripZeros
  rw [if_neg (by simpa using h)]
  exact Nat.div_pos ((Nat.pow_le_pow_right (by decide) hkept).trans (pow_digitCount_le hpos))
    (Nat.pow_pos (by decide))

/-- The shortest decimal of zero is written without zeros behind it. -/
theorem shortest_zero (tie : Tie) (m : Nat) (q : Int) (h : (shortest tie m q).digits = 0) :
    (shortest tie m q).exponent = 0 := by
  have hstrip : ∀ d : Decimal, d.stripZeros.digits = 0 → d.stripZeros.exponent = 0 := by
    intro d hd
    by_cases hzero : d.digits = 0
    · simp [Decimal.stripZeros, hzero]
    · exact absurd hd (Decimal.stripZeros_pos hzero).ne'
  unfold shortest at h ⊢
  split
  · rfl
  · rename_i hm
    rw [if_neg hm] at h
    exact hstrip _ h

/-- **The shortest decimal of a number of 53 bits** has digits within 64 bits and an exponent far within
32 bits. -/
theorem shortest_bounds (tie : Tie) {m : Nat} {q : Int} (hm : m < 2 ^ 53) (hlow : -1074 ≤ q)
    (hhigh : q ≤ 971) :
    (shortest tie m q).digits ≤ 10 ^ 18 ∧ (shortest tie m q).exponent.natAbs ≤ 2200 := by
  unfold shortest
  split
  · exact ⟨Nat.zero_le _, by simp⟩
  · obtain ⟨hden, haround⟩ := Interval.around_spec m q
    obtain ⟨hvalue, hden'⟩ := haround hm hlow hhigh
    dsimp only
    set i := Interval.around m q
    have hvalues := (digitCount_le_iff (by decide)).mpr hvalue
    have hdens := (digitCount_le_iff (by decide)).mpr hden'
    have hleading := natAbs_leadingExponent_le i.value i.den
    obtain ⟨hdigits, hfirst, hlast⟩ :=
      firstHit_spec tie hden 17 (n := 1) (lt_leadingExponent i.value hden)
    set d := firstHit tie i (leadingExponent i.value i.den) 17
    obtain ⟨hfewer, hexponent⟩ := d.stripZeros_spec
    have hcount : digitCount d.digits ≤ 19 :=
      (digitCount_le_iff (by decide)).mpr (hdigits.trans_lt (by norm_num))
    exact ⟨hfewer.trans hdigits, by omega⟩

/-- A finite number has 53 bits at most, and its exponent stays in range. -/
theorem Parts.of_finite {x : Float} {negative : Bool} {m : Nat} {q : Int}
    (h : Parts.of x = .finite negative m q) : m < 2 ^ 53 ∧ -1074 ≤ q ∧ q ≤ 971 := by
  unfold Parts.of at h
  dsimp only [Nat.pow_eq] at h
  have hfraction := Nat.mod_lt x.toBits.toNat (Nat.pow_pos (n := 52) (by decide : 0 < 2))
  have hfield := Nat.mod_lt (x.toBits.toNat / 2 ^ 52) (Nat.pow_pos (n := 11) (by decide : 0 < 2))
  split at h
  · split at h <;> cases h
  · rename_i hfinite
    rw [beq_iff_eq] at hfinite
    split at h
    · cases h
      exact ⟨by omega, le_rfl, by omega⟩
    · rename_i hnormal
      rw [beq_iff_eq] at hnormal
      cases h
      exact ⟨by omega, by omega, by omega⟩

end Pipework.Number
