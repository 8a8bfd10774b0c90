import Pipework.Proofs.Json.ReadBack
import Pipework.Proofs.Number.Magnitude

/-!
# Written numbers read back

A number in a text is digits, a fraction and an exponent (`Layout`), and both layouts that
`Number.jsonNumber?` chooses from are of that form (`positional_layout`, `scientific_layout`). The
reader takes the same digits off again. They fit in 64 bits, so none is dropped, and all that the
reader's arithmetic adds is one scaling by a power of ten (`decimalNumber?_of_le`).

* **`readValue_integer`**: an integer within 64 bits is read as it was.
* **`readValue_number`**: of a finite number the reader makes `rescaled?`, which is not always the
  number itself; where it is, the number `Survives`.
-/

namespace Pipework.Json

open Number

/-! ## The reader, part by part -/

/-- No number goes on with this text. -/
def EndsNumber (rest : List Char) : Prop :=
  ∀ c ∈ rest.head?, isDigit c = false ∧ c ≠ '.' ∧ c ≠ 'e' ∧ c ≠ 'E'

/-- The digits after a point, with the point; nothing without digits. -/
def pointed (fraction : List Char) : List Char := if fraction.isEmpty then [] else '.' :: fraction

/-- The digits before the point of a number. -/
structure WholeDigits (whole : List Char) : Prop where
  digits : ∀ c ∈ whole, isDigit c = true
  nonempty : whole ≠ []
  zero : whole.head? = some '0' → whole.length = 1

/-- What the reader makes of the text after the digits of a number. -/
def finishNumber (negative : Bool) (whole fraction rest : List Char) : Option (Json × List Char) :=
  match rest with
  | 'e' :: tail | 'E' :: tail => do
    let (e, rest) ← readExponent tail
    let x ← decimalNumber? negative whole fraction e
    some (.number x, rest)
  | _ =>
    if fraction.isEmpty then do
      let j ← wholeNumber negative whole
      some (j, rest)
    else do
      let x ← decimalNumber? negative whole fraction 0
      some (.number x, rest)

/-- A number after its sign. -/
def readUnsigned (negative : Bool) (body : List Char) : Option (Json × List Char) :=
  let whole := body.takeWhile isDigit
  if whole.isEmpty || (1 < whole.length && whole.head? == some '0') then none
  else do
    let (fraction, rest) ← readFraction (body.dropWhile isDigit)
    finishNumber negative whole fraction rest

variable {whole fraction ending tail rest : List Char}

theorem EndsNumber.stops (hrest : EndsNumber rest) : ∀ c ∈ rest.head?, isDigit c = false ∧ c ≠ '.' :=
  fun c hc => ⟨(hrest c hc).1, (hrest c hc).2.1⟩

theorem pointed_of_ne_nil (h : fraction ≠ []) : pointed fraction = '.' :: fraction := by
  cases fraction with
  | nil => exact absurd rfl h
  | cons c fraction => rfl

theorem readNumber_minus (body : List Char) : readNumber ('-' :: body) = readUnsigned true body := by
  rw [readNumber]
  rfl

theorem readNumber_unsigned {c : Char} (hc : c ≠ '-') (body : List Char) :
    readNumber (c :: body) = readUnsigned false (c :: body) := by
  rw [readNumber]
  · rfl
  · rintro rest h
    exact hc (List.cons.inj h).1

/-- The digits after a point are taken off the text. -/
theorem readFraction_pointed (hfraction : ∀ c ∈ fraction, isDigit c = true)
    (htail : ∀ c ∈ tail.head?, isDigit c = false ∧ c ≠ '.') :
    readFraction (pointed fraction ++ tail) = some (fraction, tail) := by
  cases fraction with
  | nil =>
    cases tail with
    | nil => rfl
    | cons c tail =>
      have hc : c ≠ '.' := (htail c rfl).2
      simp [pointed, readFraction, hc]
  | cons d fraction =>
    obtain ⟨htake, hdrop⟩ := takeWhile_digits hfraction fun c hc => (htail c hc).1
    simp only [pointed, List.isEmpty_cons, Bool.false_eq_true, if_false, List.cons_append, readFraction]
    rw [← List.cons_append, htake, hdrop]
    simp

/-- The sign, the digits before the point and those after it are taken off the text. -/
theorem readNumber_signed (negative : Bool) (hwhole : WholeDigits whole)
    (hfraction : ∀ c ∈ fraction, isDigit c = true)
    (htail : ∀ c ∈ tail.head?, isDigit c = false ∧ c ≠ '.') :
    readNumber (signed negative (whole ++ pointed fraction) ++ tail) =
      finishNumber negative whole fraction tail := by
  have hpoint : ∀ c ∈ (pointed fraction ++ tail).head?, isDigit c = false := by
    cases fraction with
    | nil => exact fun c hc => (htail c hc).1
    | cons d fraction =>
      intro c hc
      obtain rfl : '.' = c := by simpa [pointed] using hc
      rfl
  obtain ⟨htake, hdrop⟩ := takeWhile_digits hwhole.digits hpoint
  have hread := readFraction_pointed hfraction htail
  -- no needless zero stands in front
  have hstart : (whole.isEmpty || (decide (1 < whole.length) && whole.head? == some '0')) = false := by
    have hzero := hwhole.zero
    have hsome := hwhole.nonempty
    by_cases h : whole.head? = some '0' <;> simp_all
  have hsigned : signed negative (whole ++ pointed fraction) ++ tail =
      signed negative (whole ++ (pointed fraction ++ tail)) := by
    cases negative <;> simp [signed]
  have hunsigned : readUnsigned negative (whole ++ (pointed fraction ++ tail)) =
      finishNumber negative whole fraction tail := by
    simp only [readUnsigned, htake, hdrop, hread, hstart]
    rfl
  rw [hsigned, ← hunsigned]
  cases negative with
  | true => exact readNumber_minus _
  | false =>
    obtain ⟨c, cs, rfl⟩ := List.exists_cons_of_ne_nil hwhole.nonempty
    have hc : c ≠ '-' := by
      rintro rfl
      exact absurd (hwhole.digits '-' List.mem_cons_self) (by decide)
    exact readNumber_unsigned hc _

theorem finishNumber_end (hrest : EndsNumber rest) (negative : Bool) (whole fraction : List Char) :
    finishNumber negative whole fraction rest =
      if fraction.isEmpty then (wholeNumber negative whole).map (·, rest)
      else (decimalNumber? negative whole fraction 0).map (.number ·, rest) := by
  unfold finishNumber
  split
  · exact absurd rfl (hrest 'e' rfl).2.2.1
  · exact absurd rfl (hrest 'E' rfl).2.2.2
  · split
    · cases wholeNumber negative whole <;> rfl
    · cases decimalNumber? negative whole fraction 0 <;> rfl

/-! ## The first character -/

/-- The text begins as numbers do. -/
def BeginsNumber (cs : List Char) : Prop := ∃ c tail, cs = c :: tail ∧ (isDigit c = true ∨ c = '-')

/-- Neither another value nor what stands around values begins as numbers do. -/
theorem ne_of_begins {c : Char} (hc : isDigit c = true ∨ c = '-') :
    ∀ d ∈ ['n', 't', 'f', '"', '[', '\x7b', ']', ' ', '\n', '\t', '\r'], c ≠ d := by
  have hother : ∀ d ∈ ['n', 't', 'f', '"', '[', '\x7b', ']', ' ', '\n', '\t', '\r'],
      isDigit d = false ∧ d ≠ '-' := by
    simp [isDigit]
  rintro d hd rfl
  simp [hother c hd] at hc

theorem isSpace_of_begins {c : Char} (hc : isDigit c = true ∨ c = '-') : isSpace c = false := by
  simp [isSpace, ne_of_begins hc]

theorem readValue_of_begins {cs : List Char} (h : BeginsNumber cs) (fuel depth : Nat) :
    readValue (fuel + 1) depth cs = readNumber cs := by
  obtain ⟨c, tail, rfl, hc⟩ := h
  rw [readValue, skipSpace_cons (isSpace_of_begins hc)]
  split
  iterate 6 · exact absurd (List.cons.inj ‹_›).1 (ne_of_begins hc _ (by simp))
  · rfl

theorem BeginsNumber.append {cs : List Char} (h : BeginsNumber cs) (rest : List Char) :
    BeginsNumber (cs ++ rest) := by
  obtain ⟨c, tail, rfl, hc⟩ := h
  exact ⟨c, tail ++ rest, rfl, hc⟩

theorem beginsNumber_signed (hwhole : WholeDigits whole) (negative : Bool) (tail : List Char) :
    BeginsNumber (signed negative (whole ++ tail)) := by
  cases negative with
  | true => exact ⟨'-', _, rfl, .inr rfl⟩
  | false =>
    obtain ⟨c, cs, rfl⟩ := List.exists_cons_of_ne_nil hwhole.nonempty
    exact ⟨c, cs ++ tail, rfl, .inl (hwhole.digits c List.mem_cons_self)⟩

/-! ## Digits that fit -/

theorem le_ofDigitChars (cs : List Char) (n : Nat) : n ≤ Nat.ofDigitChars 10 cs n := by
  rw [Nat.ofDigitChars_eq_ofDigitChars_zero]
  exact Nat.le_add_right_of_le (Nat.le_mul_of_pos_left _ (Nat.pow_pos (by decide)))

theorem leadingDigits_of_le {cs : List Char} {n : Nat} (h : Nat.ofDigitChars 10 cs n ≤ maxWord) :
    leadingDigits n cs = (Nat.ofDigitChars 10 cs n, 0) := by
  induction cs generalizing n with
  | nil => rfl
  | cons c cs ih =>
    rw [Nat.ofDigitChars_cons] at h ⊢
    have hnext : 10 * n + (c.toNat - 48) ≤ maxWord := (le_ofDigitChars cs _).trans h
    rw [leadingDigits, if_pos hnext]
    exact ih h

/-- The sign of a number put in front of its magnitude. -/
def withSign (negative : Bool) (f : Float) : Float := if negative then -f else f

/-- Digits within 64 bits are read as they stand, and one step of scaling follows. -/
theorem decimalNumber?_of_le (negative : Bool) {exponent : Int}
    (hdigits : digitsValue (whole ++ fraction) ≤ maxWord) (hexponent : exponent.natAbs < 2 ^ 31) :
    decimalNumber? negative whole fraction exponent =
      (scaledNumber? (digitsValue (whole ++ fraction)) (exponent - fraction.length)).map
        (withSign negative) := by
  have hsplit : digitsValue (whole ++ fraction) = Nat.ofDigitChars 10 fraction (digitsValue whole) :=
    Nat.ofDigitChars_append 0
  rw [hsplit] at hdigits ⊢
  have hwhole : leadingDigits 0 whole = (digitsValue whole, 0) :=
    leadingDigits_of_le ((le_ofDigitChars fraction (digitsValue whole)).trans hdigits)
  have hread : ((0 : Nat) : Int) - (fraction.length - 0 : Nat) + exponent =
      exponent - fraction.length := by
    omega
  simp only [decimalNumber?, hwhole, leadingDigits_of_le hdigits, Nat.pow_eq, hexponent, if_true, hread]
  rfl

theorem readExponent_digits (e : Int) (hrest : ∀ c ∈ rest.head?, isDigit c = false) :
    readExponent ((if e < 0 then '-' else '+') :: (decimalDigits e.natAbs ++ rest)) =
      some (e, rest) := by
  obtain ⟨htake, hdrop⟩ := takeWhile_digits
    (fun c (hc : c ∈ decimalDigits e.natAbs) => isDigit_of_mem_toDigits hc) hrest
  have hsome : (decimalDigits e.natAbs).isEmpty = false :=
    List.isEmpty_eq_false_iff.mpr Nat.toDigits_ne_nil
  have hvalue : digitsValue (decimalDigits e.natAbs) = e.natAbs := digitsValue_toDigits _
  by_cases hneg : e < 0
  · simp only [readExponent, splitSign, hneg, if_true, htake, hdrop, hsome, hvalue]
    rw [if_neg (by decide), show -(e.natAbs : Int) = e by omega]
  · simp only [readExponent, splitSign, hneg, if_false, htake, hdrop, hsome, hvalue]
    rw [if_neg (by decide), if_neg (by decide), show (e.natAbs : Int) = e by omega]

/-! ## Layouts -/

/-- An exponent with its sign, as it follows the digits. -/
def exponentText (e : Int) : List Char :=
  'e' :: (if e < 0 then '-' else '+') :: decimalDigits e.natAbs

/-- The digits before and after the point and the exponent stand for a decimal. -/
structure Layout (d : Decimal) (whole fraction : List Char) (exponent : Int) (ending : List Char) :
    Prop where
  /-- The digits before the point are some, and a zero stands first only where it stands alone. -/
  before : WholeDigits whole
  /-- There are only digits after the point. -/
  after : ∀ c ∈ fraction, isDigit c = true
  /-- All digits together are those of the decimal. -/
  value : digitsValue (whole ++ fraction) = d.digits
  /-- The exponent counts from the point. -/
  scale : exponent - fraction.length = d.exponent
  /-- The exponent is in reach of the reader. -/
  small : exponent.natAbs < 2 ^ 31
  /-- An exponent that is not written is zero, and there is a point in its place. -/
  ending : ending = [] ∧ fraction ≠ [] ∧ exponent = 0 ∨ ending = exponentText exponent

/-- The decimal as its positional text has it: a whole number has one zero after the point. -/
def padded (d : Decimal) : Decimal :=
  if 0 ≤ d.exponent then ⟨d.digits * 10 ^ (d.exponent.toNat + 1), -1⟩ else d

theorem wholeDigits_toDigits (n : Nat) : WholeDigits (Nat.toDigits 10 n) where
  digits _ := isDigit_of_mem_toDigits
  nonempty := Nat.toDigits_ne_nil
  zero hzero := by
    obtain rfl | hn := Nat.eq_zero_or_pos n
    · rfl
    · exact absurd hzero (head?_toDigits hn)

theorem isDigit_of_mem_zeros {n : Nat} {c : Char} (hc : c ∈ List.replicate n '0') :
    isDigit c = true := by
  rw [List.eq_of_mem_replicate hc]
  rfl

/-- Digits whose first is no zero may stand before the point. -/
theorem wholeDigits_of_head (hdigits : ∀ c ∈ whole, isDigit c = true) (hne : whole ≠ [])
    (hhead : whole.head? ≠ some '0') : WholeDigits whole :=
  ⟨hdigits, hne, fun h => absurd h hhead⟩

/-- A decimal written positionally, without an exponent. -/
theorem positional_layout {d : Decimal} (hzero : d.digits = 0 → d.exponent = 0) :
    ∃ whole fraction, positional d ['.', '0'] = whole ++ pointed fraction ∧
      Layout (padded d) whole fraction 0 [] := by
  have hds : ∀ c ∈ decimalDigits d.digits, isDigit c = true := fun c => isDigit_of_mem_toDigits
  have hne : decimalDigits d.digits ≠ [] := Nat.toDigits_ne_nil
  have hvalue : digitsValue (decimalDigits d.digits) = d.digits := digitsValue_toDigits _
  have hall : WholeDigits (decimalDigits d.digits) := wholeDigits_toDigits _
  have hhead : d.exponent ≠ 0 → (decimalDigits d.digits).head? ≠ some '0' := fun he =>
    head?_toDigits (Nat.pos_of_ne_zero fun h => he (hzero h))
  unfold positional padded
  dsimp only
  set ds := decimalDigits d.digits
  by_cases he : 0 ≤ d.exponent
  · -- all digits stand before the point, and zeros after them
    rw [if_pos he, if_pos he]
    refine ⟨ds ++ List.replicate d.exponent.toNat '0', ['0'], rfl, ?_, ?_, ?_, rfl, by decide,
      .inl ⟨rfl, List.cons_ne_nil _ _, rfl⟩⟩
    · obtain hnone | hsome := eq_or_ne d.exponent 0
      · rw [hnone]
        simpa using hall
      · refine wholeDigits_of_head ?_ (List.append_ne_nil_of_left_ne_nil hne _) ?_
        · exact fun c hc => (List.mem_append.mp hc).elim (hds c) isDigit_of_mem_zeros
        · rw [List.head?_append_of_ne_nil _ hne]
          exact hhead hsome
    · exact fun c => isDigit_of_mem_zeros (n := 1)
    · have hzeros : ['0'] = List.replicate 1 '0' := rfl
      rw [List.append_assoc, hzeros, ← List.replicate_add, digitsValue_append, digitsValue_zeros, hvalue,
        List.length_replicate, Nat.add_zero, Nat.mul_comm]
  · rw [if_neg he, if_neg he]
    split
    · -- the point stands among the digits
      rename_i hplaces
      set k := ds.length - (-d.exponent).toNat with hk
      have hfraction : ds.drop k ≠ [] := by
        simp only [ne_eq, List.drop_eq_nil_iff]
        omega
      have hwhole : ds.take k ≠ [] := by
        simp only [ne_eq, List.take_eq_nil_iff, hne, or_false]
        omega
      refine ⟨ds.take k, ds.drop k, by rw [pointed_of_ne_nil hfraction], ?_, ?_, ?_, ?_, by decide,
        .inl ⟨rfl, hfraction, rfl⟩⟩
      · refine wholeDigits_of_head (fun c hc => hds c (List.mem_of_mem_take hc)) hwhole ?_
        rw [List.head?_take, if_neg (by omega)]
        exact hhead (by omega)
      · exact fun c hc => hds c (List.mem_of_mem_drop hc)
      · rw [List.take_append_drop, hvalue]
      · rw [List.length_drop]
        omega
    · -- all digits stand after the point, and zeros before them
      rename_i hplaces
      have hfraction : List.replicate ((-d.exponent).toNat - ds.length) '0' ++ ds ≠ [] :=
        List.append_ne_nil_of_right_ne_nil _ hne
      refine ⟨['0'], List.replicate ((-d.exponent).toNat - ds.length) '0' ++ ds, ?_,
        wholeDigits_toDigits 0, ?_, ?_, ?_, by decide, .inl ⟨rfl, hfraction, rfl⟩⟩
      · rw [pointed_of_ne_nil hfraction]
        simp
      · exact fun c hc => (List.mem_append.mp hc).elim isDigit_of_mem_zeros (hds c)
      · have hzeros : ['0'] = List.replicate 1 '0' := rfl
        rw [← List.append_assoc, hzeros, ← List.replicate_add, digitsValue_append, digitsValue_zeros,
          hvalue, Nat.mul_zero, Nat.zero_add]
      · rw [List.length_append, List.length_replicate]
        omega

/-- A decimal written with one digit before the point. -/
theorem scientific_layout {d : Decimal} (hd : 0 < d.digits) {e : Int}
    (he : e = d.exponent + (digitCount d.digits - 1 : Nat)) (hsmall : e.natAbs < 2 ^ 31) :
    ∃ whole fraction, scientific d = whole ++ (pointed fraction ++ exponentText e) ∧
      Layout d whole fraction e (exponentText e) := by
  have hds : ∀ c ∈ decimalDigits d.digits, isDigit c = true := fun c => isDigit_of_mem_toDigits
  have hvalue : digitsValue (decimalDigits d.digits) = d.digits := digitsValue_toDigits _
  have hhead : (decimalDigits d.digits).head? ≠ some '0' := head?_toDigits hd
  have hcount : digitCount d.digits = (decimalDigits d.digits).length := rfl
  obtain ⟨c, cs, hcs⟩ : ∃ c cs, decimalDigits d.digits = c :: cs :=
    List.exists_cons_of_ne_nil Nat.toDigits_ne_nil
  unfold scientific
  dsimp only
  rw [hcs] at hds hvalue hhead hcount ⊢
  refine ⟨[c], cs, ?_, ?_, ?_, ?_, ?_, hsmall, .inr rfl⟩
  · rw [he, hcount]
    cases cs with
    | nil => rfl
    | cons d cs => rfl
  · exact wholeDigits_of_head (fun c hc => hds c (List.mem_cons.mpr (.inl (List.mem_singleton.mp hc))))
      (List.cons_ne_nil _ _) hhead
  · exact fun c hc => hds c (List.mem_cons_of_mem _ hc)
  · exact hvalue
  · rw [he, hcount, List.length_cons]
    omega

/-- **A decimal that is laid out** is read as its scaling. -/
theorem readNumber_layout {d : Decimal} {e : Int} (h : Layout d whole fraction e ending)
    (hdigits : d.digits ≤ maxWord) (negative : Bool) (hrest : EndsNumber rest) :
    readNumber (signed negative (whole ++ pointed fraction) ++ (ending ++ rest)) =
      ((scaledNumber? d.digits d.exponent).map (withSign negative)).map (.number ·, rest) := by
  have hscale : decimalNumber? negative whole fraction e =
      (scaledNumber? d.digits d.exponent).map (withSign negative) := by
    rw [decimalNumber?_of_le negative (h.value ▸ hdigits) h.small, h.value, h.scale]
  obtain ⟨rfl, hfraction, rfl⟩ | rfl := h.ending
  · have hempty : fraction.isEmpty = false := List.isEmpty_eq_false_iff.mpr hfraction
    rw [List.nil_append, readNumber_signed negative h.before h.after hrest.stops, finishNumber_end hrest,
      hempty, hscale]
    rfl
  · rw [readNumber_signed negative h.before h.after fun c hc => by
      obtain rfl : 'e' = c := Option.some.inj hc
      decide]
    simp only [exponentText, List.cons_append, finishNumber,
      readExponent_digits e fun c hc => (hrest c hc).1, Option.bind_eq_bind, Option.bind_some, hscale]
    cases (scaledNumber? d.digits d.exponent).map (withSign negative) <;> rfl

/-! ## Numbers -/

/-- The decimal that the text of a finite number has: its shortest one, with a further zero where it
is written as a whole number. -/
def writtenDecimal (m : Nat) (q : Int) : Decimal :=
  let d := shortest .even m q
  let e : Int := d.exponent + (digitCount d.digits - 1 : Nat)
  if -5 ≤ e ∧ e < 16 then padded d else d

/-- What one multiplication or division by a power of ten makes of the decimal in a number's text;
numbers that are not finite have none. -/
def rescaled? (x : Float) : Option Float :=
  match Parts.of x with
  | .finite negative m q =>
    let d := writtenDecimal m q
    (scaledNumber? d.digits d.exponent).map (withSign negative)
  | _ => none

/-- The number is finite, and scaling the decimal of its text gives it back. -/
def Survives (x : Float) : Prop := rescaled? x = some x

instance (x : Float) : Decidable (Survives x) := inferInstanceAs (Decidable (_ = _))

/-- The digits in the text of a number fit in 64 bits: there are at most 18 of its own, and zeros are
added only to fewer than that. -/
theorem writtenDecimal_le {m : Nat} {q : Int} (hm : m < 2 ^ 53) (hlow : -1074 ≤ q) (hhigh : q ≤ 971) :
    (writtenDecimal m q).digits ≤ maxWord := by
  obtain ⟨hdigits, -⟩ := shortest_bounds .even hm hlow hhigh
  have hmax : 10 ^ 18 ≤ maxWord := by decide
  have hpad : 10 ^ 17 ≤ maxWord := by decide
  unfold writtenDecimal
  dsimp only
  set d := shortest .even m q
  split
  · rename_i hplain
    unfold padded
    split
    · rename_i he
      have hlt : d.digits * 10 ^ (d.exponent.toNat + 1) < 10 ^ 17 := by
        calc d.digits * 10 ^ (d.exponent.toNat + 1)
            < 10 ^ digitCount d.digits * 10 ^ (d.exponent.toNat + 1) :=
              Nat.mul_lt_mul_of_pos_right (lt_pow_digitCount _) (Nat.pow_pos (by decide))
          _ = 10 ^ (digitCount d.digits + (d.exponent.toNat + 1)) := by rw [← pow_add]
          _ ≤ 10 ^ 17 := Nat.pow_le_pow_right (by decide) (by omega)
      exact hlt.le.trans hpad
    · exact hdigits.trans hmax
  · exact hdigits.trans hmax

variable {x : Float} {negative : Bool} {m : Nat} {q : Int}

/-- The text of a finite number has one of the two layouts. -/
theorem scalarText_layout (hx : Parts.of x = .finite negative m q) :
    ∃ whole fraction e ending, Layout (writtenDecimal m q) whole fraction e ending ∧
      scalarText (.number x) = signed negative (whole ++ (pointed fraction ++ ending)) := by
  obtain ⟨hm, hlow, hhigh⟩ := Parts.of_finite hx
  obtain ⟨hshort, hexponent⟩ := shortest_bounds .even hm hlow hhigh
  have hcount : digitCount (shortest .even m q).digits ≤ 19 :=
    (digitCount_le_iff (by decide)).mpr (hshort.trans_lt (by norm_num))
  have hzero := shortest_zero .even m q
  have hlength : (decimalDigits (shortest .even m q).digits).length =
      digitCount (shortest .even m q).digits := rfl
  simp only [scalarText, jsonNumber?, hx, Option.getD_some, String.toList_ofList, hlength]
  unfold writtenDecimal
  dsimp only
  set d := shortest .even m q
  set e : Int := d.exponent + (digitCount d.digits - 1 : Nat) with he
  by_cases hplain : -5 ≤ e ∧ e < 16
  · obtain ⟨whole, fraction, htext, hlayout⟩ := positional_layout hzero
    refine ⟨whole, fraction, 0, [], by rwa [if_pos hplain], ?_⟩
    rw [if_pos (by simpa using hplain), htext, List.append_nil]
  · have hpos : 0 < d.digits := by
      refine Nat.pos_of_ne_zero fun h => hplain ?_
      rw [he, hzero h, h]
      decide
    obtain ⟨whole, fraction, htext, hlayout⟩ := scientific_layout hpos he (by omega)
    refine ⟨whole, fraction, e, exponentText e, by rwa [if_neg hplain], ?_⟩
    rw [if_neg (by simpa using hplain), htext]

theorem beginsNumber_number (hx : Parts.of x = .finite negative m q) :
    BeginsNumber (scalarText (.number x)) := by
  obtain ⟨whole, fraction, e, ending, hlayout, htext⟩ := scalarText_layout hx
  rw [htext]
  exact beginsNumber_signed hlayout.before negative _

/-- **The text of a finite number** is read as the one scaling of its decimal. -/
theorem readValue_number (hx : Parts.of x = .finite negative m q) (hrest : EndsNumber rest)
    (fuel depth : Nat) :
    readValue (fuel + 1) depth (scalarText (.number x) ++ rest) =
      (rescaled? x).map (.number ·, rest) := by
  obtain ⟨hm, hlow, hhigh⟩ := Parts.of_finite hx
  rw [readValue_of_begins ((beginsNumber_number hx).append rest)]
  obtain ⟨whole, fraction, e, ending, hlayout, htext⟩ := scalarText_layout hx
  have hread := readNumber_layout hlayout (writtenDecimal_le hm hlow hhigh) negative hrest
  have hshape : scalarText (.number x) ++ rest =
      signed negative (whole ++ pointed fraction) ++ (ending ++ rest) := by
    rw [htext]
    cases negative <;> simp [signed]
  rw [hshape, hread]
  simp only [rescaled?, hx]

theorem beginsNumber_integer (n : Int) : BeginsNumber (scalarText (.integer n)) := by
  have hbegins := beginsNumber_signed (wholeDigits_toDigits n.natAbs) (n < 0) []
  rwa [List.append_nil] at hbegins

/-- **The text of an integer** within 64 bits is read as the integer. -/
theorem readValue_integer {n : Int} (hlow : -2 ^ 63 ≤ n) (hhigh : n ≤ maxWord)
    (hrest : EndsNumber rest) (fuel depth : Nat) :
    readValue (fuel + 1) depth (scalarText (.integer n) ++ rest) = some (.integer n, rest) := by
  have hvalue : digitsValue (Nat.toDigits 10 n.natAbs) = n.natAbs := digitsValue_toDigits _
  have hwhole : wholeNumber (n < 0) (Nat.toDigits 10 n.natAbs) = some (.integer n) := by
    unfold wholeNumber
    dsimp only [Nat.pow_eq]
    rw [hvalue]
    by_cases hneg : n < 0
    · have hbounds : 0 < n.natAbs ∧ n.natAbs ≤ 2 ^ 63 := by omega
      have habs : -(n.natAbs : Int) = n := by omega
      simp only [hneg, hbounds, habs, decide_true, Bool.not_true, Bool.false_and, Bool.and_self,
        Bool.false_eq_true, if_false, if_true]
    · have hbound : n.natAbs ≤ maxWord := by omega
      have habs : (n.natAbs : Int) = n := by omega
      simp only [hneg, hbound, habs, decide_false, decide_true, Bool.not_false, Bool.and_self, if_true]
  have hnone : ∀ c ∈ ([] : List Char), isDigit c = true := fun c hc => absurd hc List.not_mem_nil
  have hread := readNumber_signed (n < 0) (wholeDigits_toDigits n.natAbs) hnone hrest.stops
  rw [finishNumber_end hrest, hwhole] at hread
  rw [readValue_of_begins ((beginsNumber_integer n).append rest)]
  simpa [pointed, scalarText, decimalDigits] using hread

end Pipework.Json
