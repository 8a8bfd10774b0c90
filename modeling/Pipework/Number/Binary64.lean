/-!
# Binary64 numbers in exact arithmetic

A finite number is `m · 2^q` for naturals `m` and integers `q`. This module takes a `Float` apart
into that form and finds the `Float` nearest to a ratio of naturals:

* `Parts.of` reads sign, significand and exponent off the bits;
* `nearest` rounds a ratio to the nearest binary64 number, a tie going to the even significand,
  past the greatest finite number to infinity;
* `ofDecimal` does so for a decimal number with an exponent.
-/

namespace Pipework.Number

/-- What the bits of a binary64 number say. -/
inductive Parts where
  /-- Not a number. -/
  | nan
  /-- An infinity; `true` for the negative one. -/
  | infinite (negative : Bool)
  /-- The number `significand · 2^exponent`, negated if `negative`. -/
  | finite (negative : Bool) (significand : Nat) (exponent : Int)
  deriving Repr, DecidableEq

/-- Take a number apart. -/
def Parts.of (x : Float) : Parts :=
  let bits := x.toBits.toNat
  let negative := Nat.pow 2 63 ≤ bits
  let field : Nat := bits / Nat.pow 2 52 % Nat.pow 2 11
  let fraction := bits % Nat.pow 2 52
  if field == 2047 then
    if fraction == 0 then .infinite negative else .nan
  else if field == 0 then .finite negative fraction (-1074)
  else .finite negative (Nat.pow 2 52 + fraction) ((field : Int) - 1075)

/-- The quotient rounded to the nearest natural, a tie going to the even one. -/
def roundDiv (num den : Nat) : Nat :=
  let q := num / den
  let r := num % den
  if 2 * r < den then q else if den < 2 * r then q + 1 else q + q % 2

/-- The ratio `num / den` divided by `2^e`, as a numerator and a denominator. -/
def scaled (num den : Nat) (e : Int) : Nat × Nat :=
  if 0 ≤ e then (num, den * Nat.pow 2 e.toNat) else (num * Nat.pow 2 (-e).toNat, den)

/-- The exponent at which `num / den` has a significand of 53 bits, or the least exponent. -/
def binaryExponent (num den : Nat) : Int :=
  let guess : Int := (num.log2 : Int) - den.log2 - 52
  let (n, d) := scaled num den guess
  max (-1074) (if n / d < Nat.pow 2 52 then guess - 1 else guess)

/-- The number with this sign, significand below `2^53 + 1` and exponent from -1074 on. -/
def compose (negative : Bool) (significand : Nat) (exponent : Int) : Float :=
  let magnitude : Nat :=
    if significand < Nat.pow 2 52 then significand
    else min (2047 * Nat.pow 2 52) ((exponent + 1074).toNat * Nat.pow 2 52 + significand)
  Float.ofBits (UInt64.ofNat (magnitude + if negative then Nat.pow 2 63 else 0))

/-- The binary64 number nearest to `num / den`, for a positive `den`. -/
def nearest (negative : Bool) (num den : Nat) : Float :=
  if num == 0 then compose negative 0 0
  else
    let e := binaryExponent num den
    let (n, d) := scaled num den e
    compose negative (roundDiv n d) e

/-- Number of decimal digits of a natural, at least one. -/
def digitCount (n : Nat) : Nat := (Nat.toDigits 10 n).length

/-- The binary64 number nearest to `digits · 10^exponent`. Exponents that leave no doubt about the
answer are answered without computing the power. -/
def ofDecimal (negative : Bool) (digits : Nat) (exponent : Int) : Float :=
  if digits == 0 then compose negative 0 0
  else
    let size : Int := digitCount digits + exponent
    if 310 < size then nearest negative (Nat.pow 10 310) 1
    else if size < -330 then compose negative 0 0
    else if 0 ≤ exponent then nearest negative (digits * Nat.pow 10 exponent.toNat) 1
    else nearest negative digits (Nat.pow 10 (-exponent).toNat)

/-- The binary64 number nearest to a natural. -/
def ofNat (n : Nat) : Float := nearest false n 1

/-- The binary64 number nearest to an integer. -/
def ofInt (n : Int) : Float := nearest (n < 0) n.natAbs 1

/-- The integer that a finite number equals, if it equals one. -/
def integer? (x : Float) : Option Int :=
  match Parts.of x with
  | .finite negative m q =>
    let signed (n : Nat) : Int := if negative then -n else n
    if 0 ≤ q then some (signed (m * Nat.pow 2 q.toNat))
    else if m % Nat.pow 2 (-q).toNat == 0 then some (signed (m / Nat.pow 2 (-q).toNat))
    else none
  | _ => none

end Pipework.Number
