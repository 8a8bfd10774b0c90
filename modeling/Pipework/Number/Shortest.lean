import Pipework.Number.Binary64

/-!
# Shortest decimals

The shortest decimal of a finite binary64 number is the decimal with the fewest digits that rounds
back to the number, and of those the nearest to it. Where two are equally near, a `Tie` decides.

The reals that round to `m · 2^q` form an interval around it, half a unit to each side (a quarter
below a power of two, whose lower neighbour is closer), its ends included exactly when `m` is even.
On the grid of the multiples of `10^k` only the two neighbours of the number itself can be nearest,
so it is enough to try these two on one grid after another, the coarsest first.
-/

namespace Pipework.Number

/-- The decimal number `digits · 10^exponent`. -/
structure Decimal where
  /-- All digits, read as one natural. -/
  digits : Nat
  /-- The power of ten that the last digit counts. -/
  exponent : Int
  deriving Repr, DecidableEq

/-- Which of two equally near decimals is taken. -/
inductive Tie where
  /-- The greater one. -/
  | up
  /-- The one whose last digit is even. -/
  | even
  deriving Repr, DecidableEq

/-- The reals that round to one binary64 number, as numerators over one denominator. -/
structure Interval where
  /-- The lower end. -/
  low : Nat
  /-- The number itself. -/
  value : Nat
  /-- The upper end. -/
  high : Nat
  /-- The common denominator. -/
  den : Nat
  /-- The ends belong to the interval. -/
  closed : Bool

/-- The interval around `m · 2^q`. -/
def Interval.around (m : Nat) (q : Int) : Interval :=
  let below := if m == Nat.pow 2 52 && -1074 < q then 1 else 2
  let scale : Nat × Nat := if 2 ≤ q then (Nat.pow 2 (q - 2).toNat, 1) else (1, Nat.pow 2 (2 - q).toNat)
  { low := (4 * m - below) * scale.1, value := 4 * m * scale.1, high := (4 * m + 2) * scale.1,
    den := scale.2, closed := m % 2 == 0 }

/-- The interval in units of `10^k`. -/
def Interval.inUnits (i : Interval) (k : Int) : Interval :=
  if 0 ≤ k then { i with den := i.den * Nat.pow 10 k.toNat }
  else
    let p := Nat.pow 10 (-k).toNat
    { i with low := i.low * p, value := i.value * p, high := i.high * p }

/-- The whole number `n` lies in the interval. -/
def Interval.holds (i : Interval) (n : Nat) : Bool :=
  let x := n * i.den
  if i.closed then i.low ≤ x && x ≤ i.high else i.low < x && x < i.high

/-- The whole number that a value between `d` and `d + 1` goes to, `gap / den` above `d`. -/
def Tie.nearer (tie : Tie) (d gap den : Nat) : Nat :=
  if 2 * gap < den then d
  else if den < 2 * gap then d + 1
  else match tie with
    | .up => d + 1
    | .even => d + d % 2

/-- The whole number of the interval nearest to its value, among the value's two neighbours. -/
def Interval.nearestWhole? (tie : Tie) (i : Interval) : Option Nat :=
  let d := i.value / i.den
  match i.holds d, i.holds (d + 1) with
  | true, true => some (tie.nearer d (i.value % i.den) i.den)
  | true, false => some d
  | false, true => some (d + 1)
  | false, false => none

/-- The power of ten of the first digit of `value / den`. -/
def leadingExponent (value den : Nat) : Int :=
  let guess : Int := (digitCount value : Int) - digitCount den
  let small : Bool :=
    if 0 ≤ guess then value < den * Nat.pow 10 guess.toNat else value * Nat.pow 10 (-guess).toNat < den
  if small then guess - 1 else guess

/-- Move the zeros at the end of the digits into the exponent. -/
def Decimal.stripZeros (d : Decimal) : Decimal :=
  if d.digits == 0 then ⟨0, 0⟩
  else
    let zeros := ((Nat.toDigits 10 d.digits).reverse.takeWhile (· == '0')).length
    ⟨d.digits / Nat.pow 10 zeros, d.exponent + zeros⟩

/-- The first hit on the grids of `10^k`, `10^(k-1)`, …, `count` of them. -/
def firstHit (tie : Tie) (i : Interval) (k : Int) : Nat → Decimal
  | 0 => ⟨(i.inUnits k).value / (i.inUnits k).den, k⟩
  | count + 1 =>
    match (i.inUnits k).nearestWhole? tie with
    | some d => if d == 0 then firstHit tie i (k - 1) count else ⟨d, k⟩
    | none => firstHit tie i (k - 1) count

/-- The shortest decimal of `m · 2^q`. -/
def shortest (tie : Tie) (m : Nat) (q : Int) : Decimal :=
  if m == 0 then ⟨0, 0⟩
  else
    let i := Interval.around m q
    (firstHit tie i (leadingExponent i.value i.den) 17).stripZeros

end Pipework.Number
