import Pipework.Number.Binary64

/-!
# Reading numbers

* `float?` reads a decimal number with optional sign, point and exponent, or the words `inf`,
  `infinity` and `nan` in any case, to the nearest binary64 number;
* `natural?` reads digits with an optional plus sign, up to a given bound;
* `integer64?` reads an optional sign and digits, within 64 bits.

Only ASCII digits count, and nothing may stand around the number.
-/

namespace Pipework.Number

/-- An ASCII digit. -/
def isDigit (c : Char) : Bool := '0' ≤ c && c ≤ '9'

/-- The number that a list of digits stands for. -/
def digitsValue (cs : List Char) : Nat := cs.foldl (fun n c => 10 * n + (c.toNat - '0'.toNat)) 0

/-- An ASCII letter in lower case; other characters as they are. -/
def lowered (c : Char) : Char := if 'A' ≤ c && c ≤ 'Z' then Char.ofNat (c.toNat + 32) else c

/-- The sign of a text and the rest of it. -/
def splitSign : List Char → Bool × List Char
  | '-' :: cs => (true, cs)
  | '+' :: cs => (false, cs)
  | cs => (false, cs)

/-- A signed exponent, with nothing after it. -/
def exponent? (cs : List Char) : Option Int :=
  let (negative, digits) := splitSign cs
  if digits.isEmpty || !digits.all isDigit then none
  else some (if negative then -(digitsValue digits : Int) else digitsValue digits)

/-- Digits and exponent of an unsigned decimal number. -/
def decimal? (cs : List Char) : Option (Nat × Int) := do
  let whole := cs.takeWhile isDigit
  let afterWhole := cs.dropWhile isDigit
  let (fraction, rest) := match afterWhole with
    | '.' :: tail => (tail.takeWhile isDigit, tail.dropWhile isDigit)
    | _ => ([], afterWhole)
  if whole.isEmpty && fraction.isEmpty then none
  else
    let e ← match rest with
      | [] => some 0
      | c :: tail => if lowered c == 'e' then exponent? tail else none
    some (digitsValue (whole ++ fraction), e - fraction.length)

/-- The binary64 number a text stands for. -/
def float? (cs : List Char) : Option Float :=
  let (negative, body) := splitSign cs
  let word := body.map lowered
  if word == ['i', 'n', 'f'] || word == ['i', 'n', 'f', 'i', 'n', 'i', 't', 'y'] then
    some (nearest negative (Nat.pow 10 310) 1)
  else if word == ['n', 'a', 'n'] then some (0.0 / 0.0)
  else (decimal? body).map fun (digits, e) => ofDecimal negative digits e

/-- The natural a text of digits stands for, if it is at most `bound`; one plus sign may precede. -/
def natural? (bound : Nat) (cs : List Char) : Option Nat :=
  let digits := match cs with
    | '+' :: rest => rest
    | _ => cs
  if digits.isEmpty || !digits.all isDigit then none
  else if digitsValue digits ≤ bound then some (digitsValue digits) else none

/-- The greatest natural of 64 bits. -/
def maxWord : Nat := Nat.pow 2 64 - 1

/-- The integer of 64 bits that a text of an optional sign and digits stands for. -/
def integer64? (cs : List Char) : Option Int :=
  let (negative, digits) := splitSign cs
  if digits.isEmpty || !digits.all isDigit then none
  else
    let n := digitsValue digits
    if negative then if n ≤ Nat.pow 2 63 then some (-n) else none
    else if n < Nat.pow 2 63 then some n else none

end Pipework.Number
