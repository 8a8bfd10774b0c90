import Pipework.Number.Shortest

/-!
# Writing numbers

Two layouts of shortest decimals:

* `plain` writes all numbers positionally, whole numbers without a point, as values are shown; of
  two equally near decimals it takes the greater one;
* `jsonNumber?` keeps a `.0` on whole numbers, writes an exponent below `10^-5` and from `10^16`
  on, and has no text for numbers that are not finite; of two equally near decimals it takes the
  even one.
-/

namespace Pipework.Number

/-- The decimal digits of a natural. -/
def decimalDigits (n : Nat) : List Char := Nat.toDigits 10 n

/-- `digits · 10^exponent` written positionally; `whole` goes after a whole number. -/
def positional (d : Decimal) (whole : List Char) : List Char :=
  let ds := decimalDigits d.digits
  if 0 ≤ d.exponent then ds ++ List.replicate d.exponent.toNat '0' ++ whole
  else
    let places := (-d.exponent).toNat
    if places < ds.length then ds.take (ds.length - places) ++ '.' :: ds.drop (ds.length - places)
    else ['0', '.'] ++ List.replicate (places - ds.length) '0' ++ ds

/-- `digits · 10^exponent` with one digit before the point and a signed exponent. -/
def scientific (d : Decimal) : List Char :=
  let ds := decimalDigits d.digits
  let e : Int := d.exponent + (ds.length - 1 : Nat)
  let mantissa := match ds with
    | first :: second :: rest => first :: '.' :: second :: rest
    | _ => ds
  mantissa ++ 'e' :: (if e < 0 then '-' else '+') :: decimalDigits e.natAbs

/-- A minus sign in front of a negative number's digits. -/
def signed (negative : Bool) (cs : List Char) : List Char := if negative then '-' :: cs else cs

/-- The number written positionally, with as few digits as read back to it. -/
def plain (x : Float) : String :=
  match Parts.of x with
  | .nan => "NaN"
  | .infinite negative => .ofList (signed negative ['i', 'n', 'f'])
  | .finite negative m q => .ofList (signed negative (positional (shortest .up m q) []))

/-- The number as JSON text, if it is finite. -/
def jsonNumber? (x : Float) : Option String :=
  match Parts.of x with
  | .finite negative m q =>
    let d := shortest .even m q
    let e : Int := d.exponent + ((decimalDigits d.digits).length - 1 : Nat)
    let text := if -5 ≤ e && e < 16 then positional d ['.', '0'] else scientific d
    some (.ofList (signed negative text))
  | _ => none

end Pipework.Number
