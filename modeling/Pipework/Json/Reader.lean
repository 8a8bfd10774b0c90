import Pipework.Json.Basic
import Pipework.Number.Reading

/-!
# Reading JSON

`Json.read?` reads a text that holds one JSON value and blanks around it. Objects keep their fields
in the order written. Refused are, besides what the grammar refuses: more than 127 levels of
nesting, control characters and unpaired surrogate escapes in strings, and numbers too large to be
finite.

A number with a point or an exponent is read in two steps: its leading digits as an integer of 64
bits, further digits being dropped, and then one multiplication or division by a power of ten. A
number without them is an integer if it fits in 64 bits.
-/

namespace Pipework.Json

/-- Blanks between the parts of a text. -/
def isSpace (c : Char) : Bool := c == ' ' || c == '\n' || c == '\t' || c == '\r'

/-- Drop the blanks in front. -/
def skipSpace (cs : List Char) : List Char := cs.dropWhile isSpace

/-! ## Strings -/

/-- The value of a hexadecimal digit in either case. -/
def hexValue? (c : Char) : Option Nat :=
  if '0' ≤ c && c ≤ '9' then some (c.toNat - 48)
  else if 'a' ≤ c && c ≤ 'f' then some (c.toNat - 87)
  else if 'A' ≤ c && c ≤ 'F' then some (c.toNat - 55)
  else none

/-- The number that four hexadecimal digits stand for. -/
def hexWord? (a b c d : Char) : Option Nat := do
  some (((← hexValue? a) * 16 + (← hexValue? b)) * 256 + (← hexValue? c) * 16 + (← hexValue? d))

/-- The character of a one-letter escape. -/
def shortEscape? (c : Char) : Option Char :=
  match c with
  | '"' => some '"'
  | '\\' => some '\\'
  | '/' => some '/'
  | 'b' => some '\x08'
  | 'f' => some '\x0c'
  | 'n' => some '\n'
  | 'r' => some '\r'
  | 't' => some '\t'
  | _ => none

/-- Put a character in front of what was read after it. -/
def consTo (c : Char) : Option (List Char × List Char) → Option (List Char × List Char)
  | some (body, rest) => some (c :: body, rest)
  | none => none

/-- The body of a string up to its closing quote, and the text after it. -/
def readString : List Char → Option (List Char × List Char)
  | [] => none
  | '"' :: rest => some ([], rest)
  | '\\' :: 'u' :: a :: b :: c :: d :: rest =>
    match hexWord? a b c d with
    | none => none
    | some high =>
      if 0xDC00 ≤ high && high ≤ 0xDFFF then none
      else if 0xD800 ≤ high && high ≤ 0xDBFF then
        match rest with
        | '\\' :: 'u' :: a' :: b' :: c' :: d' :: rest' =>
          match hexWord? a' b' c' d' with
          | none => none
          | some low =>
            if 0xDC00 ≤ low && low ≤ 0xDFFF then
              consTo (Char.ofNat (0x10000 + (high - 0xD800) * 0x400 + (low - 0xDC00)))
                (readString rest')
            else none
        | _ => none
      else consTo (Char.ofNat high) (readString rest)
  | '\\' :: c :: rest =>
    match shortEscape? c with
    | none => none
    | some e => consTo e (readString rest)
  | c :: rest => if c.toNat < 0x20 || c == '\\' then none else consTo c (readString rest)

/-! ## Numbers -/

/-- Read digits into a natural of 64 bits as far as they fit; the number of digits left over. -/
def leadingDigits (n : Nat) : List Char → Nat × Nat
  | [] => (n, 0)
  | c :: rest =>
    let next := 10 * n + (c.toNat - 48)
    if next ≤ Number.maxWord then leadingDigits next rest else (n, rest.length + 1)

/-- Divide by powers of ten up to 10^308 at a time. -/
def divideByTen (f : Float) (n : Nat) : Float :=
  if n ≤ 308 then f / Number.ofDecimal false 1 n
  else if f == 0.0 then f
  else divideByTen (f / Number.ofDecimal false 1 308) (n - 308)
termination_by n
decreasing_by omega

/-- `significand · 10^exponent` by multiplication or division, if the result is finite. -/
def scaledNumber? (significand : Nat) (exponent : Int) : Option Float :=
  let f := Number.ofNat significand
  if 0 ≤ exponent then
    if exponent ≤ 308 then
      let y := f * Number.ofDecimal false 1 exponent
      match Number.Parts.of y with
      | .finite .. => some y
      | _ => none
    else if significand == 0 then some f
    else none
  else some (divideByTen f (-exponent).toNat)

/-- The sign, digits and exponent of a number put together. -/
def decimalNumber? (negative : Bool) (whole fraction : List Char) (exponent : Int) : Option Float :=
  let (n, dropped) := leadingDigits 0 whole
  let (significand, ignored) := leadingDigits n fraction
  let read : Int := (dropped : Int) - (fraction.length - ignored : Nat)
  let magnitude :=
    if exponent.natAbs < Nat.pow 2 31 then scaledNumber? significand (read + exponent)
    else if significand == 0 || exponent < 0 then some (Number.ofNat 0)
    else none
  magnitude.map fun f => if negative then -f else f

/-- A number without point and exponent. -/
def wholeNumber (negative : Bool) (digits : List Char) : Option Json :=
  let n := Number.digitsValue digits
  if !negative && n ≤ Number.maxWord then some (.integer n)
  else if negative && 0 < n && n ≤ Nat.pow 2 63 then some (.integer (-n))
  else
    let (significand, dropped) := leadingDigits 0 digits
    (scaledNumber? significand dropped).map fun f => .number (if negative then -f else f)

/-- An exponent after its `e`, and the text after it. -/
def readExponent (cs : List Char) : Option (Int × List Char) :=
  let (negative, body) := Number.splitSign cs
  let digits := body.takeWhile Number.isDigit
  if digits.isEmpty then none
  else
    let n : Int := Number.digitsValue digits
    some (if negative then -n else n, body.dropWhile Number.isDigit)

/-- The fraction after the whole digits, if the text goes on with a point. -/
def readFraction : List Char → Option (List Char × List Char)
  | '.' :: rest =>
    let digits := rest.takeWhile Number.isDigit
    if digits.isEmpty then none else some (digits, rest.dropWhile Number.isDigit)
  | cs => some ([], cs)

/-- A number and the text after it. -/
def readNumber (cs : List Char) : Option (Json × List Char) := do
  let (negative, body) := match cs with
    | '-' :: rest => (true, rest)
    | _ => (false, cs)
  let whole := body.takeWhile Number.isDigit
  let afterWhole := body.dropWhile Number.isDigit
  if whole.isEmpty || (1 < whole.length && whole.head? == some '0') then none
  else
    let (fraction, rest) ← readFraction afterWhole
    match rest with
    | 'e' :: tail | 'E' :: tail =>
      let (e, rest) ← readExponent tail
      let x ← decimalNumber? negative whole fraction e
      some (.number x, rest)
    | _ =>
      if fraction.isEmpty then
        let j ← wholeNumber negative whole
        some (j, rest)
      else
        let x ← decimalNumber? negative whole fraction 0
        some (.number x, rest)

/-! ## Values -/

mutual

/-- A value and the text after it. `depth` bounds the nesting, `fuel` the number of steps. -/
def readValue (fuel depth : Nat) (cs : List Char) : Option (Json × List Char) :=
  match fuel with
  | 0 => none
  | fuel + 1 =>
    match skipSpace cs with
    | 'n' :: 'u' :: 'l' :: 'l' :: rest => some (.null, rest)
    | 't' :: 'r' :: 'u' :: 'e' :: rest => some (.bool true, rest)
    | 'f' :: 'a' :: 'l' :: 's' :: 'e' :: rest => some (.bool false, rest)
    | '"' :: rest => (readString rest).map fun (body, rest) => (.text (.ofList body), rest)
    | '[' :: rest =>
      if depth ≤ 1 then none
      else
        match skipSpace rest with
        | ']' :: rest => some (.array [], rest)
        | rest => (readItems fuel (depth - 1) rest).map fun (items, rest) => (.array items, rest)
    | '\x7b' :: rest =>
      if depth ≤ 1 then none
      else
        match skipSpace rest with
        | '\x7d' :: rest => some (.object [], rest)
        | rest =>
          (readFields fuel (depth - 1) rest).map fun (fields, rest) => (.object fields, rest)
    | rest => readNumber rest

/-- One or more elements up to the closing bracket. -/
def readItems (fuel depth : Nat) (cs : List Char) : Option (List Json × List Char) :=
  match fuel with
  | 0 => none
  | fuel + 1 =>
    match readValue fuel depth cs with
    | none => none
    | some (j, rest) =>
      match skipSpace rest with
      | ']' :: rest => some ([j], rest)
      | ',' :: rest => (readItems fuel depth rest).map fun (items, rest) => (j :: items, rest)
      | _ => none

/-- One or more fields up to the closing brace. -/
def readFields (fuel depth : Nat) (cs : List Char) : Option (List (String × Json) × List Char) :=
  match fuel with
  | 0 => none
  | fuel + 1 =>
    match skipSpace cs with
    | '"' :: rest =>
      match readString rest with
      | none => none
      | some (key, rest) =>
        match skipSpace rest with
        | ':' :: rest =>
          match readValue fuel depth rest with
          | none => none
          | some (j, rest) =>
            match skipSpace rest with
            | '\x7d' :: rest => some ([(.ofList key, j)], rest)
            | ',' :: rest =>
              (readFields fuel depth rest).map fun (fields, rest) =>
                ((.ofList key, j) :: fields, rest)
            | _ => none
        | _ => none
    | _ => none

end

/-- Levels of nesting that are too deep. -/
def nestingLimit : Nat := 128

/-- The value a text holds. -/
def read? (s : String) : Option Json :=
  let cs := s.toList
  match readValue (2 * cs.length + 2) nestingLimit cs with
  | some (j, rest) => if (skipSpace rest).isEmpty then some j else none
  | none => none

end Pipework.Json
