import Pipework.Json.Reader
import Pipework.Text.Blank
import Pipework.Toml.Basic

/-!
# Scalars and keys of TOML

Strings in their four forms, numbers, truth values, dates and times, and the parts of a key. Every
reader takes the text from where its scalar begins and returns what it read with the text after it.

* Basic strings have escapes, literal strings none; between tripled quotes both may span lines.
* Integers are decimal or, after `0x`, `0o`, `0b`, hexadecimal, octal or binary; underscores stand
  between digits; a decimal has no leading zero. Up to 128 bits are taken.
* Floats have a fraction, an exponent or both, or are `inf` or `nan`; one too large to be finite is
  refused.
-/

namespace Pipework.Toml

open Number

/-- A blank within a line. -/
def isGap (c : Char) : Bool := c == ' ' || c == '\t'

/-- A character that no string or comment may hold. -/
def isControl (c : Char) : Bool := (c.toNat < 0x20 && c != '\t') || c == '\x7f'

/-! ## Strings -/

/-- The character of a code point written in hexadecimal digits. -/
def codePoint? (digits : List Char) : Option Char := do
  let n := (← digits.mapM Json.hexValue?).foldl (fun n d => 16 * n + d) 0
  if n < 0xD800 || (0xE000 ≤ n && n ≤ 0x10FFFF) then some (Char.ofNat n) else none

/-- The character of a one-letter escape. -/
def shortEscape? (c : Char) : Option Char :=
  match c with
  | 'b' => some '\x08'
  | 't' => some '\t'
  | 'n' => some '\n'
  | 'f' => some '\x0c'
  | 'r' => some '\r'
  | 'e' => some '\x1b'
  | '"' => some '"'
  | '\\' => some '\\'
  | _ => none

/-- Put a character in front of what was read after it. -/
def consTo (c : Option Char) (read : Option (List Char × List Char)) :
    Option (List Char × List Char) :=
  match c, read with
  | some c, some (body, rest) => some (c :: body, rest)
  | _, _ => none

/-- A basic string after its opening quote. -/
def readBasic : List Char → Option (List Char × List Char)
  | [] => none
  | '"' :: rest => some ([], rest)
  | '\\' :: 'x' :: a :: b :: rest => consTo (codePoint? [a, b]) (readBasic rest)
  | '\\' :: 'u' :: a :: b :: c :: d :: rest => consTo (codePoint? [a, b, c, d]) (readBasic rest)
  | '\\' :: 'U' :: a :: b :: c :: d :: e :: f :: g :: h :: rest =>
    consTo (codePoint? [a, b, c, d, e, f, g, h]) (readBasic rest)
  | '\\' :: c :: rest => consTo (shortEscape? c) (readBasic rest)
  | c :: rest => if isControl c || c == '\\' then none else consTo c (readBasic rest)

/-- A literal string after its opening quote. -/
def readLiteral : List Char → Option (List Char × List Char)
  | [] => none
  | '\'' :: rest => some ([], rest)
  | c :: rest => do
    guard (!isControl c)
    let (body, rest) ← readLiteral rest
    some (c :: body, rest)

/-- The text after a line break, if one stands here. -/
def lineBreak? : List Char → Option (List Char)
  | '\n' :: rest | '\r' :: '\n' :: rest => some rest
  | _ => none

/-- The text without a line break in front. -/
def dropLineBreak (cs : List Char) : List Char := (lineBreak? cs).getD cs

/-- Three quotes end a string of several lines; up to two more before them belong to it. The quotes
that belong to it and the text after the end. -/
def closing? (quote : Char) (cs : List Char) : Option (List Char × List Char) :=
  let n := min (cs.takeWhile (· == quote)).length 5
  if 3 ≤ n then some (List.replicate (n - 3) quote, cs.drop n) else none

/-- A backslash before these characters ends its line. -/
def breaksLine (cs : List Char) : Bool := (lineBreak? (cs.dropWhile isGap)).isSome

/-- A basic string of several lines after its opening quotes and the line break next to them. A
backslash at the end of a line opens a gap: the blanks and line breaks up to the next other
character are dropped. -/
def readLongBasic (inGap : Bool) : List Char → Option (List Char × List Char)
  | [] => none
  | '\r' :: '\n' :: rest =>
    if inGap then readLongBasic true rest
    else consTo '\r' (consTo '\n' (readLongBasic false rest))
  | '"' :: rest =>
    (closing? '"' ('"' :: rest)).or (consTo '"' (readLongBasic false rest))
  | '\\' :: 'x' :: a :: b :: rest => consTo (codePoint? [a, b]) (readLongBasic false rest)
  | '\\' :: 'u' :: a :: b :: c :: d :: rest =>
    consTo (codePoint? [a, b, c, d]) (readLongBasic false rest)
  | '\\' :: 'U' :: a :: b :: c :: d :: e :: f :: g :: h :: rest =>
    consTo (codePoint? [a, b, c, d, e, f, g, h]) (readLongBasic false rest)
  | '\\' :: c :: rest =>
    if breaksLine (c :: rest) then readLongBasic true (c :: rest)
    else consTo (shortEscape? c) (readLongBasic false rest)
  | c :: rest =>
    if inGap && (isGap c || c == '\n') then readLongBasic true rest
    else if (isControl c && c != '\n') || c == '\\' then none
    else consTo c (readLongBasic false rest)

/-- A literal string of several lines after its opening quotes and the line break next to them. -/
def readLongLiteral : List Char → Option (List Char × List Char)
  | [] => none
  | '\r' :: '\n' :: rest => consTo '\r' (consTo '\n' (readLongLiteral rest))
  | '\'' :: rest =>
    (closing? '\'' ('\'' :: rest)).or (consTo '\'' (readLongLiteral rest))
  | c :: rest =>
    if isControl c && c != '\n' then none else consTo c (readLongLiteral rest)

/-- A string in any of the four forms. -/
def readString (cs : List Char) : Option (List Char × List Char) :=
  match cs with
  | '"' :: '"' :: '"' :: rest => readLongBasic false (dropLineBreak rest)
  | '\'' :: '\'' :: '\'' :: rest => readLongLiteral (dropLineBreak rest)
  | '"' :: rest => readBasic rest
  | '\'' :: rest => readLiteral rest
  | _ => none

/-! ## Keys -/

/-- A character of a bare key. -/
def isBare (c : Char) : Bool :=
  ('a' ≤ c && c ≤ 'z') || ('A' ≤ c && c ≤ 'Z') || isDigit c || c == '_' || c == '-'

/-- One part of a key: bare or a string on one line. -/
def readKeyPart (cs : List Char) : Option (String × List Char) :=
  match cs with
  | '"' :: '"' :: '"' :: _ | '\'' :: '\'' :: '\'' :: _ => none
  | '"' :: _ | '\'' :: _ => (readString cs).map fun (body, rest) => (.ofList body, rest)
  | _ =>
    let part := cs.takeWhile isBare
    if part.isEmpty then none else some (.ofList part, cs.dropWhile isBare)

/-- At most `limit` parts of a key separated by points, with blanks around them. -/
def readParts (limit : Nat) (cs : List Char) : Option (List String × List Char) :=
  match limit with
  | 0 => none
  | limit + 1 => do
    let (part, rest) ← readKeyPart (cs.dropWhile isGap)
    match rest.dropWhile isGap with
    | '.' :: rest =>
      let (parts, rest) ← readParts limit rest
      some (part :: parts, rest)
    | rest => some ([part], rest)

/-- Levels of nesting that one key, or inline values, may make. -/
def nestingLimit : Nat := 80

/-- A key: up to eighty parts. -/
def readKey (cs : List Char) : Option (List String × List Char) := readParts nestingLimit cs

/-! ## Numbers -/

/-- The digits of a text of digits and single underscores between them. -/
def digits? (isMember : Char → Bool) (cs : List Char) : Option (List Char) :=
  let groups := Text.pieces (· == '_') cs
  if groups.all fun group => !group.isEmpty && group.all isMember then some groups.flatten
  else none

/-- Digits of a decimal number, with no zero in front. -/
def decimalDigits? (cs : List Char) : Option (List Char) := do
  let digits ← digits? isDigit cs
  guard (digits.length == 1 || digits.head? != some '0')
  some digits

/-- An integer in base two, eight or sixteen. -/
def based? (base : Nat) (cs : List Char) : Option Nat := do
  let isMember (c : Char) : Bool := match Json.hexValue? c with
    | some d => d < base
    | none => false
  let digits ← (← digits? isMember cs).mapM Json.hexValue?
  some (digits.foldl (fun n d => base * n + d) 0)

/-- An integer. -/
def integer? (cs : List Char) : Option Int := do
  let n ← match cs with
    | '0' :: 'x' :: rest => (based? 16 rest).map Int.ofNat
    | '0' :: 'o' :: rest => (based? 8 rest).map Int.ofNat
    | '0' :: 'b' :: rest => (based? 2 rest).map Int.ofNat
    | '-' :: rest => (decimalDigits? rest).map fun ds => -(digitsValue ds : Int)
    | '+' :: rest => (decimalDigits? rest).map fun ds => (digitsValue ds : Int)
    | _ => (decimalDigits? cs).map fun ds => (digitsValue ds : Int)
  guard (-(Int.pow 2 127) ≤ n && n < Int.pow 2 128)
  some n

/-- An exponent after its letter. -/
def exponentDigits? (cs : List Char) : Option (List Char) :=
  match cs with
  | '-' :: rest => (digits? isDigit rest).map ('-' :: ·)
  | '+' :: rest => digits? isDigit rest
  | _ => digits? isDigit cs

/-- The plain form of an unsigned float: a fraction, an exponent or both after its whole digits. -/
def floatForm? (cs : List Char) : Option (List Char) := do
  let isMark (c : Char) : Bool := c == '.' || lowered c == 'e'
  let whole ← decimalDigits? (cs.takeWhile (!isMark ·))
  let (fraction, rest) ← match cs.dropWhile (!isMark ·) with
    | '.' :: rest => do
      let digits ← digits? isDigit (rest.takeWhile (!isMark ·))
      some ('.' :: digits, rest.dropWhile (!isMark ·))
    | rest => if rest.isEmpty then none else some ([], rest)
  let exponent ← match rest with
    | [] => some []
    | c :: rest => do
      guard (lowered c == 'e')
      some ('e' :: (← exponentDigits? rest))
  some (whole ++ fraction ++ exponent)

/-- A float. -/
def floatValue? (cs : List Char) : Option Float :=
  let (negative, body) := splitSign cs
  let sign := if negative then ['-'] else []
  if body == ['i', 'n', 'f'] || body == ['n', 'a', 'n'] then float? (sign ++ body)
  else do
    let x ← float? (sign ++ (← floatForm? body))
    guard (x.abs < 1.0 / 0.0)
    some x

/-! ## Bare scalars -/

/-- Ends a scalar that has no quotes. -/
def endsScalar (c : Char) : Bool :=
  isGap c || ['\n', '\r', ',', '[', ']', '\x7b', '\x7d', '#', '=', '"', '\''].contains c

/-- The text of a scalar without quotes, and the text after it. A time may follow its date after one
space. -/
def bareText (cs : List Char) : List Char × List Char :=
  let first := cs.takeWhile (!endsScalar ·)
  match Moment.date? first, cs.dropWhile (!endsScalar ·) with
  | some (_, []), ' ' :: c :: rest =>
    if isDigit c then
      (first ++ ' ' :: (c :: rest).takeWhile (!endsScalar ·), rest.dropWhile (!endsScalar ·))
    else (first, ' ' :: c :: rest)
  | _, rest => (first, rest)

/-- A number, truth value, date or time. -/
def bareValue? (cs : List Char) : Option Toml :=
  if cs == ['t', 'r', 'u', 'e'] then some (.boolean true)
  else if cs == ['f', 'a', 'l', 's', 'e'] then some (.boolean false)
  else
    match integer? cs, floatValue? cs, Moment.read? cs with
    | some n, _, _ => some (.integer n)
    | none, some x, _ => some (.float x)
    | none, none, some m => some (.moment m)
    | none, none, none => none

end Pipework.Toml
