import Pipework.Json.Basic
import Pipework.Text.Blank
import Pipework.Number.Layout

/-!
# Writing JSON

`Json.compact` writes a value without blanks; `Json.pretty` puts every element and field on a line
of its own, indented by two spaces a level, and writes empty arrays and objects without a break.

In strings the quote, the backslash and the control characters below U+0020 are escaped, the
latter by a short escape if there is one and by four hexadecimal digits otherwise. A number that is
not finite is written as `null`.
-/

namespace Pipework.Json

/-- A hexadecimal digit in lower case. -/
def hexDigit (n : Nat) : Char := Nat.digitChar n

/-- One character inside a string. -/
def escapedChar (c : Char) : List Char :=
  match c with
  | '"' => ['\\', '"']
  | '\\' => ['\\', '\\']
  | '\x08' => ['\\', 'b']
  | '\x0c' => ['\\', 'f']
  | '\n' => ['\\', 'n']
  | '\r' => ['\\', 'r']
  | '\t' => ['\\', 't']
  | _ =>
    if c.toNat < 0x20 then
      ['\\', 'u', '0', '0', hexDigit (c.toNat / 16), hexDigit (c.toNat % 16)]
    else [c]

/-- A string with its quotes. -/
def stringText (s : String) : List Char := '"' :: s.toList.flatMap escapedChar ++ ['"']

/-- The text of a value without parts. -/
def scalarText : Json → List Char
  | .null => ['n', 'u', 'l', 'l']
  | .bool true => ['t', 'r', 'u', 'e']
  | .bool false => ['f', 'a', 'l', 's', 'e']
  | .integer n => Number.signed (n < 0) (Number.decimalDigits n.natAbs)
  | .number x => ((Number.jsonNumber? x).getD "null").toList
  | .text s => stringText s
  | .array _ => ['[', ']']
  | .object _ => ['\x7b', '\x7d']

mutual

/-- A value without blanks. -/
def compactText : Json → List Char
  | .array items => '[' :: Text.join [','] (compactItems items) ++ [']']
  | .object fields => '\x7b' :: Text.join [','] (compactFields fields) ++ ['\x7d']
  | scalar => scalarText scalar

/-- The elements of an array, each without blanks. -/
def compactItems : List Json → List (List Char)
  | [] => []
  | j :: rest => compactText j :: compactItems rest

/-- The fields of an object, each without blanks. -/
def compactFields : List (String × Json) → List (List Char)
  | [] => []
  | (k, j) :: rest => (stringText k ++ ':' :: compactText j) :: compactFields rest

end

/-- A new line indented by `level` levels. -/
def newLine (level : Nat) : List Char := '\n' :: List.replicate (2 * level) ' '

mutual

/-- A value over several lines, standing at the given level. -/
def prettyText (level : Nat) : Json → List Char
  | .array [] => ['[', ']']
  | .array items =>
    '[' :: newLine (level + 1) ++
      Text.join (',' :: newLine (level + 1)) (prettyItems (level + 1) items) ++
      newLine level ++ [']']
  | .object [] => ['\x7b', '\x7d']
  | .object fields =>
    '\x7b' :: newLine (level + 1) ++
      Text.join (',' :: newLine (level + 1)) (prettyFields (level + 1) fields) ++
      newLine level ++ ['\x7d']
  | scalar => scalarText scalar

/-- The elements of an array at the given level. -/
def prettyItems (level : Nat) : List Json → List (List Char)
  | [] => []
  | j :: rest => prettyText level j :: prettyItems level rest

/-- The fields of an object at the given level. -/
def prettyFields (level : Nat) : List (String × Json) → List (List Char)
  | [] => []
  | (k, j) :: rest =>
    (stringText k ++ ':' :: ' ' :: prettyText level j) :: prettyFields level rest

end

/-- The value as a text without blanks. -/
def compact (j : Json) : String := .ofList (compactText j)

/-- The value as a text over several lines. -/
def pretty (j : Json) : String := .ofList (prettyText 0 j)

end Pipework.Json
