import Pipework.Text.Blank
import Pipework.Number.Layout
import Pipework.Toml.Scalar

/-!
# Writing TOML

A string is written in the first of these forms that can hold it as it is: basic, literal, basic
over several lines, literal over several lines. If none can, it is written as a basic string with
escapes, over several lines if it holds line feeds. A key is bare where that is possible.

* `inline` writes a value on one line;
* `pretty` writes an array of two or more elements over several lines;
* `document` writes sections, each under its header.
-/

namespace Pipework.Toml

/-! ## Strings -/

/-- The longest run of a character. -/
def longestRun (c : Char) (cs : List Char) : Nat :=
  let step (acc : Nat × Nat) (x : Char) : Nat × Nat :=
    if x == c then (acc.1 + 1, max acc.2 (acc.1 + 1)) else (0, acc.2)
  (cs.foldl step (0, 0)).2

/-- Needs an escape wherever it stands. -/
def needsEscape (c : Char) : Bool := c != '\n' && isControl c

/-- A digit in upper-case hexadecimal. -/
def upperHex (c : Char) : Char := if 'a' ≤ c && c ≤ 'f' then Char.ofNat (c.toNat - 32) else c

/-- One character of a basic string. -/
def escapedChar (c : Char) : List Char :=
  match c with
  | '\x08' => ['\\', 'b']
  | '\t' => ['\\', 't']
  | '\n' => ['\\', 'n']
  | '\x0c' => ['\\', 'f']
  | '\r' => ['\\', 'r']
  | '"' => ['\\', '"']
  | '\\' => ['\\', '\\']
  | _ =>
    if isControl c then ['\\', 'u'] ++ (Moment.filled 4 (Nat.toDigits 16 c.toNat)).map upperHex
    else [c]

/-- The characters of a basic string over several lines. Line feeds stand as they are, and so do up
to two quotes beside each other, `quotes` counting those just before. -/
def escapedLines (quotes : Nat) : List Char → List Char
  | [] => []
  | '"' :: cs =>
    if quotes < 2 then '"' :: escapedLines (quotes + 1) cs else '\\' :: '"' :: escapedLines 0 cs
  | '\n' :: cs => '\n' :: escapedLines 0 cs
  | c :: cs => escapedChar c ++ escapedLines 0 cs

/-- A tab by its escape, another character as it is. -/
def tabEscaped (c : Char) : List Char := if c == '\t' then ['\\', 't'] else [c]

/-- A string in the first form that holds it. -/
def stringText (cs : List Char) : List Char :=
  let hasEscape := cs.any needsEscape
  let hasBreak := cs.contains '\n'
  let hasBackslash := cs.contains '\\'
  let long (quote : Char) (body : List Char) : List Char :=
    let quotes := List.replicate 3 quote
    quotes ++ (if hasBreak then ['\n'] else []) ++ body ++ quotes
  if !hasEscape && !hasBackslash && !cs.contains '"' && !hasBreak then
    '"' :: cs.flatMap tabEscaped ++ ['"']
  else if !hasEscape && !cs.contains '\'' && !hasBreak then '\'' :: cs ++ ['\'']
  else if !hasEscape && !hasBackslash && longestRun '"' cs ≤ 2 then long '"' (cs.flatMap tabEscaped)
  else if !hasEscape && longestRun '\'' cs ≤ 2 then long '\'' cs
  else if hasBreak then long '"' (escapedLines 0 cs)
  else '"' :: cs.flatMap escapedChar ++ ['"']

/-- A key: bare, basic, literal, or escaped basic. -/
def keyText (key : String) : String :=
  let cs := key.toList
  let hasEscape := cs.any isControl
  .ofList <|
    if !cs.isEmpty && cs.all isBare then cs
    else if !hasEscape && !cs.contains '\\' && !cs.contains '"' then
      '"' :: cs.flatMap tabEscaped ++ ['"']
    else if !hasEscape && !cs.contains '\'' then '\'' :: cs ++ ['\'']
    else '"' :: cs.flatMap escapedChar ++ ['"']

/-! ## Values -/

/-- A float, with a point or an exponent's place for one. -/
def floatText (x : Float) : String :=
  let text := Number.plain x
  if text == "NaN" then "nan"
  else if text.toList.contains '.' || text.toList.contains 'i' then text
  else text ++ ".0"

mutual

/-- A value on one line. -/
def inline : Toml → String
  | .string s => .ofList (stringText s.toList)
  | .integer n => toString n
  | .float x => floatText x
  | .boolean b => if b then "true" else "false"
  | .moment m => m.text
  | .array items => "[" ++ joined ", " (inlineItems items) ++ "]"
  | .table [] => "\x7b\x7d"
  | .table (e :: entries) => "\x7b " ++ joined ", " (inlineEntries (e :: entries)) ++ " \x7d"

/-- The elements of an array, each on one line. -/
def inlineItems : List Toml → List String
  | [] => []
  | v :: rest => inline v :: inlineItems rest

/-- The entries of a table, each on one line. -/
def inlineEntries : List (String × Toml) → List String
  | [] => []
  | (k, v) :: rest => (keyText k ++ " = " ++ inline v) :: inlineEntries rest

end

/-- A value with the elements of an array of two or more on lines of their own. -/
def pretty (v : Toml) : String :=
  match v with
  | .array (a :: b :: rest) =>
    "[\n" ++ String.join ((inlineItems (a :: b :: rest)).map fun s => "    " ++ s ++ ",\n") ++ "]"
  | v => v.inline

/-- Sections of a document, separated by blank lines. -/
def document (sections : List (String × List (String × Toml))) : String :=
  joined "\n" <| sections.map fun (name, entries) =>
    "[" ++ keyText name ++ "]\n" ++
      String.join (entries.map fun (k, v) => keyText k ++ " = " ++ v.pretty ++ "\n")

end Pipework.Toml
