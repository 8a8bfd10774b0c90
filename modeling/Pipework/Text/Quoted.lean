import Pipework.Text.Property.Binary
import Pipework.Text.Property.Category
import Pipework.Text.Property.Recent

/-!
# Quoted text

Diagnostics show a text in double quotes and a character in single quotes, with every character
that would not show on its own written as an escape:

* the quote in use, the backslash, NUL, tab, line feed and carriage return have short escapes;
* a character that extends the grapheme before it, and one that is not printable, is written by
  its code point in lower-case hexadecimal.

A character is printable unless its general category is a control, format, surrogate, private-use,
unassigned or separator one, or it is one of those that text is shown without; the space itself is
printable.
-/

namespace Pipework.Text

open Property

/-- Code points whose category leaves no mark, the space apart, and those that are ignored where
text is shown. -/
def unprintableRanges : Array (Nat × Nat) :=
  ((categoryRuns.filter fun (code, _, _) =>
    ["Cc", "Cf", "Cs", "Co", "Cn", "Zl", "Zp", "Zs"].contains code).map (·.2) ++
      gapRanges defaultIgnorableCodePointTable).toArray

/-- Code points that have lately been given a character. -/
def recentRanges : Array (Nat × Nat) := (gapRanges recentTable).toArray

/-- Some range of the array holds the code point. -/
def inRanges (ranges : Array (Nat × Nat)) (n : Nat) : Bool :=
  ranges.any fun (lo, hi) => lo ≤ n && n ≤ hi

/-- Code points that join the grapheme before them. -/
def extendingRanges : Array (Nat × Nat) :=
  (gapRanges graphemeExtendTable ++ gapRanges recentExtendingTable).toArray

/-- Shows on its own. -/
def isPrintable (c : Char) : Bool :=
  if c.toNat < 0x7F then 0x20 ≤ c.toNat
  else !inRanges unprintableRanges c.toNat || inRanges recentRanges c.toNat

/-- Joins the grapheme before it. -/
def extendsGrapheme (c : Char) : Bool :=
  0x300 ≤ c.toNat && inRanges extendingRanges c.toNat

/-- Lower-case hexadecimal digits, without leading zeros. -/
def hexDigits (n : Nat) : List Char := Nat.toDigits 16 n

/-- One character of a text between quotes of the kind `quote`. -/
def escaped (quote c : Char) : List Char :=
  if c == quote || c == '\\' then ['\\', c]
  else match c with
    | '\x00' => ['\\', '0']
    | '\t' => ['\\', 't']
    | '\n' => ['\\', 'n']
    | '\r' => ['\\', 'r']
    | _ =>
      if extendsGrapheme c || !isPrintable c then
        ['\\', 'u', '\x7b'] ++ hexDigits c.toNat ++ ['\x7d']
      else [c]

/-- The text in double quotes. -/
def quoted (cs : List Char) : List Char := '"' :: cs.flatMap (escaped '"') ++ ['"']

/-- The character in single quotes. -/
def quotedChar (c : Char) : List Char := '\'' :: escaped '\'' c ++ ['\'']

end Pipework.Text

namespace Pipework

/-- A text in double quotes, as diagnostics show it. -/
def quotedText (s : String) : String := .ofList (Text.quoted s.toList)

/-- A list of texts in double quotes, in square brackets. -/
def quotedTexts (texts : List String) : String :=
  "[" ++ joined ", " (texts.map quotedText) ++ "]"

/-- A list of characters in single quotes, in square brackets. -/
def quotedChars (cs : List Char) : String :=
  "[" ++ joined ", " (cs.map fun c => .ofList (Text.quotedChar c)) ++ "]"

end Pipework
