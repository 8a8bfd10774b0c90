/-!
# Blank characters, trimming and words

A character is *blank* when it has the Unicode `White_Space` property. Everything the shell cuts
at "whitespace" (stages, words of an argument text, words of a line) goes through this table:

* `trim` removes blanks at both ends and nothing else;
* `words` lists the maximal runs of non-blank characters;
* `cut?` splits a text at the first character of a class and drops that one character.

Texts are handled as lists of characters; the `String` forms stand at the end.
-/

namespace Pipework.Text

/-- The code points with the `White_Space` property, as inclusive ranges. -/
def blankRanges : List (Nat × Nat) :=
  [(0x9, 0xD), (0x20, 0x20), (0x85, 0x85), (0xA0, 0xA0), (0x1680, 0x1680), (0x2000, 0x200A),
    (0x2028, 0x2029), (0x202F, 0x202F), (0x205F, 0x205F), (0x3000, 0x3000)]

/-- Has the `White_Space` property. -/
def isBlank (c : Char) : Bool :=
  blankRanges.any fun (lo, hi) => lo ≤ c.toNat && c.toNat ≤ hi

/-- Drop the blanks in front. -/
def trimLeft (cs : List Char) : List Char := cs.dropWhile isBlank

/-- Drop the blanks at the end. -/
def trimRight (cs : List Char) : List Char := (cs.reverse.dropWhile isBlank).reverse

/-- Drop the blanks at both ends. -/
def trim (cs : List Char) : List Char := trimRight (trimLeft cs)

/-- The text before and after the first character of class `p`, which itself is dropped; `none`
when there is no such character. -/
def cut? (p : Char → Bool) (cs : List Char) : Option (List Char × List Char) :=
  match cs.dropWhile (fun c => !p c) with
  | [] => none
  | _ :: rest => some (cs.takeWhile (fun c => !p c), rest)

/-- The pieces between the characters of class `p`; a text without any is its only piece. -/
def pieces (p : Char → Bool) : List Char → List (List Char)
  | [] => [[]]
  | c :: cs =>
    if p c then [] :: pieces p cs
    else match pieces p cs with
      | [] => [[c]]
      | piece :: rest => (c :: piece) :: rest

/-- The maximal runs of non-blank characters. -/
def words (cs : List Char) : List (List Char) := (pieces isBlank cs).filter (!·.isEmpty)

/-- `parts` one after another with `sep` between neighbours. -/
def join (sep : List Char) : List (List Char) → List Char
  | [] => []
  | [part] => part
  | part :: rest => part ++ sep ++ join sep rest

end Pipework.Text

namespace Pipework

open Text

/-- The text without the blanks at its ends. -/
def trimmed (s : String) : String := .ofList (trim s.toList)

/-- The words of a text. -/
def wordsOf (s : String) : List String := (words s.toList).map .ofList

/-- The pieces of a text between occurrences of `sep`. -/
def piecesAt (sep : Char) (s : String) : List String := (pieces (· == sep) s.toList).map .ofList

/-- The text before and after the first `sep`. -/
def cutAt? (sep : Char) (s : String) : Option (String × String) :=
  (cut? (· == sep) s.toList).map fun (a, b) => (.ofList a, .ofList b)

/-- Texts one after another with `sep` between neighbours. -/
def joined (sep : String) (parts : List String) : String :=
  .ofList (join sep.toList (parts.map (·.toList)))

end Pipework
