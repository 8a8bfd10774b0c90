import Pipework.Text.Blank

/-!
# Reading property tables

The tables of character properties are written as rows of text: blank-separated entries that
describe runs of code points. This module reads them.

* `gapRanges` reads alternating gaps and lengths;
* `labelledRuns` reads entries such as `Lu26`, a label and the length of its run.
-/

namespace Pipework.Text.Property

/-- The number a run of decimal digits stands for. -/
def number (cs : List Char) : Nat := cs.foldl (fun n c => 10 * n + (c.toNat - 48)) 0

/-- The entries of all rows of a table. -/
def entries (table : List String) : List (List Char) := table.flatMap fun row => words row.toList

/-- Inclusive ranges from alternating gaps and lengths, from code point `start` on. -/
def gapRangesFrom : Nat → List Nat → List (Nat × Nat)
  | start, gap :: length :: rest =>
    (start + gap, start + gap + length - 1) :: gapRangesFrom (start + gap + length) rest
  | _, _ => []

/-- Inclusive ranges from a table of alternating gaps and lengths. -/
def gapRanges (table : List String) : List (Nat × Nat) :=
  gapRangesFrom 0 ((entries table).map number)

/-- Labelled inclusive ranges from labels and lengths that follow each other from `start` on. -/
def runsFrom : Nat → List (String × Nat) → List (String × Nat × Nat)
  | _, [] => []
  | start, (label, length) :: rest =>
    (label, start, start + length - 1) :: runsFrom (start + length) rest

/-- Labelled inclusive ranges from a table of labels and lengths. -/
def labelledRuns (table : List String) : List (String × Nat × Nat) :=
  runsFrom 0 ((entries table).map fun entry =>
    (.ofList (entry.takeWhile Char.isAlpha), number (entry.dropWhile Char.isAlpha)))

end Pipework.Text.Property
