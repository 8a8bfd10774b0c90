import Pipework.Text.Blank
import Pipework.Number.Reading

/-!
# Counts in argument texts

Many commands take a count as the first word of their argument text: `head 3`. `countOr` reads it;
a missing, unreadable or zero count gives the command's default.
-/

namespace Pipework

/-- The positive count at the beginning of an argument text. -/
def count? (args : Option String) : Option Nat := do
  let first ← (Text.words (← args).toList).head?
  let n ← Number.natural? Number.maxWord first
  if 0 < n then some n else none

/-- The count at the beginning of an argument text, or `fallback`. -/
def countOr (fallback : Nat) (args : Option String) : Nat := (count? args).getD fallback

end Pipework
