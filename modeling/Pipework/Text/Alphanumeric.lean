import Pipework.Text.CharSet
import Pipework.Text.Property.Binary
import Pipework.Text.Property.Category
import Pipework.Text.Property.Recent

/-!
# Letters and numbers

A character is *alphabetic* when it has the property of that name, and *numeric* when its category
is one of the three kinds of numbers. Both are told for every character of Unicode 17.0.
-/

namespace Pipework.Text

open Property

/-- Alphabetic characters. -/
def alphabeticSet : CharSet := .ofRanges (gapRanges alphabeticTable ++ gapRanges recentAlphabeticTable)

/-- Decimal digits, letter numbers and other numbers. -/
def numericSet : CharSet :=
  .ofRanges (((categoryRuns.filter fun run => ["Nd", "Nl", "No"].contains run.1).map (·.2)) ++
    gapRanges recentNumericTable)

/-- Is a letter in the wide sense. -/
def isAlphabetic (c : Char) : Bool := alphabeticSet.contains c

/-- Is alphabetic or numeric. -/
def isAlphanumeric (c : Char) : Bool := isAlphabetic c || numericSet.contains c

end Pipework.Text
