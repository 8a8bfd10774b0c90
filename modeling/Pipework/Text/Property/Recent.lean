import Pipework.Text.Property.Runs

/-!
# Recent characters

The tables beside this one describe version 16.0 of the Unicode standard, which is the one that
patterns know. Quoted text, the names of groups and the directives of log filters follow version
17.0. Every character it adds was unassigned before, so it suffices to list those, and which of
them are alphabetic, are numbers or join the grapheme before them.
-/

namespace Pipework.Text.Property

/-- Code points assigned in version 17.0: gaps and lengths of their ranges. -/
def recentTable : List String := [
  "2191 1 972 1 127 1 3570 15 2 12 1493 1 2772 1 31799 2 2 1 1 1 28 1 21457 16 445 2 54 7 2929 26",
  "1387 3 8 9 33 2 3172 8 584 44 4 10 20662 25 2 25 286 5 6145 8 1289 22 97 115 16135 3 445 23 15",
  "17 6095 31 1 22 8 2 4056 1 158 4 341 9 379 4 50 1 3 1 57 1 4 1 28 1 4 1 266 1 47935 6 5986 12",
  "21762 4298"]

/-- Alphabetic ones among them: gaps and lengths of their ranges. -/
def recentAlphabeticTable : List String := [
  "2191 1 972 1 127 1 39665 2 2 1 1 1 28 1 24910 26 1387 3 50 2 3172 8 584 44 20676 25 2 25 286 5",
  "6145 8 1289 22 97 115 22733 31 1 22 8 2 53306 6 5986 12 21762 4298"]

/-- Numbers among them: gaps and lengths of their ranges. -/
def recentNumericTable : List String := [
  "73184 10 21002 3"]

/-- Those among them that join the grapheme before them: gaps and lengths of their ranges. -/
def recentExtendingTable : List String := [
  "6863 15 2 12 62478 2 3172 1 1 3 1 1 52092 1 2 1 7 2 5 1"]

end Pipework.Text.Property
