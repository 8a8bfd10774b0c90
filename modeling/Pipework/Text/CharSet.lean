/-!
# Sets of code points

A `CharSet` is a set of code points written as inclusive ranges, in order, apart from each other
and not touching. `ofRanges` brings any list of ranges into that form; the Boolean operations
return it again.
-/

namespace Pipework.Text

/-- A set of code points: inclusive ranges in ascending order with gaps between them. -/
structure CharSet where
  /-- First and last code point of each range. -/
  ranges : List (Nat × Nat)
  deriving Repr, BEq, Inhabited

namespace CharSet

/-- The last code point there is. -/
def last : Nat := 0x10FFFF

/-- Join the ranges of an ascending list that overlap or touch. -/
def merge : List (Nat × Nat) → List (Nat × Nat)
  | [] => []
  | (lo, hi) :: rest =>
    match merge rest with
    | (lo', hi') :: tail =>
      if lo' ≤ hi + 1 then (lo, max hi hi') :: tail else (lo, hi) :: (lo', hi') :: tail
    | [] => [(lo, hi)]

/-- The set of the code points in any of the ranges. -/
def ofRanges (ranges : List (Nat × Nat)) : CharSet :=
  ⟨merge ((ranges.filter fun r => r.1 ≤ r.2).mergeSort fun a b => a.1 ≤ b.1)⟩

/-- The empty set. -/
def empty : CharSet := ⟨[]⟩

/-- The set of one character. -/
def singleton (c : Char) : CharSet := ⟨[(c.toNat, c.toNat)]⟩

/-- The code point lies in the set. -/
def mem (s : CharSet) (n : Nat) : Bool := s.ranges.any fun (lo, hi) => lo ≤ n && n ≤ hi

/-- The character lies in the set. -/
def contains (s : CharSet) (c : Char) : Bool := s.mem c.toNat

/-- Code points of either set. -/
def union (s t : CharSet) : CharSet := ofRanges (s.ranges ++ t.ranges)

/-- The gaps that a list of ascending ranges leaves from `start` up to the last code point. -/
def gapsFrom : Nat → List (Nat × Nat) → List (Nat × Nat)
  | start, [] => if start ≤ last then [(start, last)] else []
  | start, (lo, hi) :: rest =>
    if start < lo then (start, lo - 1) :: gapsFrom (hi + 1) rest else gapsFrom (hi + 1) rest

/-- Code points outside the set. -/
def compl (s : CharSet) : CharSet := ⟨gapsFrom 0 s.ranges⟩

/-- Code points of both sets. -/
def inter (s t : CharSet) : CharSet :=
  ofRanges <| s.ranges.flatMap fun (lo, hi) =>
    (t.ranges.map fun (lo', hi') => (max lo lo', min hi hi')).filter fun r => r.1 ≤ r.2

/-- Code points of the first set that are not in the second. -/
def diff (s t : CharSet) : CharSet := s.inter t.compl

/-- Code points of exactly one of the sets. -/
def symmDiff (s t : CharSet) : CharSet := (s.diff t).union (t.diff s)

/-- The set without the code points that are no characters but surrogates. -/
def scalars (s : CharSet) : CharSet :=
  ⟨s.ranges.flatMap fun (lo, hi) =>
    if hi < 0xD800 || 0xDFFF < lo then [(lo, hi)]
    else (if lo < 0xD800 then [(lo, 0xD7FF)] else []) ++
      (if 0xDFFF < hi then [(0xE000, hi)] else [])⟩

/-- All code points of the set are below U+0080. -/
def isAscii (s : CharSet) : Bool := s.ranges.all fun r => r.2 < 0x80

end CharSet

end Pipework.Text
