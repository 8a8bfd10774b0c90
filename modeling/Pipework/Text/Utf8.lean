/-!
# UTF-8

The bytes of a character, and the sequences of byte ranges that make up a range of characters:
a text lies in the range exactly if its bytes lie, one by one, in the ranges of one sequence.
-/

namespace Pipework.Text

/-- The bytes of a code point. -/
def utf8 (n : Nat) : List Nat :=
  let more (k : Nat) : Nat := 0x80 + n / Nat.pow 64 k % 64
  if n < 0x80 then [n]
  else if n < 0x800 then [0xC0 + n / 64, more 0]
  else if n < 0x10000 then [0xE0 + n / Nat.pow 64 2, more 1, more 0]
  else [0xF0 + n / Nat.pow 64 3, more 2, more 1, more 0]

/-- The bytes of a text. -/
def utf8All (cs : List Char) : List Nat := cs.flatMap fun c => utf8 c.toNat

/-- Where a range has to be cut into two: after the last code point that is written with fewer
bytes, else after the first or before the last code points that do not fill a block of those that
share their leading bytes. -/
def cutPoint? (lo hi : Nat) : Option Nat :=
  match [0x7F, 0x7FF, 0xFFFF].find? fun last => lo ≤ last && last < hi with
  | some last => some last
  | none =>
    if hi ≤ 0x7F then none
    else [0x40, 0x1000, 0x40000].findSome? fun block =>
      if lo / block == hi / block then none
      else if lo % block != 0 then some (lo / block * block + (block - 1))
      else if hi % block != block - 1 then some (hi / block * block - 1)
      else none

/-- The sequences of byte ranges for the characters between two code points, in ascending order.
There are at most ten cuts between a range and one of its parts. -/
def byteRangesWithin : Nat → Nat → Nat → List (List (Nat × Nat))
  | 0, _, _ => []
  | fuel + 1, lo, hi =>
    if hi < lo then []
    else if lo < 0xE000 && 0xD7FF < hi then
      byteRangesWithin fuel lo 0xD7FF ++ byteRangesWithin fuel 0xE000 hi
    else match cutPoint? lo hi with
      | some last => byteRangesWithin fuel lo last ++ byteRangesWithin fuel (last + 1) hi
      | none => [(utf8 lo).zip (utf8 hi)]

/-- The sequences of byte ranges for the characters between two code points. -/
def byteRanges (lo hi : Nat) : List (List (Nat × Nat)) := byteRangesWithin 16 lo hi

end Pipework.Text
