import Pipework.Pattern.Classes
import Pipework.Pattern.Program

/-!
# Searching with a pattern

The machine reads a text once. At each position it holds threads in order of preference, at most one
for each instruction; a thread carries the positions it has remembered. Until a match is found, a
new thread starts at every position, behind all others. A thread that matches cuts off those behind
it, so the match found is the leftmost one, and among those the preferred one.

`findAll` lists the matches of a text from left to right. They do not overlap, and an empty match
does not touch the end of the match before it.
-/

namespace Pipework.Pattern

open Text

/-- Positions by slot: slots `2 i` and `2 i + 1` hold the ends of group `i`. -/
abbrev Slots := Array (Option Nat)

/-- A thread of the machine. -/
structure Thread where
  /-- The instruction it stands at. -/
  address : Nat
  /-- The positions it has remembered. -/
  slots : Slots
  deriving Inhabited

/-- A position in a text, with the characters next to it. -/
structure Place where
  /-- Characters before the position. -/
  index : Nat
  /-- The character before it. -/
  before : Option Char
  /-- The character after it. -/
  after : Option Char

/-- A character of a word. -/
def isWordChar (unicode : Bool) : Option Char → Bool
  | some c => (if unicode then wordSet else asciiWordSet).contains c
  | none => false

/-- The anchor holds at the place. -/
def Anchor.holds (place : Place) : Anchor → Bool
  | .textStart => place.before.isNone
  | .textEnd => place.after.isNone
  | .lineStart false => place.before.isNone || place.before == some '\n'
  | .lineEnd false => place.after.isNone || place.after == some '\n'
  | .lineStart true =>
    place.before.isNone || place.before == some '\n' ||
      (place.before == some '\r' && place.after != some '\n')
  | .lineEnd true =>
    place.after.isNone || place.after == some '\r' ||
      (place.after == some '\n' && place.before != some '\r')
  | .word side unicode =>
    let before := isWordChar unicode place.before
    let after := isWordChar unicode place.after
    match side with
    | .edge => before != after
    | .noEdge => before == after
    | .start => !before && after
    | .finish => before && !after
    | .startHalf => !before
    | .finishHalf => !after

/-- The threads at one position, and which instructions have one. -/
structure Threads where
  /-- The threads that wait for a character or have matched, in reverse order of preference. -/
  list : List Thread := []
  /-- Which instructions have been reached. -/
  reached : Array Bool

/-- Run threads, the first one first, up to the instructions that pass a character. An instruction
that has been reached before is not entered again. -/
def follow (p : Program) (place : Place) (fuel : Nat) (stack : List Thread) (ts : Threads) :
    Threads :=
  match fuel, stack with
  | 0, _ | _, [] => ts
  | fuel + 1, t :: stack =>
    if ts.reached.getD t.address true then follow p place fuel stack ts
    else
      let ts := { ts with reached := ts.reached.setIfInBounds t.address true }
      match p.getD t.address .done with
      | .pass .. | .done => follow p place fuel stack { ts with list := t :: ts.list }
      | .check a next =>
        if a.holds place then follow p place fuel ({ t with address := next } :: stack) ts
        else follow p place fuel stack ts
      | .split choices =>
        follow p place fuel ((choices.map fun next => { t with address := next }) ++ stack) ts
      | .save slot next =>
        follow p place fuel
          ({ address := next, slots := t.slots.setIfInBounds slot (some place.index) } :: stack) ts

/-- A machine that searches with a program. -/
structure Machine where
  /-- The program. -/
  program : Program
  /-- Where it starts. -/
  start : Nat
  /-- Number of slots. -/
  slots : Nat
  /-- Steps from one position to the next, at most. -/
  fuel : Nat

namespace Machine

/-- Add threads at a place, behind those that are there. -/
def enter (m : Machine) (place : Place) (stack : List Thread) (ts : Threads) : Threads :=
  follow m.program place (m.fuel + stack.length) stack ts

/-- No thread at any instruction. -/
def noThreads (m : Machine) : Threads := { reached := Array.replicate m.program.size false }

/-- Move threads, in order of preference, over a character to the next place. A thread that has
matched ends the round. -/
def advance (m : Machine) (c : Option Char) (place : Place) (found : Option Slots) :
    List Thread → Threads → Option Slots × Threads
  | [], next => (found, next)
  | t :: rest, next =>
    match m.program.getD t.address .done with
    | .done => (some t.slots, next)
    | .pass set target =>
      if (c.map set.contains).getD false then
        advance m c place found rest (m.enter place [{ t with address := target }] next)
      else advance m c place found rest next
    | _ => advance m c place found rest next

/-- Search from a position on. -/
def run (m : Machine) (rest : List Char) (before : Option Char) (index : Nat) (ts : Threads)
    (found : Option Slots) : Option Slots :=
  let here : Place := ⟨index, before, rest.head?⟩
  let ts :=
    if found.isSome then ts
    else m.enter here [{ address := m.start, slots := Array.replicate m.slots none }] ts
  let there : Place := ⟨index + 1, rest.head?, rest.tail.head?⟩
  let (found, next) := m.advance rest.head? there found ts.list.reverse m.noThreads
  match rest with
  | [] => found
  | c :: rest =>
    if next.list.isEmpty && found.isSome then found else m.run rest (some c) (index + 1) next found

end Machine

/-- The ends of a match. -/
def ends (slots : Slots) : Nat × Nat :=
  (((slots.getD 0 none)).getD 0, ((slots.getD 1 none)).getD 0)

/-- A position in a text, with the text after it. -/
structure Cut where
  /-- Characters before the position. -/
  index : Nat := 0
  /-- The character before it. -/
  before : Option Char := none
  /-- The text after it. -/
  rest : List Char

/-- The position so many characters later. -/
def Cut.later : Nat → Cut → Cut
  | n + 1, ⟨index, _, c :: rest⟩ => later n ⟨index + 1, some c, rest⟩
  | _, cut => cut

/-- The first match from a position on. -/
def findFrom (m : Machine) (cut : Cut) : Option Slots :=
  m.run cut.rest cut.before cut.index m.noThreads none

/-- The matches from a position on, which is the end of the match before if `follows`. -/
def findAllFrom (m : Machine) (fuel : Nat) (follows : Bool) (cut : Cut) : List Slots :=
  match fuel with
  | 0 => []
  | fuel + 1 =>
    match findFrom m cut with
    | none => []
    | some slots =>
      let stop := (ends slots).2
      if follows && stop == cut.index then
        if cut.rest.isEmpty then []
        else
          let next := cut.later 1
          match findFrom m next with
          | none => []
          | some slots =>
            slots :: findAllFrom m fuel true (next.later ((ends slots).2 - next.index))
      else slots :: findAllFrom m fuel true (cut.later (stop - cut.index))

/-- The matches of a text, from left to right. -/
def findAll (m : Machine) (text : List Char) : List Slots :=
  findAllFrom m (text.length + 2) false { rest := text }

end Pipework.Pattern
