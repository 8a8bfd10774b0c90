import Pipework.Pattern.Tree
import Pipework.Text.Utf8
import Std.Data.HashMap

/-!
# How much memory a pattern takes

A pattern is limited in the memory that two automata on the bytes of a text would take, one that
reads forward and one that reads backward. Their states are numbered in the order in which they are
made. A state takes 32 bytes, an edge of a state with several edges 8 more, and a link of a state
that only links to others 4 more.

* `Tree.tally?` adds the states of a tree; there is no answer once the limit is passed;
* `Tree.fits` tells whether both automata of a tree keep to the limit.

States of a set that lead to the same places are made once if the earlier one is still remembered:
each has one slot in a table of fixed size, which the next one with that slot takes over.
-/

namespace Pipework.Pattern

open Text

/-- The way in which an automaton reads a text. -/
inductive Direction where
  /-- From the beginning on. -/
  | forward
  /-- From the end on. -/
  | backward
  deriving Repr, DecidableEq

/-- What has been made of an automaton. -/
structure Tally where
  /-- Number of states. -/
  states : Nat := 0
  /-- Memory in bytes. -/
  bytes : Nat := 0
  deriving Repr, DecidableEq

namespace Tally

/-- Add states that take some bytes together. -/
def add (t : Tally) (states bytes : Nat) : Tally := ⟨t.states + states, t.bytes + bytes⟩

/-- Add states unless the limit is passed. -/
def within (limit states bytes : Nat) (t : Tally) : Option Tally :=
  let t := t.add states bytes
  if limit < t.bytes then none else some t

/-- Take a step several times. -/
def rounds (step : Tally → Option Tally) : Nat → Tally → Option Tally
  | 0, t => some t
  | n + 1, t =>
    match step t with
    | some t => rounds step n t
    | none => none

end Tally

/-! ## Sets -/

/-- An automaton of a set under construction. -/
structure Weaving where
  /-- What has been made. -/
  tally : Tally
  /-- States by slot, each with the key that describes it. -/
  slots : Std.HashMap Nat (List Nat × Nat) := {}

namespace Weaving

/-- The slot of a key in a table of `size` slots. -/
def slotOf (size : Nat) (key : List Nat) : Nat :=
  let mixed := key.foldl (fun (h : UInt64) n => (h ^^^ n.toUInt64) * 1099511628211)
    14695981039346656037
  mixed.toNat % size

/-- The state of a key: the remembered one, or a new one that takes some bytes. -/
def state (size : Nat) (key : List Nat) (bytes : Nat) (w : Weaving) : Nat × Weaving :=
  let slot := slotOf size key
  let fresh : Nat × Weaving :=
    (w.tally.states,
      { tally := w.tally.add 1 bytes, slots := w.slots.insert slot (key, w.tally.states) })
  match w.slots[slot]? with
  | some (known, id) => if known == key then (id, w) else fresh
  | none => fresh

/-- Make the states for sequences of byte ranges in ascending order, the last of which lead to
`goal`. A state is made after those that it leads to. -/
def forward (goal : Nat) : Nat → List (List (Nat × Nat)) → Weaving → Nat × Weaving
  | 0, _, w => (goal, w)
  | depth + 1, sequences, w =>
    let branches := sequences.splitBy fun a b => a.head? == b.head?
    let (key, w) := branches.foldl (fun (key, w) branch =>
      match branch with
      | [(lo, hi)] :: _ => (key ++ [lo, hi, goal], w)
      | ((lo, hi) :: _) :: _ =>
        let (next, w) := forward goal depth (branch.map (·.tail)) w
        (key ++ [lo, hi, next], w)
      | _ => (key, w)) ([], w)
    w.state 10000 key (32 + 8 * branches.length)

/-- Make the states for one sequence of byte ranges, which lead to `goal` through its last ranges
first. -/
def backward (goal : Nat) (ranges : List (Nat × Nat)) (w : Weaving) : Weaving :=
  (ranges.foldl (fun (next, w) (lo, hi) => w.state 1000 [next, lo, hi] 32) (goal, w)).2

end Weaving

/-- Add the states of a set. -/
def setTally (d : Direction) (set : CharSet) (t : Tally) : Tally :=
  if set.isAscii then t.add 2 (64 + 8 * set.ranges.length)
  else
    let sequences := set.ranges.flatMap fun (lo, hi) => byteRanges lo hi
    match d with
    | .forward => (Weaving.forward t.states 5 sequences { tally := t.add 1 32 }).2.tally
    | .backward =>
      let w : Weaving := { tally := t.add 2 (64 + 4 * sequences.length) }
      (sequences.foldl (fun w ranges => w.backward (t.states + 1) ranges) w).tally

/-! ## Alternatives that are texts -/

/-- The words between those that are used up. -/
def cutAtEnds : List (List Nat) → List (List (List Nat))
  | [] => [[]]
  | [] :: words => [] :: cutAtEnds words
  | word :: words =>
    match cutAtEnds words with
    | [] => [[word]]
    | part :: parts => (word :: part) :: parts

/-- The rests of words by their first bytes. -/
def byFirst (words : List (List Nat)) : List (List (List Nat)) :=
  ((words.filterMap (·.head?)).eraseDups).map fun b =>
    (words.filter (·.head? == some b)).map (·.tail)

/-- Add the states of the part of a word tree that is left after a common beginning. Words that end
here part those before them from those after them, which come later in preference. -/
def wordTally : Nat → List (List Nat) → Tally → Tally
  | 0, _, t => t
  | fuel + 1, words, t =>
    let parts := match cutAtEnds words with
      | [] :: parts => [] :: parts.dropWhile (·.isEmpty)
      | parts => parts
    let branchings := (parts.filter (!·.isEmpty)).map byFirst
    if branchings.isEmpty then t
    else
      let ends := parts.length - 1
      branchings.foldl (fun t branches =>
        branches.foldl (fun t rests => wordTally fuel rests t)
          (t.add 1 (if branches.length == 1 then 32 else 32 + 8 * branches.length)))
        (t.add 1 (32 + 4 * (branchings.length + ends)))

/-- The texts of alternatives that are all texts. -/
def texts? (ts : List Tree) : Option (List (List Char)) :=
  ts.mapM fun t => match t with
    | .text cs => some cs
    | _ => none

/-! ## Trees -/

namespace Tree

mutual

/-- Add the states of a tree. -/
def tally? (d : Direction) (limit : Nat) (tree : Tree) (t : Tally) : Option Tally :=
  match tree with
  | .empty | .anchor _ => t.within limit 1 32
  | .text cs =>
    let n := (utf8All cs).length
    t.within limit n (32 * n)
  | .one set => (setTally d set t).within limit 0 0
  | .group _ tree =>
    match d with
    | .forward => ((t.within limit 1 32).bind (tally? d limit tree)).bind (·.within limit 1 32)
    | .backward => tally? d limit tree t
  | .seq ts => tallyAll? d limit ts t
  | .alt ts =>
    match texts? ts with
    | some texts =>
      let words := texts.map fun cs => match d with
        | .forward => utf8All cs
        | .backward => (utf8All cs).reverse
      let fuel := words.foldl (fun n word => max n word.length) 0 + 1
      (wordTally fuel words (t.add 1 32)).within limit 0 0
    | none => tallyEach? d limit 0 ts t
  | .times tree least most _ =>
    let step (t : Tally) : Option Tally := tally? d limit tree t
    match least, most with
    | 0, some 1 => ((t.within limit 1 40).bind step).bind (·.within limit 1 32)
    | 0, none =>
      if tree.needsChar then (t.within limit 1 40).bind step
      else (step t).bind (·.within limit 3 112)
    | least, none => (Tally.rounds step least t).bind (·.within limit 1 40)
    | least, some most =>
      if least == most then Tally.rounds step least t
      else
        let required := if least == 0 then t.within limit 1 32 else Tally.rounds step least t
        (required.bind (·.within limit 1 32)).bind
          (Tally.rounds (fun t => (t.within limit 1 40).bind step) (most - least))

/-- Add the states of trees one after another, in the order in which they are read. -/
def tallyAll? (d : Direction) (limit : Nat) (ts : List Tree) (t : Tally) : Option Tally :=
  match ts with
  | [] => some t
  | tree :: ts =>
    match d with
    | .forward => (tally? d limit tree t).bind (tallyAll? d limit ts)
    | .backward => (tallyAll? d limit ts t).bind (tally? d limit tree)

/-- Add the states of alternatives. The two states around them are made after the second one. -/
def tallyEach? (d : Direction) (limit index : Nat) (ts : List Tree) (t : Tally) : Option Tally :=
  match ts with
  | [] => some t
  | tree :: ts =>
    match tally? d limit tree t with
    | some t =>
      let t := if index == 1 then t.add 2 72 else if 1 < index then t.add 0 4 else t
      (t.within limit 0 0).bind (tallyEach? d limit (index + 1) ts)
    | none => none

end

/-- The states before a tree: a loop over the bytes before a match, unless all matches begin where
the automaton does. -/
def opening (d : Direction) (tree : Tree) : Tally :=
  let anchored := match d with
    | .forward => tree.startsAt .textStart
    | .backward => tree.endsAt .textEnd
  if anchored then ⟨1, 32⟩ else ⟨3, 112⟩

/-- The automaton in one direction keeps to the limit, with a last state for the match. -/
def fitsIn (d : Direction) (limit : Nat) (tree : Tree) : Bool :=
  ((tally? d limit (.group 0 tree) (tree.opening d)).bind (·.within limit 1 32)).isSome

/-- Both automata keep to the limit. -/
def fits (limit : Nat) (tree : Tree) : Bool :=
  tree.fitsIn .forward limit && tree.fitsIn .backward limit

end Tree

end Pipework.Pattern
