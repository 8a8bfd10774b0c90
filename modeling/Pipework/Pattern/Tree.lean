import Pipework.Text.CharSet

/-!
# Pattern trees

A pattern denotes a set of texts together with a preference among the ways to match one: the first
alternative before the second, and more repetitions before fewer, or fewer before more where the
repetition is lazy.

A tree is what a pattern's text is read into. All flags have been worked into it: the sets are
already folded, the anchors say which lines and words they mean. Trees are put together by `ofSet`,
`sequence`, `choice` and `repeated`, which write equal patterns in one plain way:

* neighbouring characters are one text, and nothing is written for a pattern of the empty text;
* alternatives of one character each are one set, and what all alternatives begin with is written
  once, before them;
* a repetition of a pattern that matches only the empty text has one round at most.
-/

namespace Pipework.Pattern

open Text

/-- Where an anchor stands relative to a word. -/
inductive WordSide where
  /-- At the beginning or the end of a word. -/
  | edge
  /-- Neither at the beginning nor at the end of a word. -/
  | noEdge
  /-- At the beginning of a word. -/
  | start
  /-- At the end of a word. -/
  | finish
  /-- Not after a word character. -/
  | startHalf
  /-- Not before a word character. -/
  | finishHalf
  deriving Repr, DecidableEq

/-- A condition on a position in a text. -/
inductive Anchor where
  /-- The beginning of the text. -/
  | textStart
  /-- The end of the text. -/
  | textEnd
  /-- The beginning of a line; carriage returns end lines too if `returns`. -/
  | lineStart (returns : Bool)
  /-- The end of a line; carriage returns end lines too if `returns`. -/
  | lineEnd (returns : Bool)
  /-- A place at a word, whose characters are those of ASCII unless `unicode`. -/
  | word (side : WordSide) (unicode : Bool)
  deriving Repr, DecidableEq

/-- A pattern. -/
inductive Tree where
  /-- The empty text. -/
  | empty
  /-- The characters of a text, one after another. -/
  | text (cs : List Char)
  /-- One character of a set. -/
  | one (set : CharSet)
  /-- The empty text where an anchor holds. -/
  | anchor (a : Anchor)
  /-- A pattern whose match is remembered under an index. -/
  | group (index : Nat) (t : Tree)
  /-- Patterns one after another. -/
  | seq (ts : List Tree)
  /-- One of several patterns, the first preferred. -/
  | alt (ts : List Tree)
  /-- A pattern several times: at least `least`, at most `most` if there is a bound. -/
  | times (t : Tree) (least : Nat) (most : Option Nat) (greedy : Bool)
  deriving Inhabited

namespace Tree

/-! ## What can be told of a tree -/

mutual

/-- The length of the shortest match; `none` if some part of the pattern that cannot be passed by
matches nothing. -/
def shortest? : Tree → Option Nat
  | .empty | .anchor _ => some 0
  | .text cs => some cs.length
  | .one set => if set.ranges.isEmpty then none else some 1
  | .group _ t => shortest? t
  | .seq ts => shortestTogether? ts
  | .alt ts => shortestAmong? ts
  | .times t least _ _ => (shortest? t).map (least * ·)

/-- The sum of the shortest lengths of a list. -/
def shortestTogether? : List Tree → Option Nat
  | [] => some 0
  | t :: ts =>
    match shortest? t, shortestTogether? ts with
    | some m, some n => some (m + n)
    | _, _ => none

/-- The least of the shortest lengths of a list. -/
def shortestAmong? : List Tree → Option Nat
  | [] => none
  | [t] => shortest? t
  | t :: ts =>
    match shortest? t, shortestAmong? ts with
    | some m, some n => some (min m n)
    | _, _ => none

end

/-- Every match takes a character, and every part can match. -/
def needsChar (t : Tree) : Bool :=
  match t.shortest? with
  | some n => 0 < n
  | none => false

mutual

/-- Every match of the pattern is empty. -/
def isHollow : Tree → Bool
  | .empty | .anchor _ => true
  | .text cs => cs.isEmpty
  | .one _ => false
  | .group _ t => isHollow t
  | .seq ts => isHollowAll ts
  | .alt ts => isHollowAll ts
  | .times t _ most _ => most == some 0 || isHollow t

/-- Every pattern of a list is hollow. -/
def isHollowAll : List Tree → Bool
  | [] => true
  | t :: ts => isHollow t && isHollowAll ts

end

mutual

/-- Every match begins where the anchor holds. -/
def startsAt (a : Anchor) : Tree → Bool
  | .anchor b => b == a
  | .empty | .text _ | .one _ => false
  | .group _ t => startsAt a t
  | .seq ts => startsAtSome a ts
  | .alt ts => startsAtEach a ts
  | .times t least _ _ => 0 < least && startsAt a t

/-- Some pattern of a list starts at the anchor, and those before it are hollow. -/
def startsAtSome (a : Anchor) : List Tree → Bool
  | [] => false
  | t :: ts => startsAt a t || (isHollow t && startsAtSome a ts)

/-- Every pattern of a list starts at the anchor. -/
def startsAtEach (a : Anchor) : List Tree → Bool
  | [] => true
  | t :: ts => startsAt a t && startsAtEach a ts

end

mutual

/-- Every match ends where the anchor holds. -/
def endsAt (a : Anchor) : Tree → Bool
  | .anchor b => b == a
  | .empty | .text _ | .one _ => false
  | .group _ t => endsAt a t
  | .seq ts => endsAtSome a ts
  | .alt ts => endsAtEach a ts
  | .times t least _ _ => 0 < least && endsAt a t

/-- Some pattern of a list ends at the anchor, and those after it are hollow. -/
def endsAtSome (a : Anchor) : List Tree → Bool
  | [] => false
  | t :: ts => endsAtSome a ts || (isHollowAll ts && endsAt a t)

/-- Every pattern of a list ends at the anchor. -/
def endsAtEach (a : Anchor) : List Tree → Bool
  | [] => true
  | t :: ts => endsAt a t && endsAtEach a ts

end

mutual

/-- The anchors of a pattern. -/
def anchors : Tree → List Anchor
  | .anchor a => [a]
  | .empty | .text _ | .one _ => []
  | .group _ t => anchors t
  | .seq ts => anchorsAll ts
  | .alt ts => anchorsAll ts
  | .times t _ _ _ => anchors t

/-- The anchors of the patterns of a list. -/
def anchorsAll : List Tree → List Anchor
  | [] => []
  | t :: ts => anchors t ++ anchorsAll ts

end

mutual

/-- The trees are written in the same way. -/
def same : Tree → Tree → Bool
  | .empty, .empty => true
  | .text cs, .text ds => cs == ds
  | .one s, .one t => s == t
  | .anchor a, .anchor b => a == b
  | .group i s, .group j t => i == j && same s t
  | .seq ss, .seq ts => sameAll ss ts
  | .alt ss, .alt ts => sameAll ss ts
  | .times s least most greedy, .times t least' most' greedy' =>
    least == least' && most == most' && greedy == greedy' && same s t
  | _, _ => false

/-- The lists hold the same trees. -/
def sameAll : List Tree → List Tree → Bool
  | [], [] => true
  | s :: ss, t :: ts => same s t && sameAll ss ts
  | _, _ => false

end

/-! ## Putting trees together -/

/-- One character of a set. -/
def ofSet (set : CharSet) : Tree :=
  match set.scalars.ranges with
  | [(lo, hi)] => if lo == hi then .text [Char.ofNat lo] else .one ⟨[(lo, hi)]⟩
  | ranges => .one ⟨ranges⟩

/-- The parts of a pattern in a sequence. -/
def steps : Tree → List Tree
  | .empty => []
  | .seq ts => ts
  | t => [t]

/-- Join the texts that stand beside each other. -/
def joinTexts : List Tree → List Tree
  | [] => []
  | .text cs :: ts =>
    match joinTexts ts with
    | .text ds :: rest => .text (cs ++ ds) :: rest
    | rest => .text cs :: rest
  | t :: ts => t :: joinTexts ts

/-- Patterns one after another. -/
def sequence (ts : List Tree) : Tree :=
  match joinTexts (ts.flatMap steps) with
  | [] => .empty
  | [t] => t
  | ts => .seq ts

/-- The alternatives of a pattern in a choice. -/
def alternatives : Tree → List Tree
  | .alt ts => ts
  | t => [t]

/-- The characters that a pattern of one character matches. -/
def charSet? : Tree → Option CharSet
  | .text [c] => some (.singleton c)
  | .one set => some set
  | _ => none

/-- The trees that two lists begin with alike. -/
def commonStart : List Tree → List Tree → List Tree
  | s :: ss, t :: ts => if same s t then s :: commonStart ss ts else []
  | _, _ => []

/-- The parts that every alternative begins with, if all of them have several parts. -/
def sharedStart : List Tree → List Tree
  | .seq ss :: ts => ts.foldl (fun start t => match t with
      | .seq ss => commonStart start ss
      | _ => []) ss
  | _ => []

/-- One of several patterns, whose sequences are at most as long as the fuel. -/
def choiceWithin (fuel : Nat) (ts : List Tree) : Tree :=
  match ts.flatMap alternatives with
  | [] => .one .empty
  | [t] => t
  | ts =>
    match ts.mapM charSet? with
    | some sets => ofSet (.ofRanges (sets.flatMap (·.ranges)))
    | none =>
      match fuel, sharedStart ts with
      | _, [] | 0, _ => .alt ts
      | fuel + 1, start =>
        let rests := ts.map fun t => sequence (t.steps.drop start.length)
        sequence (start ++ [choiceWithin fuel rests])

/-- One of several patterns, the first preferred. -/
def choice (ts : List Tree) : Tree :=
  choiceWithin ((ts.flatMap alternatives).foldl (fun n t => max n t.steps.length) 0) ts

/-- A pattern repeated. -/
def repeated (t : Tree) (least : Nat) (most : Option Nat) (greedy : Bool) : Tree :=
  let (least, most) :=
    if t.isHollow then (min least 1, some (min (most.getD 1) 1)) else (least, most)
  match least, most with
  | 0, some 0 => .empty
  | 1, some 1 => t
  | least, most => .times t least most greedy

end Tree

end Pipework.Pattern
