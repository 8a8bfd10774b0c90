import Pipework.Pattern.Tree

/-!
# Pattern programs

A tree is compiled into a program for a machine of many threads. An instruction names the
instructions that may follow it; where several may, the first is preferred.

A repetition of a pattern that can match the empty text is compiled as an optional run of one round
or more: a thread that has gone through an empty round then meets the way out before a second round.
-/

namespace Pipework.Pattern

open Text

/-- An instruction. -/
inductive Instr where
  /-- Pass a character of the set. -/
  | pass (set : CharSet) (next : Nat)
  /-- Go on where the anchor holds. -/
  | check (a : Anchor) (next : Nat)
  /-- Go on at any of several places, the first preferred. -/
  | split (choices : List Nat)
  /-- Remember the position in a slot. -/
  | save (slot next : Nat)
  /-- The pattern has matched. -/
  | done
  deriving Inhabited

/-- Instructions by address. -/
abbrev Program := Array Instr

namespace Program

/-- Add an instruction; the answer is its address. -/
def add (p : Program) (i : Instr) : Program × Nat :=
  let address := p.size
  (p.push i, address)

/-- The choice between a round and the way out. -/
def fork (greedy : Bool) (round out : Nat) : Instr :=
  .split (if greedy then [round, out] else [out, round])

/-- Compile so many copies one after another, each by `body`, which is told where to go on. -/
def copies (body : Program → Nat → Program × Nat) : Nat → Program → Nat → Program × Nat
  | 0, p, next => (p, next)
  | n + 1, p, next =>
    let (p, start) := body p next
    copies body n p start

/-- Compile up to so many rounds, each of which may lead out to `out`. -/
def optionals (body : Program → Nat → Program × Nat) (greedy : Bool) (out : Nat) :
    Nat → Program → Nat → Program × Nat
  | 0, p, next => (p, next)
  | n + 1, p, next =>
    let (p, round) := body p next
    let (p, start) := p.add (fork greedy round out)
    optionals body greedy out n p start

/-- Compile one round or more. -/
def rounds (body : Program → Nat → Program × Nat) (greedy : Bool) (p : Program) (out : Nat) :
    Program × Nat :=
  let (p, again) := p.add .done
  let (p, round) := body p again
  (p.setIfInBounds again (fork greedy round out), round)

/-- Compile any number of rounds, each of which passes a character. -/
def loop (body : Program → Nat → Program × Nat) (greedy : Bool) (p : Program) (out : Nat) :
    Program × Nat :=
  let (p, again) := p.add .done
  let (p, round) := body p again
  (p.setIfInBounds again (fork greedy round out), again)

/-- Compile the characters of a text. -/
def spell (cs : List Char) (p : Program) (next : Nat) : Program × Nat :=
  cs.foldr (fun c (p, next) => p.add (.pass (.singleton c) next)) (p, next)

mutual

/-- Compile a tree in front of the instruction at `next`; the answer is where to start. -/
def compile (t : Tree) (p : Program) (next : Nat) : Program × Nat :=
  match t with
  | .empty => (p, next)
  | .text cs => spell cs p next
  | .one set => p.add (.pass set next)
  | .anchor a => p.add (.check a next)
  | .group index t =>
    let (p, close) := p.add (.save (2 * index + 1) next)
    let (p, start) := compile t p close
    p.add (.save (2 * index) start)
  | .seq ts => compileSeq ts p next
  | .alt ts =>
    let (p, starts) := compileAlt ts p next
    p.add (.split starts)
  | .times t least most greedy =>
    let body (p : Program) (next : Nat) : Program × Nat := compile t p next
    match most with
    | some most =>
      let (p, start) := optionals body greedy next (most - least) p next
      copies body least p start
    | none =>
      match least with
      | 0 =>
        if t.needsChar then loop body greedy p next
        else
          let (p, round) := rounds body greedy p next
          p.add (fork greedy round next)
      | least + 1 =>
        let (p, start) := rounds body greedy p next
        copies body least p start

/-- Compile trees one after another. -/
def compileSeq (ts : List Tree) (p : Program) (next : Nat) : Program × Nat :=
  match ts with
  | [] => (p, next)
  | t :: ts =>
    let (p, start) := compileSeq ts p next
    compile t p start

/-- Compile each tree in front of the same instruction; the answer is where each starts. -/
def compileAlt (ts : List Tree) (p : Program) (next : Nat) : Program × List Nat :=
  match ts with
  | [] => (p, [])
  | t :: ts =>
    let (p, start) := compile t p next
    let (p, starts) := compileAlt ts p next
    (p, start :: starts)

end

/-- The program of a tree, whose match is remembered as group zero, and where it starts. -/
def ofTree (t : Tree) : Program × Nat := compile (.group 0 t) #[.done] 0

/-- Number of ways from one instruction to another. -/
def ways (p : Program) : Nat :=
  p.foldl (fun n i => match i with
    | .split choices => n + choices.length
    | _ => n + 1) 0

end Program

end Pipework.Pattern
