import Pipework.Command.Input

/-!
# Measuring items

`len` writes the length of each item, `wc` the number of lines, words or characters of each text,
and `sum` the sum of all numbers. What is no text or no number is reported and skipped.
-/

namespace Pipework.Command

open Behavior

/-- Write the length of each item. -/
def len : StageProgram := fun hasInput args => do
  let o : Input := { name := "len" }
  o.openText hasInput args
  forAll o.next fun v => write (.ofNat v.length)

/-- Write the sum of all numbers. -/
def sum : StageProgram := fun hasInput args => do
  let o : Input := { name := "sum" }
  o.openText hasInput args
  let rec total (x : Float) : List Value → Behavior Float
    | [] => return x
    | v :: rest => do
      match v.number? with
      | some y => total (x + y) rest
      | none =>
        perform (.report s!"sum: skipped {v.display}")
        total x rest
  write (.number (← total 0.0 (← o.rest)))

/-- What `wc` counts. -/
inductive Measure where
  /-- Lines. -/
  | lines
  /-- Words. -/
  | words
  /-- Characters. -/
  | chars
  deriving Repr, DecidableEq

/-- The number of lines, words or characters of a text. -/
def Measure.count (m : Measure) (s : String) : Nat :=
  match m with
  | .lines => (piecesAt '\n' s).length
  | .words => (wordsOf s).length
  | .chars => s.length

/-- What flags ask `wc` to count: lines go before words and words before characters. -/
def Measure.ofFlags (flags : List Char) : Measure :=
  if flags.contains 'l' then .lines
  else if flags.contains 'w' then .words
  else if flags.contains 'c' then .chars
  else .lines

/-- Write the number of lines, words or characters of each text. -/
def wc : StageProgram := fun hasInput args => do
  let o : Input := { name := "wc", flags := some "lwc" }
  o.openText hasInput args
  o.readFlags
  let measure := Measure.ofFlags (← perform .arguments).flags
  forAll o.next fun v =>
    match v.text? with
    | some s => write (.ofNat (measure.count s))
    | none => perform (.report s!"wc: skipped {v.display}")

end Pipework.Command
