import Pipework.Command.Input
import Pipework.Line.Count

/-!
# Commands that take their time

`wait` begins to pass its input on after a time, `tick` passes one item on every so often, and `yes`
writes a text, or its input while there is some, until it is stopped.
-/

namespace Pipework.Command

open Behavior

/-- Pass the input on after a time. -/
def wait : StageProgram := fun hasInput args => do
  let ms := countOr 2000 args
  note "cmd:stream" s!"wait: {ms}ms"
  if ← sleep ms then
    let o : Input := { name := "wait" }
    o.openText hasInput none
    forAll o.next write

/-- Pass one item on, then wait. -/
def tick : StageProgram := fun hasInput args =>
  if !hasInput then return
  else
    let ms := countOr 400 args
    forever () fun _ => do
      if !(← undisturbed) then return .inr ()
      match ← read with
      | none => return .inr ()
      | some v =>
        write v
        return if ← sleep ms then .inl () else .inr ()

/-- The interval and the text that the arguments of `yes` ask for: a number in front is the
interval. -/
def yesArgs (args : Option String) : Option Nat × String :=
  let text := Text.trim (args.getD "").toList
  let (first, rest) := match Text.cut? Text.isBlank text with
    | some (first, rest) => (first, Text.trimLeft rest)
    | none => (text, [])
  match Number.natural? Number.maxWord first with
  | some ms => (some ms, if rest.isEmpty then "y" else .ofList rest)
  | none => (none, if text.isEmpty then "y" else .ofList text)

/-- Wait for the next tick of an interval, if there is one: whether to go on. -/
def awaitInterval : Option (Nat × Nat) → Behavior Bool
  | some (timer, ms) => perform (.awaitTimer timer ms)
  | none => return true

/-- Write the input, and a text once there is no more input, until nobody reads. -/
def yes : StageProgram := fun hasInput args => do
  let (ms, text) := yesArgs args
  let interval : Option (Nat × Nat) ← match ms with
    | some ms => (fun timer => some (timer, ms)) <$> perform (.startTimer .interval)
    | none => pure none
  forever hasInput fun fromInput => do
    if !(← undisturbed) then return .inr ()
    if ← perform .outputClosed then return .inr ()
    let received : Option Value ← if fromInput then read else pure none
    if received.isNone then perform .closeInput
    write (received.getD (.text text))
    return if ← awaitInterval interval then .inl received.isSome else .inr ()

end Pipework.Command
