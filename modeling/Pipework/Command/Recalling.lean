import Pipework.Command.Input
import Pipework.Line.Count

/-!
# Recalling earlier lines

`history` lists the recorded lines or gives the output of one, `_` gives the output of a line so
many lines back, and `clear` asks for a clear screen or forgets the recorded lines.

These commands read their input to its end before they begin.
-/

namespace Pipework.Command

open Behavior

/-- List the recorded lines, or write the output of one as a list. -/
def history : StageProgram := fun _ args => do
  drain
  let h := (← shell).history
  match args.map trimmed with
  | some index =>
    match Number.integer64? index.toList with
    | none => .fail (.invalidArgument s!"history: bad index '{index}'")
    | some i =>
      match h.get? i with
      | some e => write (.list (e.output.map .text))
      | none => return
  | none => writeAll (h.entries.zipIdx.map fun (e, i) => .text s!"[{i}] {e.command}")

/-- A count as a signed number of 64 bits. -/
def signedCount (n : Nat) : Int := if n < Nat.pow 2 63 then n else (n : Int) - Int.pow 2 64

/-- Write the output of the line so many lines back. The one number of 64 bits that has no opposite
ends the program. -/
def previous : StageProgram := fun _ args => do
  drain
  let back := signedCount (countOr 1 args)
  if back = -(Int.pow 2 63) then .crash
  else
    match (← shell).history.get? (-back) with
    | some e => writeAll (e.output.map .text)
    | none => return

/-- Ask for a clear screen, or forget the recorded lines. The writer is released first. -/
def clear : StageProgram := fun _ args => do
  perform .closeOutput
  drain
  if args.map trimmed == some "history" then
    note "cmd:clear" "history cleared"
    let s ← shell
    let (outcome, h) := s.history.clear
    perform (.setShell { s with history := h })
    ofExcept outcome
  else perform .clearScreen

end Pipework.Command
