import Pipework.Command.Input

/-!
# Writing and editing texts

`echo` writes its argument text, `trim` removes the blanks at the ends of texts, and `gsub` replaces
the matches of a pattern.
-/

namespace Pipework.Command

open Behavior

/-- Write the argument text. The reader is released first, so the stage before is cut short. -/
def echo : StageProgram := fun _ args => do
  perform .closeInput
  write (.text (args.getD ""))

/-- A text without the blanks at its ends; another value as it is. -/
def trimValue : Value → Value
  | .text s => .text (trimmed s)
  | v => v

/-- Remove the blanks at the ends of texts, taking lists apart. -/
def trim : StageProgram := fun hasInput args => do
  let o : Input := { name := "trim" }
  o.openText hasInput args
  forAll o.next fun v => writeAll (v.items.map trimValue)

/-- Replace every match of a pattern, or the first one of each item. -/
def gsub : StageProgram := fun hasInput args => do
  let o : Input := { name := "gsub", flags := some "gGi", required := 2 }
  o.openText hasInput args
  let required ← o.require
  let every := (← Input.hasFlag 'g') || !(← Input.hasFlag 'G')
  let pattern ← ofExcept (Pattern.read (← Input.hasFlag 'i') (required.headD .null).display)
  let parts := Pattern.replacement (required.getD 1 .null).display
  forAll o.next fun v => write (.text (pattern.replace every parts v.display))

end Pipework.Command
