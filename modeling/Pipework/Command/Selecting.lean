import Pipework.Command.Input
import Pipework.Line.Count

/-!
# Selecting items

`head`, `tail` and `drop` select items by place, `uniq` the first of those shown alike, and `grep`
the lines of texts in which a pattern matches.
-/

namespace Pipework.Command

open Behavior

/-- Keep the first items. The stage ends as soon as it has them. -/
def head : StageProgram := fun hasInput args => do
  let o : Input := { name := "head" }
  o.openText hasInput none
  forever (countOr 5 args) fun left => do
    if left = 0 then return .inr ()
    match ← o.next with
    | some v =>
      write v
      return .inl (left - 1)
    | none => return .inr ()

/-- Keep the last items. -/
def tail : StageProgram := fun hasInput args => do
  let o : Input := { name := "tail" }
  o.openText hasInput none
  let items ← o.rest
  writeAll (items.drop (items.length - countOr 5 args))

/-- Drop the first items. -/
def drop : StageProgram := fun hasInput args => do
  let o : Input := { name := "drop" }
  o.openText hasInput none
  let _ ← forEach o.next (countOr 5 args) fun left v => do
    if left = 0 then write v
    return left - 1

/-- Keep the first of several items that are shown alike. -/
def uniq : StageProgram := fun hasInput args => do
  let o : Input := { name := "uniq" }
  o.openText hasInput args
  let _ ← forEach o.next [] fun (seen : List String) v => do
    if seen.contains v.display then return seen
    write v
    return v.display :: seen

/-- Keep the lines in which a pattern matches, or those in which it does not. -/
def grep : StageProgram := fun hasInput args => do
  let o : Input := { name := "grep", flags := some "iv", required := 1 }
  o.openText hasInput args
  let required ← o.require
  let pattern ← ofExcept (Pattern.read (← Input.hasFlag 'i') (required.headD .null).display)
  let inverted ← Input.hasFlag 'v'
  forAll o.next fun v =>
    writeAll (((piecesAt '\n' v.display).filter fun line =>
      pattern.matchesIn line != inverted).map .text)

end Pipework.Command
