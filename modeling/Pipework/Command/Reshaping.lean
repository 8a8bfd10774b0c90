import Pipework.Command.Input
import Pipework.Line.Count

/-!
# Reshaping sequences of items

`collect` and `chunk` gather items into lists, `join` and `split` turn items into one text and texts
into several, `sort` and `reverse` put them in another order.
-/

namespace Pipework.Command

open Behavior

/-- Gather all items into one list. -/
def collect : StageProgram := fun hasInput args => do
  let o : Input := { name := "collect" }
  o.openText hasInput args
  write (.list (← o.rest))

/-- Gather items into lists of a size. -/
def chunk : StageProgram := fun hasInput args => do
  let o : Input := { name := "chunk" }
  let size := countOr 5 args
  o.openText hasInput none
  forever () fun _ => do
    let items ← o.take size
    if items.isEmpty then return .inr ()
    write (.list items)
    return .inl ()

/-- Join all items into one text. -/
def join : StageProgram := fun hasInput args => do
  let o : Input := { name := "join" }
  o.openText hasInput none
  let items ← o.rest
  write (.text (joined (args.getD "\n") (items.map (·.display))))

/-- Line breaks with the blanks around them, at which texts are split by default. -/
def lineBreaks : String := "\\s*\\n+\\s*"

/-- Split texts at the matches of a pattern. -/
def split : StageProgram := fun hasInput args => do
  let pattern ← ofExcept (Pattern.read false (args.getD lineBreaks))
  let o : Input := { name := "split" }
  o.openText hasInput none
  forAll o.next fun
    | .text s => writeAll ((pattern.split s).map .text)
    | v => write v

/-- Put the items in the order of the texts they are shown as. -/
def sort : StageProgram := fun hasInput args => do
  let o : Input := { name := "sort" }
  o.openText hasInput args
  let items ← o.rest
  let keyed := items.map fun v => (v.display, v)
  writeAll ((keyed.mergeSort fun a b => a.1 ≤ b.1).map (·.2))

/-- Put the items in the opposite order. -/
def reverse : StageProgram := fun hasInput args => do
  let o : Input := { name := "reverse" }
  o.openText hasInput args
  writeAll (← o.rest).reverse

end Pipework.Command
