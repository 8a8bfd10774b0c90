import Pipework.Job.Station
import Pipework.Pattern
import Pipework.Text.Quoted

/-!
# Input of commands

A command takes its input from two places through one interface: first the items of its argument
text, then the items of the stage before it. So `grep b a b` and `echo a b | grep b` can both work.

* `Input.next` takes one item; after an interrupt there are no more.
* `Input.rest` takes everything left, interrupt or not.
* `Input.readFlags` takes the leading items that consist of flags, `Input.require` then takes a
  fixed number of items and fails if there are fewer.
-/

namespace Pipework

/-- How a command takes its input. -/
structure Input where
  /-- The command, as messages name it. -/
  name : String
  /-- Items that `require` takes. -/
  required : Nat := 0
  /-- The flags the command knows, if it has any. -/
  flags : Option String := none
  /-- What separates items in a text; blanks if there is no pattern. -/
  separator : Option Pattern := none
  /-- Texts from the stage before are split like the argument text. -/
  splitsInput : Bool := false
  /-- `rest` takes lists apart. -/
  flattens : Bool := false

namespace Input

/-- The items of a text. -/
def split (o : Input) (text : String) : List Value :=
  let text := trimmed text
  if text.isEmpty then []
  else match o.separator with
    | some p => (p.split text).map .text
    | none => (wordsOf text).map .text

/-- Begin with these items. -/
def openWith (o : Input) (hasInput : Bool) (items : List Value) : Behavior Unit := do
  .note "args" s!"{o.name}: queued {items.length} arg(s), stdin={hasInput}"
  .perform (.setArguments { queue := items })

/-- Begin with the items of an argument text. -/
def openText (o : Input) (hasInput : Bool) (args : Option String) : Behavior Unit :=
  o.openWith hasInput ((args.map o.split).getD [])

/-- An item from the stage before. -/
def received (o : Input) : Value → Value
  | .text s => if o.splitsInput then .list (o.split s) else .text s
  | v => v

/-- Take an item. -/
def next (o : Input) : Behavior (Option Value) := do
  if !(← .undisturbed) then return none
  let a ← .perform .arguments
  match a.queue with
  | v :: queue =>
    .perform (.setArguments { a with queue := queue })
    return some v
  | [] =>
    if ← .perform .inputClosed then return none
    return (← .read).map o.received

/-- Put an item back in front. -/
def putBack (v : Value) : Behavior Unit := do
  let a ← .perform .arguments
  .perform (.setArguments { a with queue := v :: a.queue })

/-- Take everything left. -/
def rest (o : Input) : Behavior (List Value) := do
  let a ← .perform .arguments
  .perform (.setArguments { a with queue := [] })
  let items := a.queue ++ (← .readAll).map o.received
  return if o.flattens then flatten items else items

/-- As many items as may be asked for at once; room for more cannot be addressed. -/
def maxTake : Nat := Nat.pow 2 58 - 1

/-- Take up to `n` items. -/
def take (o : Input) (n : Nat) : Behavior (List Value) :=
  if maxTake < n then .crash
  else .forever (n, []) fun (left, items) => do
    if left = 0 then return .inr items.reverse
    match ← o.next with
    | some v => return .inl (left - 1, v :: items)
    | none => return .inr items.reverse

/-- The letters of an item that may be a group of flags: a text of two bytes or more that begins
with a hyphen, without its leading hyphens. -/
def flagLetters? : Value → Option (List Char)
  | .text s =>
    if 1 < s.utf8ByteSize && s.toList.head? == some '-' then some (s.toList.dropWhile (· == '-'))
    else none
  | _ => none

/-- Take the leading items that are groups of known flags. A group with an unknown flag is put back
and fails. -/
def readFlags (o : Input) : Behavior Unit :=
  match o.flags with
  | none => return
  | some known =>
    .forever () fun _ => do
      match ← o.next with
      | none => return .inr ()
      | some v =>
        match flagLetters? v with
        | none =>
          putBack v
          return .inr ()
        | some letters =>
          let unknown := letters.filter fun c => !known.toList.contains c
          if unknown.isEmpty then
            .note "args" s!"{o.name}: flags {quotedChars letters}"
            let a ← .perform .arguments
            .perform (.setArguments { a with flags := a.flags ++ letters })
            return .inl ()
          else
            putBack v
            let listed := unknown.mergeSort fun a b => a ≤ b
            let names := joined "," (listed.map (String.singleton ·))
            .fail (.invalidArgument s!"unrecognized flags: {names}")

/-- Take the flags, and then up to the required number of items. -/
def readRequired (o : Input) : Behavior (List Value) := do
  o.readFlags
  o.take o.required

/-- Take the flags and the required number of items; fail if there are fewer. -/
def require (o : Input) : Behavior (List Value) := do
  let items ← o.readRequired
  if items.length < o.required then .fail (.missingArgument o.name o.required items.length)
  else return items

/-- The flag has been seen. -/
def hasFlag (c : Char) : Behavior Bool := do return (← .perform .arguments).flags.contains c

/-- There are no items left: none queued, and none to come from the stage before. -/
def exhausted (st : Station) (job : Job) : Bool :=
  st.arguments.queue.isEmpty &&
    Station.orAbsent st.input job fun p => p.readClosed || (p.writeClosed && p.buffer.isEmpty)

end Input

end Pipework
