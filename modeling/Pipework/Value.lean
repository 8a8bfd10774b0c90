import Pipework.Text.Blank
import Pipework.Number.Layout
import Pipework.Number.Reading

/-!
# Values

The items that flow through a pipeline: nothing, a number, a text or a list of values.

* `Value.display` is the text a value is shown as: whole numbers below 10^15 without a point, other
  numbers positionally, the elements of a list separated by `, `;
* `Value.length` counts characters or elements, `Value.number?` reads a value as a number;
* `Value.items` and `flatten` take one level of lists apart.
-/

namespace Pipework

/-- An item of a pipeline. -/
inductive Value where
  /-- Nothing. -/
  | null
  /-- A binary64 number. -/
  | number (x : Float)
  /-- A text. -/
  | text (s : String)
  /-- A list of values. -/
  | list (items : List Value)
  deriving Inhabited, Repr, BEq

namespace Value

/-- A number as a value is shown: whole numbers below 10^15 as integers, so without the sign of
zero. -/
def displayNumber (x : Float) : String :=
  match Number.integer? x with
  | some n => if n.natAbs < Nat.pow 10 15 then toString n else Number.plain x
  | none => Number.plain x

mutual

/-- The text a value is shown as. -/
def display : Value → String
  | .null => ""
  | .number x => displayNumber x
  | .text s => s
  | .list items => joined ", " (displayItems items)

/-- The texts of the elements of a list. -/
def displayItems : List Value → List String
  | [] => []
  | v :: rest => display v :: displayItems rest

end

/-- Number of characters of a text, of elements of a list, and zero of anything else. -/
def length : Value → Nat
  | .text s => s.length
  | .list items => items.length
  | _ => 0

/-- The text of a value that is one. -/
def text? : Value → Option String
  | .text s => some s
  | _ => none

/-- A number as it is, a text as the number it spells between blanks. -/
def number? : Value → Option Float
  | .number x => some x
  | .text s => Number.float? (Text.trim s.toList)
  | _ => none

/-- The elements of a list; anything else is its only item. -/
def items : Value → List Value
  | .list items => items
  | v => [v]

/-- A count as a value. -/
def ofNat (n : Nat) : Value := .number (Number.ofNat n)

end Value

/-- Take one level of lists apart. -/
def flatten (values : List Value) : List Value := values.flatMap Value.items

end Pipework
