import Pipework.Value
import Pipework.Json.Basic

/-!
# Values as JSON

`Value.toJson` writes every value as JSON. `Value.ofJson?` reads what has the form of a value:
`null`, numbers, strings and arrays of these, but neither truth values nor objects.
-/

namespace Pipework.Value

mutual

/-- A value as JSON. -/
def toJson : Value → Json
  | .null => .null
  | .number x => .number x
  | .text s => .text s
  | .list items => .array (toJsonItems items)

/-- The elements of a list as JSON. -/
def toJsonItems : List Value → List Json
  | [] => []
  | v :: rest => toJson v :: toJsonItems rest

end

mutual

/-- The value that a JSON value stands for. -/
def ofJson? : Json → Option Value
  | .null => some .null
  | .integer n => some (.number (Number.ofInt n))
  | .number x => some (.number x)
  | .text s => some (.text s)
  | .array items => (ofJsonItems? items).map .list
  | .bool _ => none
  | .object _ => none

/-- The values that the elements of an array stand for. -/
def ofJsonItems? : List Json → Option (List Value)
  | [] => some []
  | j :: rest =>
    match ofJson? j, ofJsonItems? rest with
    | some v, some vs => some (v :: vs)
    | _, _ => none

end

end Pipework.Value
