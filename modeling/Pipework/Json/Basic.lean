import Pipework.Text.Keyed

/-!
# JSON values

A JSON value as it stands in a text: numbers without a point or exponent are integers, all others
binary64 numbers, and an object lists its fields in the order written.

`canonical` sorts the fields of every object by key and keeps the last of several under one key;
this is the form in which values are stored and compared.
-/

namespace Pipework

/-- A JSON value. -/
inductive Json where
  /-- The literal `null`. -/
  | null
  /-- A truth value. -/
  | bool (b : Bool)
  /-- A number written without point and exponent, within 64 bits. -/
  | integer (n : Int)
  /-- Any other number. -/
  | number (x : Float)
  /-- A string. -/
  | text (s : String)
  /-- An array. -/
  | array (items : List Json)
  /-- An object. -/
  | object (fields : List (String × Json))
  deriving Inhabited

namespace Json

mutual

/-- The value with the fields of every object in order of their keys, each key once. -/
def canonical : Json → Json
  | .array items => .array (canonicalItems items)
  | .object fields => .object (Keyed.ofList (canonicalFields fields))
  | other => other

/-- `canonical` on each element. -/
def canonicalItems : List Json → List Json
  | [] => []
  | j :: rest => canonical j :: canonicalItems rest

/-- `canonical` on each field's value. -/
def canonicalFields : List (String × Json) → List (String × Json)
  | [] => []
  | (k, j) :: rest => (k, canonical j) :: canonicalFields rest

end

/-- The field of an object, the last of several under one key. -/
def field? (key : String) : Json → Option Json
  | .object fields => (fields.reverse.find? (·.1 == key)).map (·.2)
  | _ => none

/-- The text of a string. -/
def text? : Json → Option String
  | .text s => some s
  | _ => none

/-- The elements of an array. -/
def items? : Json → Option (List Json)
  | .array items => some items
  | _ => none

/-- The texts of an array of strings. -/
def texts? (j : Json) : Option (List String) := do (← j.items?).mapM text?

end Json

end Pipework
