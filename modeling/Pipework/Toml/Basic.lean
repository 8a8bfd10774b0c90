import Pipework.Text.Keyed
import Pipework.Toml.Moment

/-!
# TOML values

The values of a TOML document: scalars, arrays and tables. A table holds one entry per key, in order
of the keys.
-/

namespace Pipework

/-- A TOML value. -/
inductive Toml where
  /-- A string. -/
  | string (s : String)
  /-- An integer. -/
  | integer (n : Int)
  /-- A float. -/
  | float (x : Float)
  /-- A truth value. -/
  | boolean (b : Bool)
  /-- A date, a time, or both. -/
  | moment (m : Moment)
  /-- An array. -/
  | array (items : List Toml)
  /-- A table. -/
  | table (entries : List (String × Toml))
  deriving Inhabited

namespace Toml

mutual

/-- The value with every date and time as its text. -/
def momentsAsText : Toml → Toml
  | .moment m => .string m.text
  | .array items => .array (momentsAsTextItems items)
  | .table entries => .table (momentsAsTextEntries entries)
  | other => other

/-- `momentsAsText` on each element. -/
def momentsAsTextItems : List Toml → List Toml
  | [] => []
  | v :: rest => momentsAsText v :: momentsAsTextItems rest

/-- `momentsAsText` on each entry. -/
def momentsAsTextEntries : List (String × Toml) → List (String × Toml)
  | [] => []
  | (k, v) :: rest => (k, momentsAsText v) :: momentsAsTextEntries rest

end

/-- The greatest integer that a stored value may hold. -/
def maxInteger : Nat := Nat.pow 2 63 - 1

mutual

/-- Every integer in the value fits in 64 bits. -/
def fits : Toml → Bool
  | .integer n => -(Int.pow 2 63) ≤ n && n ≤ maxInteger
  | .array items => fitsItems items
  | .table entries => fitsEntries entries
  | _ => true

/-- `fits` of each element. -/
def fitsItems : List Toml → Bool
  | [] => true
  | v :: rest => fits v && fitsItems rest

/-- `fits` of each entry. -/
def fitsEntries : List (String × Toml) → Bool
  | [] => true
  | (_, v) :: rest => fits v && fitsEntries rest

end

end Toml

end Pipework
