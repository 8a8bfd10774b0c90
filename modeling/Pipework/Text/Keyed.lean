/-!
# Keyed lists

A keyed list holds one entry per key, in ascending order of the keys (by code point). `insert` and
`erase` keep that form, so two keyed lists with the same entries are equal.
-/

namespace Pipework

universe u

/-- Entries by key, in ascending order of the keys. -/
abbrev Keyed (α : Type u) : Type u := List (String × α)

namespace Keyed

variable {α : Type u}

/-- The entry under a key. -/
def find? (key : String) : Keyed α → Option α
  | [] => none
  | (k, a) :: rest => if k = key then some a else find? key rest

/-- Put an entry under a key; an entry already there is replaced. -/
def insert (key : String) (a : α) : Keyed α → Keyed α
  | [] => [(key, a)]
  | (k, b) :: rest =>
    if key < k then (key, a) :: (k, b) :: rest
    else if key = k then (key, a) :: rest
    else (k, b) :: insert key a rest

/-- Remove the entry under a key, if there is one. -/
def erase (key : String) (entries : Keyed α) : Keyed α := entries.filter fun e => e.1 ≠ key

/-- Enter the pairs one after another; the last of several under one key stays. -/
def ofList (entries : List (String × α)) : Keyed α :=
  entries.foldl (fun table e => insert e.1 e.2 table) []

/-- The keys, in ascending order. -/
def keys (entries : Keyed α) : List String := entries.map (·.1)

end Keyed

end Pipework
