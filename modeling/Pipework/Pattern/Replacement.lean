import Pipework.Number.Reading

/-!
# Replacement texts

A replacement text stands for the text put in place of a match. `$` and a name stand for a group of
the match, `$` and `$` for one dollar sign, and a dollar sign before anything else for itself. A
name is the longest run of ASCII letters, digits and underscores, or whatever stands in braces; one
that is a number is the index of its group. A group that there is not stands for nothing.
-/

namespace Pipework.Pattern

open Number

/-- A part of a replacement text. -/
inductive Part where
  /-- A character for itself. -/
  | char (c : Char)
  /-- The group of an index. -/
  | index (n : Nat)
  /-- The group of a name. -/
  | name (s : String)
  deriving Repr, DecidableEq

/-- The group that a name refers to. -/
def Part.ofName (name : List Char) : Part :=
  match natural? maxWord name with
  | some n => .index n
  | none => .name (.ofList name)

/-- A character of a name without braces. -/
def isReference (c : Char) : Bool := c.isAlphanum || c == '_'

/-- The parts of a replacement text. -/
def replacementParts (fuel : Nat) (cs : List Char) : List Part :=
  match fuel, cs with
  | 0, _ | _, [] => []
  | fuel + 1, '$' :: '$' :: rest => .char '$' :: replacementParts fuel rest
  | fuel + 1, '$' :: '\x7b' :: rest =>
    match rest.dropWhile (· != '\x7d') with
    | _ :: after => .ofName (rest.takeWhile (· != '\x7d')) :: replacementParts fuel after
    | [] => .char '$' :: replacementParts fuel ('\x7b' :: rest)
  | fuel + 1, '$' :: rest =>
    let name := rest.takeWhile isReference
    if name.isEmpty then .char '$' :: replacementParts fuel rest
    else .ofName name :: replacementParts fuel (rest.dropWhile isReference)
  | fuel + 1, c :: rest => .char c :: replacementParts fuel rest

/-- The parts of a replacement text. -/
def replacement (text : String) : List Part :=
  replacementParts (text.toList.length + 1) text.toList

end Pipework.Pattern
