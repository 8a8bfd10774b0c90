import Pipework.Error
import Pipework.Pattern.Reader
import Pipework.Pattern.Replacement
import Pipework.Pattern.Search
import Pipework.Pattern.Size

/-!
# Patterns

Commands search, split and replace by patterns. `Pattern.read` reads one; a text that is no pattern
is an invalid argument, and so is a pattern that would take too much memory.
-/

namespace Pipework

/-- A pattern ready for use. -/
structure Pattern where
  /-- The machine that searches with it. -/
  machine : Pattern.Machine
  /-- The names of its groups with their indices. -/
  names : List (String × Nat)

namespace Pattern

/-- Memory that a pattern may take, in bytes. -/
def memoryLimit : Nat := 10485760

/-- Number of slots that a program uses. -/
def slotCount (p : Program) : Nat :=
  p.foldl (fun n i => match i with
    | .save slot _ => max n (slot + 1)
    | _ => n) 2

/-- Read a pattern, whose case counts unless it is to be ignored. -/
def read (ignoreCase : Bool) (text : String) : Except ShellError Pattern :=
  match read? ignoreCase text with
  | none => .error (.invalidArgument "regex parse error:")
  | some (t, names) =>
    if !t.fits memoryLimit then
      .error (.invalidArgument s!"Compiled regex exceeds size limit of {memoryLimit} bytes.")
    else
      let (program, start) := Program.ofTree t
      let machine : Machine :=
        { program := program, start := start, slots := slotCount program,
          fuel := program.size + program.ways + 1 }
      .ok { machine := machine, names := names }

/-- Some part of the text matches. -/
def matchesIn (p : Pattern) (text : String) : Bool :=
  (findFrom p.machine { rest := text.toList }).isSome

/-- The pieces of a text between matches, which begins after `index` characters of the whole. -/
def splitAt (index : Nat) (text : List Char) : List Slots → List (List Char)
  | [] => [text]
  | slots :: found =>
    let (start, stop) := ends slots
    text.take (start - index) :: splitAt stop (text.drop (stop - index)) found

/-- The pieces of a text between matches. -/
def split (p : Pattern) (text : String) : List String :=
  let cs := text.toList
  (splitAt 0 cs (findAll p.machine cs)).map .ofList

/-- The part of a text that a group has matched, of a text that begins after `index` characters of
the whole. -/
def groupText (index : Nat) (text : List Char) (slots : Slots) (group : Nat) : List Char :=
  match slots.getD (2 * group) none, slots.getD (2 * group + 1) none with
  | some start, some stop => (text.drop (start - index)).take (stop - start)
  | _, _ => []

/-- What a part of a replacement text stands for, in a match at the beginning of `text`. -/
def Part.expand (p : Pattern) (index : Nat) (text : List Char) (slots : Slots) :
    Part → List Char
  | .char c => [c]
  | .index n => groupText index text slots n
  | .name s =>
    match p.names.find? (·.1 == s) with
    | some (_, n) => groupText index text slots n
    | none => []

/-- The text with matches replaced, which begins after `index` characters of the whole. -/
def replaceAt (p : Pattern) (parts : List Part) (index : Nat) (text : List Char) :
    List Slots → List Char
  | [] => text
  | slots :: found =>
    let (start, stop) := ends slots
    let here := text.drop (start - index)
    text.take (start - index) ++ (parts.flatMap (Part.expand p start here slots) ++
      replaceAt p parts stop (text.drop (stop - index)) found)

/-- The text with every match replaced, or the first one only. -/
def replace (p : Pattern) (every : Bool) (parts : List Part) (text : String) : String :=
  let cs := text.toList
  let found := if every then findAll p.machine cs else (findFrom p.machine { rest := cs }).toList
  .ofList (replaceAt p parts 0 cs found)

end Pattern

end Pipework
