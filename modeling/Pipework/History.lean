import Pipework.Error
import Pipework.Json.Printer
import Pipework.Json.Record
import Pipework.Text.Blank

/-!
# History

Every submitted line is recorded with its output. A history keeps the newest entries up to its
maximum and drops older ones.

A history may be kept in a file, as a JSON array that is written anew after every change. Opening
reads the array again; a missing or blank file is an empty history.
-/

namespace Pipework

/-- One recorded line. -/
structure HistoryEntry where
  /-- The line. -/
  command : String
  /-- What it wrote. -/
  output : List String
  /-- When it was recorded. -/
  timestamp : String
  deriving Repr, DecidableEq, Inhabited

namespace HistoryEntry

/-- An entry as JSON. -/
def toJson (e : HistoryEntry) : Json :=
  .object [("command", .text e.command), ("output", .array (e.output.map .text)),
    ("timestamp", .text e.timestamp)]

/-- The names of the fields of an entry. -/
def fieldNames : List String := ["command", "output", "timestamp"]

/-- The only field of a name; none if the name is missing or stands twice. -/
def only? (name : String) (fields : List (String × Json)) : Option Json :=
  match fields.filter (·.1 == name) with
  | [(_, j)] => some j
  | _ => none

/-- An entry from JSON: an object with its three fields, or an array of their values. Other fields
are passed over. -/
def ofJson? : Json → Option HistoryEntry
  | .object fields => do
    let command ← (← only? "command" fields).text?
    let output ← (← only? "output" fields).texts?
    let timestamp ← (← only? "timestamp" fields).text?
    some ⟨command, output, timestamp⟩
  | .array [command, output, timestamp] => do
    some ⟨← command.text?, ← output.texts?, ← timestamp.text?⟩
  | _ => none

end HistoryEntry

/-- A file that a history is kept in. -/
structure HistoryFile where
  /-- What the file holds; none if there is no such file. -/
  content : Option String
  /-- Writes to the file succeed. -/
  writable : Bool := true
  deriving Repr, DecidableEq

/-- Recorded lines. -/
structure History where
  /-- The entries, oldest first. -/
  entries : List HistoryEntry := []
  /-- How many entries are kept. -/
  maxSize : Nat
  /-- The file they are kept in, if any. -/
  file : Option HistoryFile := none
  deriving Repr, DecidableEq

namespace History

/-- The newest `max` entries. -/
def newest (max : Nat) (entries : List HistoryEntry) : List HistoryEntry :=
  entries.drop (entries.length - max)

/-- The text of a file with these entries. -/
def fileText (entries : List HistoryEntry) : String :=
  (Json.array (entries.map HistoryEntry.toJson)).pretty

/-- The entries that a file's text holds. -/
def entriesOf? (text : String) : Option (List HistoryEntry) :=
  if (Text.trim text.toList).isEmpty then some []
  else do (← Json.records? HistoryEntry.fieldNames text).mapM HistoryEntry.ofJson?

/-- A history in memory. -/
def inMemory (maxSize : Nat) : History := { maxSize := maxSize }

/-- Open the history kept in a file. -/
def openFile (maxSize : Nat) (file : HistoryFile) : Except ShellError History :=
  match entriesOf? (file.content.getD "") with
  | some entries =>
    .ok { entries := newest maxSize entries, maxSize := maxSize, file := some file }
  | none => .error (.history "the file does not hold a history")

/-- Write the entries to the file, if the history has one. -/
def save (h : History) : Except ShellError Unit × History :=
  match h.file with
  | none => (.ok (), h)
  | some file =>
    if file.writable then
      (.ok (), { h with file := some { file with content := some (fileText h.entries) } })
    else (.error (.history "the file cannot be written"), h)

/-- Record an entry. -/
def push (h : History) (e : HistoryEntry) : Except ShellError Unit × History :=
  { h with entries := newest h.maxSize (h.entries ++ [e]) }.save

/-- Forget every entry. -/
def clear (h : History) : Except ShellError Unit × History := { h with entries := [] }.save

/-- The entry at an index; negative indices count from the end, -1 being the newest entry. -/
def get? (h : History) (index : Int) : Option HistoryEntry :=
  let index := if index < 0 then h.entries.length + index else index
  if 0 ≤ index then h.entries[index.toNat]? else none

end History

end Pipework
