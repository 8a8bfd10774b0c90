import Pipework.Error
import Pipework.Text.Quoted
import Pipework.Toml.Printer
import Pipework.Toml.Reader

/-!
# Configuration

A `Config` holds the settings of a shell and the aliases its user has defined. A setting goes by a
dotted key: its section and its name, `pipe.capacity`.

* `Config.ofToml?` reads a TOML document; what it does not name keeps its default, and what no
  setting goes by is passed over.
* `Config.toToml?` writes one, and `Config.get`, `Config.set` and `Config.settings` work on single
  settings. A change is made only if its value is of the kind that the setting holds.

Sizes are naturals of 64 bits. Those above `2^63 - 1` have no TOML form: a configuration with one
can be read but neither written nor looked into.
-/

namespace Pipework

/-- The settings of a shell. -/
structure Config where
  /-- The filter of the log. -/
  filter : String := "*=warn"
  /-- How many items a pipe buffers. -/
  capacity : Nat := 64
  /-- How many entries the history keeps. -/
  maxSize : Nat := 100
  /-- The file of the history; in memory if there is none. -/
  path : Option String := none
  /-- Commands that are not recorded. -/
  skip : List String := ["exit", "help", "clear", "_", "alias", "history", "hist"]
  /-- How many lines of output are recorded with a line. -/
  maxBuffer : Nat := 1024
  /-- What each alias stands for. -/
  aliases : Keyed String := []
  deriving Repr, DecidableEq, Inhabited

/-- The defaults of all settings, and no aliases. -/
def Config.standard : Config := {}

/-- The settings that have a key of their own. -/
inductive Setting where
  /-- The filter of the log. -/
  | filter
  /-- How many items a pipe buffers. -/
  | capacity
  /-- How many entries the history keeps. -/
  | maxSize
  /-- The file of the history. -/
  | path
  /-- Commands that are not recorded. -/
  | skip
  /-- How many lines of output are recorded with a line. -/
  | maxBuffer
  deriving Repr, DecidableEq, Inhabited

/-! ## Values of settings -/

namespace Toml

/-- A value as a message about a wrong kind names it. -/
def kindText : Toml → String
  | .string s => "string " ++ quotedText s
  | .integer n => s!"integer `{n}`"
  | .float x =>
    let text := Number.plain x
    let point := if text.toList.any (['.', 'i', 'N'].contains ·) then "" else ".0"
    s!"floating point `{text}{point}`"
  | .boolean b => if b then "boolean `true`" else "boolean `false`"
  | .array _ => "sequence"
  | .table _ | .moment _ => "map"

/-- The value is not of the kind wanted. -/
def wrongKind {α : Type} (v : Toml) (wanted : String) : Except String α :=
  .error s!"invalid type: {v.kindText}, expected {wanted}"

/-- A size: an integer from zero on, of 64 bits. -/
def size : Toml → Except String Nat
  | .integer n =>
    if n < 0 then .error s!"invalid value: integer `{n}`, expected usize"
    else if n ≤ Number.maxWord then .ok n.toNat
    else .error s!"invalid type: integer `{n}`, expected usize"
  | v => v.wrongKind "usize"

/-- A text. -/
def text : Toml → Except String String
  | .string s => .ok s
  | v => v.wrongKind "a string"

/-- A list of texts. -/
def texts : Toml → Except String (List String)
  | .array items => items.mapM text
  | v => v.wrongKind "a sequence"

/-- The entries of a table. A date or time in its place reads as a table of one entry. -/
def entries? : Toml → Option (Keyed Toml)
  | .table entries => some entries
  | .moment m => some [("$__toml_private_datetime", .string m.text)]
  | _ => none

end Toml

namespace Setting

/-- All settings, each section in the order of its fields. -/
def all : List Setting := [.filter, .capacity, .maxSize, .path, .skip, .maxBuffer]

/-- The section of a setting. -/
def sectionName : Setting → String
  | .filter => "debug"
  | .capacity => "pipe"
  | .maxSize | .path | .skip => "history"
  | .maxBuffer => "output"

/-- The name of a setting within its section. -/
def name : Setting → String
  | .filter => "filter"
  | .capacity => "capacity"
  | .maxSize => "max_size"
  | .path => "path"
  | .skip => "skip"
  | .maxBuffer => "max_buffer"

/-- The settings of a section. -/
def ofSection (title : String) : List Setting := all.filter (·.sectionName == title)

/-- The value of a setting; none if it is unset. -/
def value? (c : Config) : Setting → Option Toml
  | .filter => some (.string c.filter)
  | .capacity => some (.integer c.capacity)
  | .maxSize => some (.integer c.maxSize)
  | .path => c.path.map .string
  | .skip => some (.array (c.skip.map .string))
  | .maxBuffer => some (.integer c.maxBuffer)

/-- Give a setting a value, which must be of its kind. -/
def assign (c : Config) (v : Toml) : Setting → Except String Config
  | .filter => do .ok { c with filter := ← v.text }
  | .capacity => do .ok { c with capacity := ← v.size }
  | .maxSize => do .ok { c with maxSize := ← v.size }
  | .path => do .ok { c with path := some (← v.text) }
  | .skip => do .ok { c with skip := ← v.texts }
  | .maxBuffer => do .ok { c with maxBuffer := ← v.size }

end Setting

namespace Config

/-! ## Documents -/

/-- The sections that hold settings, in the order in which they are written. -/
def sectionNames : List String := ["debug", "pipe", "history", "output"]

/-- Read a section: a table, in which other keys are passed over, or an array of the values of its
settings from the first on. -/
def readSection (title : String) (v : Toml) (c : Config) : Except String Config :=
  match v with
  | .array items =>
    ((Setting.ofSection title).zip items).foldlM (fun c (setting, v) => setting.assign c v) c
  | v =>
    match v.entries? with
    | some entries =>
      (Setting.ofSection title).foldlM (fun c setting =>
        match entries.find? setting.name with
        | some v => setting.assign c v
        | none => .ok c) c
    | none => v.wrongKind "a table"

/-- Read the aliases: a table of texts. -/
def readAliases (v : Toml) (c : Config) : Except String Config :=
  match v.entries? with
  | some entries => do
    .ok { c with aliases := ← entries.mapM fun (name, v) => do .ok (name, ← v.text) }
  | none => v.wrongKind "a map"

/-- The configuration that a TOML document holds, over the defaults. -/
def ofToml? (text : String) : Option Config := do
  let root ← Toml.read? text
  let step (c : Config) (title : String) : Except String Config :=
    match root.find? title with
    | some v => readSection title v c
    | none => .ok c
  let read : Except String Config := do
    let c ← sectionNames.foldlM step standard
    match root.find? "aliases" with
    | some v => readAliases v c
    | none => .ok c
  read.toOption

/-- Every size has a TOML form. -/
def isWritable (c : Config) : Bool :=
  [c.capacity, c.maxSize, c.maxBuffer].all (· ≤ Toml.maxInteger)

/-- The settings of a section and their values. -/
def fields (c : Config) (title : String) : List (String × Toml) :=
  (Setting.ofSection title).filterMap fun setting =>
    (setting.value? c).map fun v => (setting.name, v)

/-- The aliases as entries of a table. -/
def aliasFields (c : Config) : List (String × Toml) :=
  c.aliases.map fun (name, target) => (name, .string target)

/-- The configuration as a TOML document. -/
def toToml? (c : Config) : Option String :=
  if c.isWritable then
    some <| Toml.document <|
      (sectionNames.map fun title => (title, c.fields title)) ++ [("aliases", c.aliasFields)]
  else none

/-! ## Single settings -/

/-- The configuration as a table of tables. -/
def toTable (c : Config) : Except ShellError (Keyed Toml) :=
  if c.isWritable then
    .ok <| Keyed.ofList <|
      ("aliases", .table (Keyed.ofList c.aliasFields)) ::
        sectionNames.map fun title => (title, .table (Keyed.ofList (c.fields title)))
  else .error (.config "u64 value was too large")

/-- The value at a path into a table. -/
def lookUp (v : Toml) : List String → Option Toml
  | [] => some v
  | key :: path =>
    match v with
    | .table entries => (Keyed.find? key entries).bind fun v => lookUp v path
    | _ => none

/-- The value under a dotted key: a setting, an alias or a whole section. -/
def get (c : Config) (key : String) : Except ShellError (Option Toml) := do
  .ok (lookUp (.table (← c.toTable)) (piecesAt '.' key))

/-- Every setting under its dotted key, in the order of the keys. -/
def settings (c : Config) : Except ShellError (Keyed Toml) := do
  let _ ← c.toTable
  .ok <| Keyed.ofList <| Setting.all.filterMap fun setting =>
    (setting.value? c).map fun v => (setting.sectionName ++ "." ++ setting.name, v)

/-- The value that a text stands for: the TOML value it spells, with dates and times as texts; else
the text itself without blanks around it. -/
def valueOf (raw : String) : Toml :=
  let raw := trimmed raw
  let spelled := (Toml.read? ("v = " ++ raw)).filter Toml.fitsEntries
  match spelled.bind (Keyed.find? "v") with
  | some v => v.momentsAsText
  | none => .string raw

/-- Enter a value under a name of a section: the value of a setting, the target of an alias, or
nothing that is kept. -/
def enter (c : Config) (title name : String) (v : Toml) : Except String Config :=
  if title == "aliases" then do .ok { c with aliases := c.aliases.insert name (← v.text) }
  else
    match (Setting.ofSection title).find? (·.name == name) with
    | some setting => setting.assign c v
    | none => .ok c

/-- Change the setting or alias under a dotted key to the value that a text stands for. The answer
is the value stored and the changed configuration. -/
def set (c : Config) (key raw : String) : Except ShellError (Toml × Config) := do
  let unknown : ShellError := .invalidArgument s!"unknown setting: {key}"
  match cutAt? '.' key with
  | none => .error unknown
  | some (title, name) =>
    let sections ← c.toTable
    if (sections.find? title).isNone then .error unknown
    else
      match c.enter title name (valueOf raw) with
      | .error reason => .error (.config s!"{key}: {reason}")
      | .ok updated =>
        match ← updated.get key with
        | some stored => .ok (stored, updated)
        | none => .error unknown

end Config

end Pipework
