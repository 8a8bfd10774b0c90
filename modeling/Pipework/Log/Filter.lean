import Pipework.Error
import Pipework.Log.Verbosity
import Pipework.Text.Quoted

/-!
# Log filters

A filter decides for each subsystem how much of its log is reported. It is a list of rules; a rule
names a target and a level, and matches every subsystem whose name begins with the target. The
default rule has no target and matches all.

* Rules are tried in order of specificity: the longest target first, then the most fields, then in
  reverse alphabetical order. The first that matches decides; without a match nothing is reported.
* A rule with field names asks for records with these fields. The shell's records have none, so
  such a rule never matches.
* A filter text is a list of directives separated by commas: `name=level`, `*=level` for the
  default, a bare level for the default too, `*` for `debug` by default, and a bare name for `debug`
  of that subsystem.

`Filter.parse?` reads such a text, `Filter.render` writes one, the most specific subsystem first.
-/

namespace Pipework

/-- A rule of a filter. -/
structure Rule where
  /-- Beginning of the names of the subsystems it is for; none for the default rule. -/
  target : Option String
  /-- Fields that a record must have. -/
  fields : List String := []
  /-- The verbosity it grants. -/
  level : Verbosity
  deriving Repr, DecidableEq

/-- Why a filter text cannot be read. -/
inductive FilterError where
  /-- A directive with two equals signs. -/
  | manyEquals
  /-- A directive with two openings of a field list. -/
  | manyFieldLists
  /-- A field list that is not closed at the end of the target. -/
  | openFieldList
  /-- No level goes by the text after the equals sign. -/
  | badLevel
  deriving Repr, DecidableEq

/-- The text of a filter error. -/
def FilterError.message : FilterError → String
  | .manyEquals =>
    "invalid filter directive: too many '=' in filter directive, expected 0 or 1"
  | .manyFieldLists =>
    "invalid filter directive: too many '[\x7b' in filter directive, expected 0 or 1"
  | .openFieldList =>
    "invalid filter directive: expected fields list to end with '\x7d]'"
  | .badLevel =>
    "error parsing level filter: expected one of \"off\", \"error\", \"warn\", \"info\", " ++
      "\"debug\", \"trace\", or a number 0-5"

/-- Rules in the order in which they are tried. -/
structure Filter where
  /-- The rules. -/
  rules : List Rule
  deriving Repr, DecidableEq, Inhabited

namespace Rule

/-- Compare two optional texts: none comes first. -/
def compareTargets : Option String → Option String → Ordering
  | none, none => .eq
  | none, some _ => .lt
  | some _, none => .gt
  | some a, some b => compare a b

/-- Compare two lists of texts element by element; a shorter one comes first. -/
def compareTexts : List String → List String → Ordering
  | [], [] => .eq
  | [], _ => .lt
  | _, [] => .gt
  | a :: as, b :: bs => (compare a b).then (compareTexts as bs)

/-- Length of a target in bytes, counted from one; zero for the default rule. -/
def targetSize (rule : Rule) : Nat :=
  match rule.target with
  | some target => target.utf8ByteSize + 1
  | none => 0

/-- `.lt` if the first rule is tried before the second. -/
def order (a b : Rule) : Ordering :=
  ((compare b.targetSize a.targetSize).then (compare b.fields.length a.fields.length)).then
    ((compareTargets b.target a.target).then (compareTexts b.fields a.fields))

/-- The rule decides about the subsystem. -/
def matchesName (rule : Rule) (subsystem : String) : Bool :=
  rule.fields.isEmpty &&
    match rule.target with
    | some target => target.toList.isPrefixOf subsystem.toList
    | none => true

end Rule

namespace Filter

/-- Put a rule in its place; a rule with the same target and fields is replaced. -/
def insertRule (rule : Rule) : List Rule → List Rule
  | [] => [rule]
  | other :: rest =>
    match rule.order other with
    | .lt => rule :: other :: rest
    | .eq => rule :: rest
    | .gt => other :: insertRule rule rest

/-- Add a rule. -/
def add (filter : Filter) (rule : Rule) : Filter := ⟨insertRule rule filter.rules⟩

/-- The filter of a list of rules, added one after another. -/
def ofRules (rules : List Rule) : Filter := rules.foldl add ⟨[]⟩

/-- A filter with a default rule only. -/
def uniform (level : Verbosity) : Filter := ⟨[{ target := none, level := level }]⟩

/-- Warnings everywhere. -/
def standard : Filter := uniform .warn

/-- Nothing anywhere. -/
def silent : Filter := uniform .off

/-- The verbosity of a subsystem. -/
def verbosity (filter : Filter) (subsystem : String) : Verbosity :=
  match filter.rules.find? fun rule => rule.matchesName subsystem with
  | some rule => rule.level
  | none => .off

/-- A message of the level from the subsystem is reported. -/
def enabled (filter : Filter) (subsystem : String) (level : Verbosity) : Bool :=
  match filter.rules.find? fun rule => rule.matchesName subsystem with
  | some rule => rule.level.reports level
  | none => false

/-- Set the verbosity of one subsystem, or by `*` of the default. -/
def setLevel (filter : Filter) (subsystem : String) (level : Verbosity) : Filter :=
  filter.add { target := if subsystem = "*" then none else some subsystem, level := level }

/-! ## Reading -/

/-- Cut a text at every occurrence of the two characters `[` and an opening brace. -/
def cutFieldLists : List Char → List (List Char)
  | [] => [[]]
  | '[' :: '\x7b' :: rest => [] :: cutFieldLists rest
  | c :: rest =>
    match cutFieldLists rest with
    | [] => [[c]]
    | piece :: pieces => (c :: piece) :: pieces

/-- Drop every closing of a field list from the end of a reversed text. -/
def dropClosings : List Char → List Char
  | ']' :: '\x7d' :: rest => dropClosings rest
  | cs => cs

/-- The fields of a field list, without its opening. -/
def readFields? (cs : List Char) : Except FilterError (List String) :=
  match cs.reverse with
  | ']' :: '\x7d' :: _ =>
    .ok (((Text.pieces (· == ',') (dropClosings cs.reverse).reverse).filter (!·.isEmpty)).map
      .ofList)
  | _ => .error .openFieldList

/-- Read a target with an optional field list. -/
def readTarget? (cs : List Char) : Except FilterError (String × List String) :=
  match cutFieldLists cs with
  | [target] => .ok (.ofList target, [])
  | [target, fields] => (readFields? fields).map fun fields => (.ofList target, fields)
  | [] => .ok ("", [])
  | _ => .error .manyFieldLists

/-- Read one directive: `target=level`, a bare level, or a bare target for everything. -/
def readRule? (cs : List Char) : Except FilterError Rule :=
  match Text.pieces (· == '=') cs with
  | [target, level] =>
    match readTarget? target with
    | .error e => .error e
    | .ok (target, fields) =>
      match Verbosity.ofText? (.ofList level) with
      | some level => .ok { target := some target, fields := fields, level := level }
      | none => .error .badLevel
  | [bare] =>
    match Verbosity.ofText? (.ofList bare) with
    | some level => .ok { target := none, level := level }
    | none => .ok { target := some (.ofList bare), level := .trace }
  | _ => .error .manyEquals

/-- Bring a directive of the shell into one of the forms `target=level` and bare level. -/
def plainDirective (cs : List Char) : List Char :=
  match Text.cut? (· == '=') cs with
  | some (['*'], level) => Text.trim level
  | some (name, level) => Text.trim name ++ '=' :: Text.trim level
  | none =>
    if cs == ['*'] then "debug".toList
    else if (Verbosity.ofText? (.ofList cs)).isSome then cs
    else cs ++ "=debug".toList

/-- The directives of a filter text, each brought into one of these forms, joined again. -/
def directives (s : String) : List Char :=
  Text.join [','] <|
    (((Text.pieces (· == ',') s.toList).map Text.trim).filter (!·.isEmpty)).map plainDirective

/-- The filter of directives in the forms `target=level` and bare level. -/
def ofDirectives? (cs : List Char) : Except FilterError Filter :=
  ((Text.pieces (· == ',') cs).mapM readRule?).map ofRules

/-- Read a filter text. A text without directives is the filter without rules. -/
def parse? (s : String) : Except ShellError Filter :=
  let given := directives s
  if given.isEmpty then .ok ⟨[]⟩
  else
    match ofDirectives? given with
    | .ok filter => .ok filter
    | .error e => .error (.config s!"bad debug filter '{s}': {e.message}")

/-! ## Writing -/

/-- `true` if the rule of the first target is written before that of the second. -/
def writtenBefore (a b : String × Verbosity) : Bool :=
  b.1.utf8ByteSize < a.1.utf8ByteSize || (a.1.utf8ByteSize == b.1.utf8ByteSize && a.1 ≤ b.1)

/-- The targets with their levels, the longest first, in alphabetical order among equal ones. -/
def targets (filter : Filter) : List (String × Verbosity) :=
  (filter.rules.filterMap fun rule => rule.target.map (·, rule.level)).mergeSort writtenBefore

/-- The level of the default rule. -/
def default? (filter : Filter) : Option Verbosity :=
  (filter.rules.find? (·.target.isNone)).map (·.level)

/-- The filter as a text. -/
def render (filter : Filter) : String :=
  joined "," <|
    (filter.targets.map fun (name, level) => name ++ "=" ++ level.name) ++
      (filter.default?.toList.map fun level => "*=" ++ level.name)

end Filter

/-- A record of the log. -/
structure Record where
  /-- The level, one of `debug`, `info` and `warn`. -/
  level : Verbosity
  /-- The subsystem it comes from; empty for the logger itself. -/
  subsystem : String
  /-- What happened. -/
  message : String
  deriving Repr, DecidableEq

/-- The filter that a text asks for. A text that cannot be read gives the standard filter, and a
warning that says so. -/
def Filter.start (text : String) : Filter × List Record :=
  match Filter.parse? text with
  | .ok filter => (filter, [])
  | .error e => (.standard, [⟨.warn, "", e.message ++ "; using defaults"⟩])

/-- The description of a filter. -/
def Filter.describe (filter : Filter) : String := "Logger(" ++ quotedText filter.render ++ ")"

/-- The records that a filter lets through, of one record. -/
def Filter.pass (filter : Filter) (record : Record) : List Record :=
  if filter.enabled record.subsystem record.level then [record] else []

end Pipework
