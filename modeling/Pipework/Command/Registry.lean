import Pipework.Text.Keyed
import Pipework.Text.Quoted

/-!
# The table of commands

A `Registry` lists commands by name and aliases by the name they stand for. Registering a command
replaces the one of the same name and enters its aliases; aliases of the replaced command stay.
A name is looked up among the commands first and among the aliases then.
-/

namespace Pipework

/-- What the shell tells about a command. -/
structure CommandSpec where
  /-- The canonical name. -/
  name : String
  /-- How to call it. -/
  usage : String := ""
  /-- What it does, in one line. -/
  description : String := ""
  /-- More lines of help. -/
  help : List String := []
  /-- Other names. -/
  aliases : List String := []
  /-- The command has no program of its own and passes its input on. -/
  forwards : Bool := false
  deriving Repr, DecidableEq, Inhabited

/-- The description of an entry. -/
def CommandSpec.describe (spec : CommandSpec) : String :=
  "CommandSpec \x7b name: " ++ quotedText spec.name ++ ", aliases: " ++ quotedTexts spec.aliases ++
    ", forward: " ++ (if spec.forwards then "true" else "false") ++ " \x7d"

/-- Commands and aliases. -/
structure Registry where
  /-- Commands by name. -/
  commands : Keyed CommandSpec := []
  /-- Names of commands by alias. -/
  aliases : Keyed String := []
  deriving Repr, DecidableEq, Inhabited

namespace Registry

/-- Enter a command and its aliases. -/
def register (r : Registry) (spec : CommandSpec) : Registry :=
  { commands := r.commands.insert spec.name spec,
    aliases := spec.aliases.foldl (fun table other => table.insert other spec.name) r.aliases }

/-- The registry of a list of commands. -/
def ofSpecs (specs : List CommandSpec) : Registry := specs.foldl register {}

/-- The command of a canonical name. -/
def get? (r : Registry) (name : String) : Option CommandSpec := r.commands.find? name

/-- What an alias stands for. -/
def aliasTarget? (r : Registry) (name : String) : Option String := r.aliases.find? name

/-- The command of a name or alias. -/
def lookup? (r : Registry) (name : String) : Option CommandSpec :=
  (r.get? name).or ((r.aliasTarget? name).bind r.get?)

/-- All commands in order of their names. -/
def specs (r : Registry) : List CommandSpec := r.commands.map (·.2)

/-- All names in order. -/
def names (r : Registry) : List String := r.commands.keys

end Registry

end Pipework
