import Pipework.Command.Input

/-!
# Help and messages to the host

`help` describes commands; `background` sends a message to the host and writes the answer.
-/

namespace Pipework.Command

open Behavior

/-! ## Help -/

/-- A command in one line, or with its usage and all its lines of help. -/
def describe (spec : CommandSpec) (details : Bool) : String :=
  let aliases := if spec.aliases.isEmpty then "" else " (" ++ joined "," spec.aliases ++ ")"
  let short := s!"{spec.name}{aliases} {spec.description}"
  if details then joined "\n" (s!"{short}\n  usage: {spec.usage}" :: spec.help) else short

/-- The commands of a list of names; a name without one is reported. -/
def findSpecs : List String → Behavior (List CommandSpec)
  | [] => return []
  | name :: rest => do
    match (← shell).command? name with
    | some spec => return spec :: (← findSpecs rest)
    | none =>
      perform (.report s!"help: no such command: {name}")
      findSpecs rest

/-- Describe all commands, or some in detail, or list their names. -/
def help : StageProgram := fun hasInput args => do
  if args.map trimmed == some "-l" then
    write (.list ((← shell).registry.names.map .text))
  else
    let o : Input := { name := "help", splitsInput := true, flattens := true }
    o.openText hasInput args
    let wanted ← o.rest
    let specs ←
      if wanted.isEmpty then pure (← shell).registry.specs
      else do
        let found ← findSpecs (wanted.map (·.display))
        pure ((Keyed.ofList (found.map fun spec => (spec.name, spec))).map (·.2))
    writeAll (specs.map fun spec => .text (describe spec (!wanted.isEmpty)))

/-! ## Messages -/

/-- Target and command of a message, neither of them empty. -/
def splitTarget? (text : String) : Option (String × String) := do
  let (target, command) ← cutAt? ':' text
  let target := trimmed target
  let command := trimmed command
  if target.isEmpty || command.isEmpty then none else some (target, command)

/-- The fields of a message: `key:value`, or a key alone for null. The first of several values under
one key counts. -/
def payloadOf (items : List String) : Keyed Json :=
  Keyed.ofList <| items.reverse.map fun item =>
    match cutAt? ':' item with
    | some (key, value) => (key, .text value)
    | none => (item, .null)

/-- The fields of a message as the log shows them. -/
def payloadText (payload : Keyed Json) : String :=
  let field (e : String × Json) : String :=
    let value := match e.2 with
      | .text s => "String(" ++ quotedText s ++ ")"
      | _ => "Null"
    quotedText e.1 ++ ": " ++ value
  "\x7b" ++ joined ", " (payload.map field) ++ "\x7d"

/-- Send a message to the host and write the answer; without input and arguments, ask for the list
of commands. -/
def background : StageProgram := fun hasInput args => do
  let args := if !hasInput && args.isNone then some "background:listCommands" else args
  let o : Input := { name := "background", required := 1 }
  o.openText hasInput args
  let required ← o.require
  match splitTarget? (required.headD .null).display with
  | none => .fail (.invalidArgument "missing target:command")
  | some (target, command) =>
    let payload := payloadOf ((← o.rest).map (·.display))
    note "cmd:bg" s!"target={target} command={command} payload={payloadText payload}"
    let response := (← shell).host.send target command payload
    if response.isError then .fail (.host (joined ", " response.errors))
    else write (.text response.toJson.compact)

end Pipework.Command
