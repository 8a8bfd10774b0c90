import Pipework.Error
import Pipework.Line.Stage

/-!
# Command lines

A `CommandLine` is a submitted line on its way from text to validated stages. Parsing happens once.
Validation replaces every command that resolves by its canonical name and collects one error for
each that does not; once a line has been validated, validating it again changes nothing.
-/

namespace Pipework

/-- How far a line has come. -/
inductive LineState where
  /-- Only the text is known. -/
  | unparsed
  /-- The stages are known. -/
  | parsed
  /-- Every command has resolved. -/
  | validated
  /-- The stages have been started. -/
  | running
  /-- The last stage has closed its output. -/
  | finished
  deriving Repr, DecidableEq, Inhabited

/-- A submitted line. -/
structure CommandLine where
  /-- The text as given. -/
  line : String
  /-- The stages, empty before parsing. -/
  stages : List Stage := []
  /-- What the last validation found wrong. -/
  errors : List ShellError := []
  /-- How far the line has come. -/
  state : LineState := .unparsed
  deriving Repr, DecidableEq

namespace CommandLine

/-- Cut the line into stages, unless that has been done. -/
def parse (c : CommandLine) : CommandLine :=
  if c.state = .unparsed then { c with stages := Stage.parseLine c.line, state := .parsed } else c

/-- A stage under the canonical name of its command, if it resolves. -/
def resolveStage (resolve : String → Option String) (stage : Stage) : Stage :=
  match resolve stage.command with
  | some name => { stage with command := name }
  | none => stage

/-- The error of a stage whose command does not resolve. -/
def stageError? (resolve : String → Option String) (stage : Stage) : Option ShellError :=
  match resolve stage.command with
  | some _ => none
  | none => some (.unknownCommand stage.command)

/-- Resolve every command. The Boolean tells whether the line may run. -/
def validate (resolve : String → Option String) (c : CommandLine) : Bool × CommandLine :=
  let c := c.parse
  if c.state ≠ .parsed then (c.errors.isEmpty, c)
  else
    let errors := c.stages.filterMap (stageError? resolve)
    let stages := c.stages.map (resolveStage resolve)
    let state := if errors.isEmpty then LineState.validated else .parsed
    (errors.isEmpty, { c with stages := stages, errors := errors, state := state })

/-- The first command, as typed or resolved. -/
def head? (c : CommandLine) : Option String := c.stages.head?.map (·.command)

end CommandLine

end Pipework
