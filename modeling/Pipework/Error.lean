/-!
# Errors

What can go wrong in a shell line, by cause. `ShellError.message` is the only place where the
wording stands.

An error found by validation stops a line before it starts. Every other error belongs to the stage
that meets it: the stage stops, its writer closes, and the stages after it see an ordinary end of
data.
-/

namespace Pipework

/-- Causes of failure. -/
inductive ShellError where
  /-- A write to a pipe that no reader is left to read. -/
  | brokenPipe (pipe : String)
  /-- A write after the writing side was closed. -/
  | alreadyWriteClosed (pipe : String)
  /-- A write that could not wait found the buffer full. -/
  | wouldBlock (pipe : String)
  /-- No command goes by the name. -/
  | unknownCommand (name : String)
  /-- Fewer positional arguments than the command requires. -/
  | missingArgument (command : String) (expected got : Nat)
  /-- An argument a command cannot take. -/
  | invalidArgument (reason : String)
  /-- The host refused a request. -/
  | host (reason : String)
  /-- The executor would not take a stage. -/
  | spawn (reason : String)
  /-- A configuration that cannot be read or holds a value out of place. -/
  | config (reason : String)
  /-- The history could not be read or written. -/
  | history (reason : String)
  deriving Repr, DecidableEq, Inhabited

namespace ShellError

/-- The text an error is shown as. -/
def message : ShellError → String
  | .brokenPipe pipe => s!"broken pipe: '{pipe}' is read-closed"
  | .alreadyWriteClosed pipe => s!"pipe already write-closed '{pipe}'"
  | .wouldBlock pipe => s!"pipe '{pipe}' is full"
  | .unknownCommand name => s!"Unknown command: {name}"
  | .missingArgument command expected got =>
    s!"{command}: expected {expected} argument(s), got {got}"
  | .invalidArgument reason => s!"invalid argument: {reason}"
  | .host reason => s!"host error: {reason}"
  | .spawn reason => s!"failed to start stage: {reason}"
  | .config reason => s!"config error: {reason}"
  | .history reason => s!"history error: {reason}"

/-- The way a writer learns that its readers have gone, which is no failure of the line. -/
def isBrokenPipe : ShellError → Bool
  | .brokenPipe _ => true
  | _ => false

end ShellError

end Pipework
