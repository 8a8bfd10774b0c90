import Pipework.Command.Programs
import Pipework.Front.Options
import Pipework.Session

/-!
# The front end

The front end runs one line, or every line of its input, in a session with a small local host, and
tells what to print and with which status to exit.

* A run of one line exits with 0 if nothing went wrong, with 1 after errors, and with 130 if the
  line was interrupted.
* A run of the input ends with status 0 at its end, at the line `exit`, or at a line that is no
  text.
* A line that ends the program exits with status 101.
-/

namespace Pipework

namespace Front

/-- Milliseconds between two looks at the interrupt key. -/
def watchPeriod : Nat := 20

/-- How many steps a line may take. -/
def fuel : Nat := Nat.pow 10 15

/-- The host of the front end. `now` is the time it tells. -/
def host (now : String) : Host :=
  .local
    [⟨"background", "echo", .ok⟩,
      ⟨"background", "ping", fun _ => .ok [("pong", .bool true)]⟩,
      ⟨"background", "time", fun _ => .ok [("now", .text now)]⟩]

/-- Begin a session. If the configuration names a file for the history, `file` is that file. -/
def start (c : Config) (file : HistoryFile) : Except ShellError Session :=
  (Session.start .builtin (host "") c file).map (·.watch watchPeriod)

/-! ## What is printed -/

/-- The codes that clear a screen and go to its corner. -/
def clearCodes : String := "\x1b[2J\x1b[H"

/-- What an outcome prints. -/
def printed (o : Outcome) : String :=
  (if o.clears then clearCodes else "") ++ String.join (o.lines.map (· ++ "\n"))

/-- The errors that an outcome prints. -/
def printedErrors (o : Outcome) : String := String.join (o.errors.map fun e => s!"error: {e}\n")

/-- The status that a single line exits with. -/
def status (o : Outcome) : Nat :=
  if o.interrupted then 130 else if o.errors.isEmpty then 0 else 1

/-- The status of a program that a line has ended. -/
def crashStatus : Nat := 101

/-! ## Runs -/

/-- A part of a run. -/
structure Step where
  /-- What is printed. -/
  out : String := ""
  /-- The errors that are printed. -/
  errors : String := ""
  /-- The status of the run, if it is over. -/
  status : Option Nat := none
  /-- The session after it. -/
  session : Session

/-- Run a line. The run is over after it if it is the only one. -/
def step (now : String) (only : Bool) (line : String) (s : Session) : Step :=
  let s := { s with shell := { s.shell with host := host now } }
  match s.submit Command.program? fuel now line with
  | (.ok o, s) =>
    { out := printed o, errors := printedErrors o,
      status := if only then some (status o) else none, session := s }
  | (.error _, s) => { status := some crashStatus, session := s }

/-- The line that a line of input asks for; none if the input ends with it. -/
def line? (input : ByteArray) : Option String :=
  (String.fromUTF8? input).filter (trimmed · != "exit")

/-- Run a line of input. -/
def next (now : String) (input : ByteArray) (s : Session) : Step :=
  match line? input with
  | some line => step now false line { s with presses := 0 }
  | none => { status := some 0, session := s }

/-- Run lines of input, and end after the last. -/
def all (now : String) : List ByteArray → Session → Step
  | [], s => { status := some 0, session := s }
  | input :: rest, s =>
    let first := next now input s
    if first.status.isSome then first
    else
      let others := all now rest first.session
      { others with out := first.out ++ others.out, errors := first.errors ++ others.errors }

/-- The lines of an input; an end of line at its very end begins no further line. -/
def inputLines (input : ByteArray) : List ByteArray :=
  let rec pieces (line : ByteArray) : List UInt8 → List ByteArray
    | [] => if line.isEmpty then [] else [line]
    | b :: rest => if b = 10 then line :: pieces .empty rest else pieces (line.push b) rest
  pieces .empty input.toList

/-- Run what options ask for. -/
def run (now : String) (o : Options) (input : ByteArray) (s : Session) : Step :=
  match o.command with
  | some line => step now true line s
  | none => all now (inputLines input) s

end Front

end Pipework
