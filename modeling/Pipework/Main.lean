import Pipework.Front
import Pipework.Front.Clock
import Std.Time.DateTime.Timestamp

/-!
# The program

Reads the files that options name, runs the front end line by line, prints what it tells to print,
and keeps the file of the history up to date.
-/

namespace Pipework.Main

/-- The current time: seconds since the beginning of 1970, and nanoseconds. -/
def clock : IO (Nat × Nat) := do
  let now ← Std.Time.Timestamp.now
  return (now.val.second.val.toNat, now.val.nano.val.toNat)

/-- What a file holds, if it can be read as a text. -/
def readText? (path : String) : IO (Option String) := do
  try
    return some (← IO.FS.readFile path)
  catch _ => return none

/-- The file of a history. There is none if it exists but cannot be read as a text. -/
def historyFile? (path : String) : IO (Option HistoryFile) := do
  match ← readText? path with
  | some text => return some { content := some text }
  | none =>
    try
      let _ ← IO.FS.Handle.mk path .read
      return none
    catch
      | .noFileOrDirectory .. => return some { content := none }
      | _ => return none

/-- Write a file. The answer tells whether that succeeded. -/
def writeText (path text : String) : IO Bool := do
  try
    IO.FS.writeFile path text
    return true
  catch _ => return false

/-- What the file of a session's history is to hold. -/
def historyText? (s : Session) : Option String := s.shell.history.file.bind (·.content)

/-- Let as much time pass as has passed in a session. -/
def elapse (before after : Session) : IO Unit := IO.sleep (after.now - before.now).toUInt32

/-- A session whose history can be written to its file, or cannot. -/
def withWritable (writable : Bool) (s : Session) : Session :=
  let history := s.shell.history
  let file := history.file.map fun file => { file with writable := writable }
  { s with shell := { s.shell with history := { history with file := file } } }

/-- Take a step in its time, and write the file of the history if the step has changed it. A step
whose history cannot be written is taken again with a file that refuses to be written. -/
def keep (path : Option String) (take : Session → Front.Step) (s : Session) : IO Front.Step := do
  let result := take (withWritable true s)
  elapse s result.session
  match path, historyText? result.session with
  | some path, some text =>
    if historyText? s = some text then return result
    else if ← writeText path text then return result
    else return take (withWritable false s)
  | _, _ => return result

/-- Print records of the log. -/
def printLog (records : List Record) : IO Unit := do
  let (seconds, nanoseconds) ← clock
  for record in records do
    let level := record.level.name.toUpper
    let level := if level.length < 5 then " " ++ level else level
    let origin :=
      if record.subsystem.isEmpty then "" else " subsystem=" ++ quotedText record.subsystem
    IO.eprint s!"{Front.Clock.logStamp seconds nanoseconds} {level} {record.message}{origin}\n"

/-- Print what a step tells to print, and the log before it. -/
def print (step : Front.Step) : IO Unit := do
  printLog step.session.records
  let out ← IO.getStdout
  out.putStr step.out
  out.flush
  IO.eprint step.errors

/-- Read a line of input with its end; empty at the end of the input. -/
partial def readLine (input : IO.FS.Stream) (line : ByteArray) : IO ByteArray := do
  let bytes ← input.read 1
  if bytes.isEmpty then return line
  let line := line ++ bytes
  if bytes.toList == [10] then return line
  readLine input line

/-- Run the lines of the input. -/
partial def loop (path : Option String) (input : IO.FS.Stream) (s : Session) : IO Nat := do
  let line ← readLine input .empty
  if line.isEmpty then return 0
  let (seconds, nanoseconds) ← clock
  let step ← keep path (Front.next (Front.Clock.stamp seconds nanoseconds) line) s
  print step
  match step.status with
  | some status => return status
  | none => loop path input { step.session with records := [] }

/-- Run what options ask for. The answer is the status, or why nothing could be run. -/
def run (o : Options) : IO (Except ShellError Nat) := do
  let text ← match o.config with
    | some path => readText? path
    | none => pure none
  match o.config? text with
  | .error e => return .error e
  | .ok c =>
    let file ← match c.path with
      | some path => historyFile? path
      | none => pure (some { content := none })
    match file with
    | none => return .error (.history (c.path.getD "" ++ ": the file cannot be read"))
    | some file =>
      match Front.start c file with
      | .error e => return .error e
      | .ok s =>
        printLog s.records
        let s := { s with records := [] }
        match o.command with
        | some line =>
          let (seconds, nanoseconds) ← clock
          let step ← keep c.path (Front.step (Front.Clock.stamp seconds nanoseconds) true line) s
          print step
          return .ok (step.status.getD 0)
        | none =>
          let status ← loop c.path (← IO.getStdin) s
          return .ok status

end Pipework.Main

/-- Run the program. -/
def main (arguments : List String) : IO UInt32 := do
  match Pipework.Invocation.ofArguments arguments with
  | .help =>
    IO.print Pipework.Options.help
    return 0
  | .misuse why =>
    IO.eprint ("error: " ++ why.message ++ "\n\n" ++ Pipework.Options.usage ++
      "\n\nFor more information, try '--help'.\n")
    return 2
  | .run o =>
    match ← Pipework.Main.run o with
    | .ok status => return status.toUInt32
    | .error e =>
      IO.eprint ("error: " ++ e.message ++ "\n")
      return 1
