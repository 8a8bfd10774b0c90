import Pipework.Job.Pipeline

/-!
# Sessions

A `Session` runs one line after another. Each line gets a job of its own; the shell, with what lines
change in it, goes from line to line, and so do the watches on the interrupt key.

* `Session.submit` runs a line to its end and tells the `Outcome`: the last lines of its output, the
  error lines, and whether it was interrupted.
* Every line is recorded with its output, unless the command typed first, or the one it stands for,
  is on the list of those to skip. A line with an unknown command is recorded with its errors.
* A watch looks at the count of key presses every so often and interrupts the running line once for
  each. Between lines nothing looks.
-/

namespace Pipework

/-- What a line has led to. -/
structure Outcome where
  /-- The lines to show. -/
  lines : List String := []
  /-- The error lines. -/
  errors : List String := []
  /-- The line was interrupted. -/
  interrupted : Bool := false
  /-- The screen is to be cleared before the lines are shown. -/
  clears : Bool := false
  deriving Repr, DecidableEq

/-- The line shown at the end of the output of an interrupted line. -/
def interruptMark : String := "^C"

/-- A watch on the interrupt key. -/
structure Watch where
  /-- Milliseconds between two looks. -/
  period : Nat
  /-- When the next look is due; none before the first line runs. -/
  deadline : Option Nat := none
  deriving Repr, DecidableEq

namespace Watch

/-- Interrupt the line so many times. -/
def interrupt : Nat → Behavior Unit
  | 0 => return
  | n + 1 => do
    .perform (.interrupt false)
    interrupt n

/-- What a watch does. -/
def behavior (w : Watch) : Behavior Unit :=
  .forever () fun _ => do
    .perform (.pause w.period)
    let count ← .perform .takePresses
    if count ≠ 0 then
      .note "session" s!"{count} interrupt key press(es)"
      interrupt count
    return .inl ()

/-- Put a watch into a pool. One that has begun waits on. -/
def join (pool : Nat) (w : Watch) (m : Machine) : Machine :=
  let task : Task :=
    { pool := pool, name := "watch", behavior := w.behavior,
      station := { deadline := w.deadline } }
  if w.deadline.isSome then (m.park task).2 else (m.start task).2

end Watch

/-- A series of lines. -/
structure Session where
  /-- What goes from line to line. -/
  shell : Shell
  /-- The watches on the interrupt key. -/
  watches : List Watch := []
  /-- Presses of the interrupt key not yet noticed. -/
  presses : Nat := 0
  /-- Milliseconds since the start. -/
  now : Nat := 0
  /-- The log, oldest record first. -/
  records : List Record := []

namespace Session

/-- Begin a session. If the configuration names a file for the history, `file` is that file. -/
def start (registry : Registry) (host : Host) (c : Config) (file : HistoryFile) :
    Except ShellError Session := do
  let (filter, records) := Filter.start c.filter
  let history ← match c.path with
    | some _ => History.openFile c.maxSize file
    | none => .ok (History.inMemory c.maxSize)
  return { shell := ⟨registry, c, filter, history, host⟩, records := records }

/-- Watch the interrupt key from the next line on. -/
def watch (period : Nat) (s : Session) : Session :=
  { s with watches := s.watches ++ [{ period := period }] }

/-- Log a message if the filter lets it through. -/
def log (level : Verbosity) (message : String) (s : Session) : Session :=
  { s with records := s.records ++ s.shell.filter.pass ⟨level, "session", message⟩ }

/-! ## Running a line -/

/-- The machine for the next line, with the watches at work, and the pool of its tasks. -/
def machine (programs : Programs) (s : Session) : Nat × Machine :=
  let job : Job :=
    { shell := s.shell, now := s.now, presses := s.presses, records := s.records }
  let (pool, m) := ({ job := job, programs := programs } : Machine).openPool
  (pool, s.watches.foldl (fun m w => w.join pool m) m)

/-- The session after a line: the watches are the first tasks of its machine. -/
def after (m : Machine) (s : Session) : Session :=
  { s with
    shell := m.job.shell,
    now := m.job.now,
    presses := m.job.presses,
    records := m.job.records,
    watches := s.watches.zipIdx.map fun (w, i) =>
      { w with deadline := (m.task? i).bind (·.station.deadline) } }

/-- The line is not to be recorded: `typed` is its first word, `head` its first command. -/
def skips (c : Config) (typed : String) (head : Option String) : Bool :=
  c.skip.any fun name => name == typed || some name == head

/-- Record a line. -/
def record (time line : String) (head : Option String) (output : List String) (s : Session) :
    Session :=
  if skips s.shell.config ((wordsOf line).headD "") head then s
  else
    let (outcome, history) := s.shell.history.push ⟨line, output, time⟩
    let s := { s with shell := { s.shell with history := history } }
    match outcome with
    | .ok () => s
    | .error e => s.log .warn ("history not recorded: " ++ e.message)

/-- Take an item into a window of at most `limit` lines; the oldest line makes room for it. -/
def keepLine (limit : Nat) (lines : List String) (v : Value) : List String :=
  let lines := lines ++ [v.display]
  if limit < lines.length then lines.drop 1 else lines

/-- Run a line that has been validated to its end. The answer is the end of its output, as long as
the window was when the line began. -/
def run (fuel pool : Nat) (p : Pipeline) (m : Machine) : List String × Machine :=
  let limit := m.job.shell.config.maxBuffer
  match m.readPipeline fuel pool p with
  | (.ok items, m) => (items.foldl (keepLine limit) [], m.settle fuel pool)
  | (.error e, m) =>
    let m := m.onJob (·.log .warn "session" ("pipeline not started: " ++ e.message))
    ([], m.settle fuel pool)

/-- Run a line. `time` is the time it is recorded with. There is no outcome if the line has stopped
the machine for good. -/
def submit (programs : Programs) (fuel : Nat) (time line : String) (s : Session) :
    Except Halt Outcome × Session :=
  let line := trimmed line
  if line.isEmpty then (.ok {}, s)
  else
    let (pool, m) := (s.log .info ("submit: " ++ line)).machine programs
    let (p, m) := Pipeline.create line m
    match p.validate m with
    | (.error errors, _, m) =>
      let errors := errors.map (·.message)
      (.ok { errors := errors }, (s.after m).record time line none (errors.map ("Error: " ++ ·)))
    | (.ok (), p, m) =>
      let (lines, m) := run fuel pool p m
      match m.halt with
      | some halt => (.error halt, s.after m)
      | none =>
        let interrupted := 0 < m.job.level
        (.ok { lines := if interrupted then lines ++ [interruptMark] else lines,
               errors := m.job.errors, interrupted := interrupted, clears := m.job.clears },
          (s.after m).record time line p.line.head? lines)

end Session

end Pipework
