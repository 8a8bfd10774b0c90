import Pipework.Command.Catalogue
import Pipework.Config
import Pipework.History
import Pipework.Host
import Pipework.Line.CommandLine
import Pipework.Log.Filter
import Pipework.Timer
import Pipework.Value

/-!
# Jobs

A `Shell` is what outlasts a line: the table of commands, the configuration, the filter of the log,
the history and the host. A `Job` is the context that all stages of a line share: the shell, the
pipes, the timers, the interrupt level, and what has been reported so far.

The job also holds the *ready list*, the tasks that have been woken and not yet run. `Job.react`
carries out the events of a pipe: it wakes tasks, runs close callbacks, and records diagnostics and
signals.
-/

namespace Pipework

/-- What outlasts a line. By default there are the commands of the catalogue, the standard settings,
an empty history and no host. -/
structure Shell where
  /-- The table of commands. -/
  registry : Registry := .builtin
  /-- The settings and aliases. -/
  config : Config := .standard
  /-- The filter of the log. -/
  filter : Filter := .standard
  /-- The recorded lines. -/
  history : History := .inMemory config.maxSize
  /-- Who answers messages. -/
  host : Host := .absent

/-- The command of a name, an alias, or an alias of the user. -/
def Shell.command? (s : Shell) (name : String) : Option CommandSpec :=
  (s.registry.lookup? name).or ((s.config.aliases.find? name).bind s.registry.lookup?)

/-- The canonical name of a command. -/
def Shell.resolve? (s : Shell) (name : String) : Option String := (s.command? name).map (·.name)

/-- An entry of the table of timers. -/
structure TimerEntry where
  /-- What the timer is for. -/
  kind : TimerKind
  /-- The pipe to close for writing when the timer is cancelled. -/
  link : Option Nat := none
  deriving Repr, DecidableEq

/-- The context of the stages of a line. -/
structure Job where
  /-- What outlasts the line. -/
  shell : Shell
  /-- How often the line has been interrupted; from two on it has been torn down. -/
  level : Nat := 0
  /-- The pipes, in the order of their creation. -/
  pipes : Array (Pipe Value) := #[]
  /-- All timers ever started, by number. -/
  timers : Array Timer := #[]
  /-- The timers in use, by number, in ascending order. -/
  running : List (Nat × TimerEntry) := []
  /-- Error lines, oldest first. -/
  errors : List String := []
  /-- Signals of writes to pipes without readers: pipe and message, oldest first. -/
  signals : List (String × String) := []
  /-- The front end is to clear its screen. -/
  clears : Bool := false
  /-- How far each pipeline has come, by number. -/
  progress : Array LineState := #[]
  /-- Tasks that have been woken, in the order in which they will run. -/
  ready : List Nat := []
  /-- The main future has been woken. -/
  mainWoken : Bool := false
  /-- Milliseconds since the start. -/
  now : Nat := 0
  /-- Presses of the interrupt key not yet noticed. -/
  presses : Nat := 0
  /-- The log, oldest record first. -/
  records : List Record := []

namespace Job

/-- The interrupt level from which on a line has been torn down. -/
def hardLevel : Nat := 2

/-! ## Reporting -/

/-- Log a message if the filter lets it through. -/
def log (level : Verbosity) (subsystem message : String) (job : Job) : Job :=
  { job with records := job.records ++ job.shell.filter.pass ⟨level, subsystem, message⟩ }

/-- Report an error line. -/
def report (message : String) (job : Job) : Job :=
  let job := job.log .info "exec" ("error: " ++ message)
  { job with errors := job.errors ++ [message] }

/-! ## Waking -/

/-- Call a waker. A task that is ready already keeps its place. -/
def wake (waker : Waker) (job : Job) : Job :=
  match waker with
  | .main => { job with mainWoken := true }
  | .task id => if job.ready.contains id then job else { job with ready := job.ready ++ [id] }
  | .nobody => job

/-- The last pipe of a pipeline has closed for writing. -/
def finishPipeline (number : Nat) (job : Job) : Job :=
  let job := job.log .debug "exec" "pipeline finished"
  { job with progress := job.progress.setIfInBounds number .finished }

/-- Carry out one event of a pipe. -/
def reactOne (event : Pipe.Event) (job : Job) : Job :=
  match event with
  | .note text => job.log .debug "pipe" text
  | .wake waker => job.wake waker
  | .call label => job.finishPipeline label
  | .signal pipe message =>
    let job := job.log .debug "pipe" ("SIGPIPE " ++ message)
    { job with signals := job.signals ++ [(pipe, message)] }

/-- Carry out the events of a pipe in order. -/
def react (events : List Pipe.Event) (job : Job) : Job :=
  events.foldl (fun job event => job.reactOne event) job

/-! ## Pipes -/

/-- Change a pipe and carry out the events. -/
def change (i : Nat) (f : Pipe Value → Pipe Value × List Pipe.Event) (job : Job) : Job :=
  match job.pipes[i]? with
  | some p =>
    let (p, events) := f p
    { job with pipes := job.pipes.setIfInBounds i p }.react events
  | none => job

/-- Change a pipe, carry out the events, and pass an answer on; `absent` if there is no pipe. -/
def query {β : Type} (i : Nat) (absent : β) (f : Pipe Value → β × Pipe Value × List Pipe.Event)
    (job : Job) : β × Job :=
  match job.pipes[i]? with
  | some p =>
    let (answer, p, events) := f p
    (answer, { job with pipes := job.pipes.setIfInBounds i p }.react events)
  | none => (absent, job)

/-- Create a pipe for a stage; the answer is its number. -/
def createPipe (label : String) (job : Job) : Nat × Job :=
  let i := job.pipes.size
  let (p, events) := Pipe.create s!"pipe<{label}.{i + 1}>" job.shell.config.capacity
  (i, { job with pipes := job.pipes.push p }.react events)

/-- Open a reader. -/
def openRead (i : Nat) (job : Job) : Job := job.change i (·.openRead)

/-- Open a writer. -/
def openWrite (i : Nat) (job : Job) : Job := job.change i (·.openWrite)

/-- Release a reader. The answer tells whether this closed the pipe for reading. -/
def closeRead (i : Nat) (job : Job) : Bool × Job := job.query i false (·.closeRead)

/-- Release a writer. The answer tells whether this closed the pipe for writing. -/
def closeWrite (i : Nat) (job : Job) : Bool × Job := job.query i false (·.closeWrite)

/-! ## Timers -/

/-- Enter a new timer into the table; the answer is its number. -/
def enterTimer (kind : TimerKind) (link : Option Nat) (job : Job) : Nat × Job :=
  let id := job.timers.size
  let job := job.log .debug "timer" s!"register {kind.name} #{id}"
  (id, { job with timers := job.timers.push {}, running := job.running ++ [(id, ⟨kind, link⟩)] })

/-- Start a timer; the answer is its number. An interval started after the line has been torn down
is cancelled from the beginning. -/
def startTimer (kind : TimerKind) (link : Option Nat) (job : Job) : Nat × Job :=
  let (id, job) := job.enterTimer kind link
  if kind = .interval && hardLevel ≤ job.level then
    (id, { job with timers := job.timers.setIfInBounds id { cancelled := true } })
  else (id, job)

/-- A timer by its number. -/
def timer (id : Nat) (job : Job) : Timer := job.timers.getD id {}

/-- Take a timer out of use. -/
def forgetTimer (id : Nat) (job : Job) : Job :=
  { job with running := job.running.filter (·.1 != id) }

/-- Cancel a timer and close the pipe linked to it. The answer tells whether it was in use. -/
def cancelTimer (id : Nat) (job : Job) : Bool × Job :=
  match job.running.find? (·.1 == id) with
  | none => (false, job)
  | some (_, entry) =>
    let job := (job.forgetTimer id).log .debug "timer" s!"cancel {entry.kind.name} #{id}"
    let (t, waker) := (job.timer id).cancel
    let job := { job with timers := job.timers.setIfInBounds id t }
    let job := match waker with
      | some w => job.wake w
      | none => job
    match entry.link with
    | some i => (true, (job.closeWrite i).2)
    | none => (true, job)

/-- Poll a wait on a timer. -/
def pollTimer (id deadline : Nat) (waker : Waker) (job : Job) : Poll Bool × Job :=
  let (answer, t) := (job.timer id).pollWait job.now deadline waker
  (answer, { job with timers := job.timers.setIfInBounds id t })

/-! ## Interrupts -/

/-- Cancel all timers and close all pipes on both sides. -/
def teardown (job : Job) : Job :=
  let ids := job.running.map (·.1)
  let job := job.log .debug "exec"
    s!"teardown: {ids.length} timer(s), {job.pipes.size} pipe(s)"
  let job := ids.foldl (fun job id => (job.cancelTimer id).2) job
  (List.range job.pipes.size).foldl (fun job i => job.change i (·.forceClose)) job

/-- The description of a job. -/
def describe (job : Job) : String :=
  s!"ExecEnv \x7b interrupted: {job.level}, timers: {job.running.length}, " ++
    s!"pipes: {job.pipes.size} \x7d"

/-- Interrupt the line. The first interrupt only raises the level, for stages to notice; any later
one tears the line down. -/
def interrupt (job : Job) : Job :=
  let level := job.level
  let job := job.log .debug "exec" s!"interrupt: level={level}"
  let job := if 1 ≤ level then job.teardown else job
  { job with level := level + 1 }

/-- Tear the line down at once. -/
def interruptHard (job : Job) : Job :=
  let level := job.level
  let job := (job.log .debug "exec" s!"hard interrupt: level={level}").teardown
  { job with level := max (level + 1) hardLevel }

end Job

end Pipework
