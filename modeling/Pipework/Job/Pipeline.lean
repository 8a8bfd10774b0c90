import Pipework.Job.Machine

/-!
# Pipelines

A `Pipeline` is a command line that runs on a machine. Stage `i` writes to the pipe that stage
`i + 1` reads; the last pipe is read from outside. The pipeline is finished once its last pipe has
closed for writing.

`runLine` runs a line on a pool of its own: it reads the last pipe to its end, lets the stages
notice that, tears down what still waits, and lets the stages notice that too.
-/

namespace Pipework

/-- A command line that runs on a machine. -/
structure Pipeline where
  /-- The line. -/
  line : CommandLine
  /-- The number under which the job keeps how far it has come. -/
  number : Nat

namespace Pipeline

/-- A pipeline of a line. -/
def create (line : String) (m : Machine) : Pipeline × Machine :=
  ({ line := { line := line }, number := m.job.progress.size },
    m.onJob fun job => { job with progress := job.progress.push .unparsed })

/-- How far the pipeline has come. -/
def state (p : Pipeline) (job : Job) : LineState := job.progress.getD p.number .unparsed

/-- Record how far the pipeline has come. -/
def setState (p : Pipeline) (s : LineState) (job : Job) : Job :=
  { job with progress := job.progress.setIfInBounds p.number s }

/-- Resolve the commands. The answer is what is wrong with the line, if anything. -/
def validate (p : Pipeline) (m : Machine) : Except (List ShellError) Unit × Pipeline × Machine :=
  let (valid, line) := p.line.validate m.job.shell.resolve?
  let p := { p with line := line }
  let m := m.onJob (p.setState line.state)
  (if valid then .ok () else .error line.errors, p, m)

/-- An argument text as the log shows it. -/
def argsText : Option String → String
  | some s => "Some(" ++ quotedText s ++ ")"
  | none => "None"

/-- What a stage does: the program of its command, or, without one, passing its input on. -/
def stageBehavior (programs : Programs) (spec : CommandSpec) (hasInput : Bool)
    (args : Option String) : Behavior Unit := do
  .note "exec" s!"start {spec.name} args={argsText args}"
  match programs spec.name with
  | some program => program hasInput args
  | none => .forAll .read .write

/-- Start the stages from the one at hand on. `previous` is the pipe of the stage before, on which a
reader is open. With a pool that takes no tasks the first stage fails to start and the job is torn
down. The answer is the pipe of the last stage. -/
def startStages (pool : Option Nat) :
    List Stage → Option Nat → Machine → Except ShellError (Option Nat) × Machine
  | [], previous, m => (.ok previous, m)
  | stage :: stages, previous, m =>
    match m.job.shell.command? stage.command with
    | none =>
      (.error (.unknownCommand stage.command), m.onJob fun job =>
        match previous with
        | some i => (job.closeRead i).2
        | none => job)
    | some spec =>
      let (pipe, job) := m.job.createPipe spec.name
      let m := { m with job := job.openWrite pipe }
      let station : Station := { input := previous, output := some pipe }
      match pool with
      | none =>
        let e := ShellError.spawn "Executor is shutdown"
        (.error e, m.onJob fun job => ((station.release job).report e.message).interruptHard)
      | some pool =>
        let (_, m) := m.start
          { pool := pool, name := spec.name, station := station,
            behavior := stageBehavior m.programs spec previous.isSome stage.args }
        startStages (some pool) stages (some pipe) (m.onJob (·.openRead pipe))

/-- Start every stage on a pool, after validation if that is still to come. The answer is the last
pipe, on which a reader has been opened. -/
def execute (pool : Option Nat) (p : Pipeline) (m : Machine) :
    Except ShellError Nat × Pipeline × Machine :=
  let (valid, p, m) :=
    if p.state m.job = .validated then (Except.ok (), p, m)
    else p.validate m
  match valid with
  | .error errors => (.error (errors.headD (.invalidArgument "")), p, m)
  | .ok () =>
    let m := m.onJob fun job =>
      p.setState .running <|
        job.log .debug "exec" s!"executing {p.line.stages.length} stage(s): {p.line.line}"
    match startStages pool p.line.stages none m with
    | (.error e, m) => (.error e, p, m)
    | (.ok none, m) =>
      (.error (.invalidArgument "empty pipeline"), p, m.onJob (p.setState .finished))
    | (.ok (some last), m) =>
      (.ok last, p, m.onJob (·.change last (·.addWriteCallback p.number)))

end Pipeline

namespace Machine

/-- Start a pipeline on a pool and read its last pipe to the end. The answer is what was read, or
why the pipeline did not start. -/
def readPipeline (fuel pool : Nat) (p : Pipeline) (m : Machine) :
    Except ShellError (List Value) × Machine :=
  match p.execute (some pool) m with
  | (.error e, _, m) => (.error e, m)
  | (.ok last, _, m) =>
    let (items, m) := m.runUntil fuel pool { pipe := last }
    (.ok items, { m with job := (m.job.closeRead last).2 })

/-- Let a pool come to rest, unless the machine has stopped: its tasks notice the closed pipes, then
whatever still waits is torn down, and the tasks notice that. -/
def settle (fuel pool : Nat) (m : Machine) : Machine :=
  if m.halt.isSome then m
  else
    let m := m.runStalled fuel pool
    if m.halt.isSome then m
    else (m.onJob (·.teardown)).runStalled fuel pool

/-- Take the error lines reported so far. -/
def takeErrors (m : Machine) : List String × Machine :=
  (m.job.errors, m.onJob fun job => { job with errors := [] })

/-- Run a line to its end on a pool of its own: its output and the error lines. -/
def runLine (fuel : Nat) (line : String) (m : Machine) : List Value × List String × Machine :=
  let (p, m) := Pipeline.create line m
  match p.validate m with
  | (.error errors, _, m) => ([], errors.map (·.message), m)
  | (.ok (), p, m) =>
    let (pool, m) := m.openPool
    let (output, m) := m.readPipeline fuel pool p
    let (errors, m) := (m.settle fuel pool).takeErrors
    (output.toOption.getD [], errors, m.closePool pool)

end Machine

end Pipework
