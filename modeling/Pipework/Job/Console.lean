import Pipework.Job.Pipeline

/-!
# Consoles

A `Console` is a machine with what an operator at it holds: one pipeline and the reader of its last
pipe, and, under names, pipes with a writer and a reader, timers, sleeps and intervals.

A name that is entered again stands for the new thing; the old one is released. Operations on a name
that stands for nothing answer `none`.
-/

namespace Pipework

/-- A pipe of which the operator holds a writer and a reader. -/
structure HeldPipe where
  /-- The pipe. -/
  pipe : Nat
  /-- The reader has not been closed. -/
  reads : Bool := true

/-- A wait under way. -/
structure Sleep where
  /-- What is left of it. -/
  rest : Behavior Bool
  /-- Its timer. -/
  station : Station

/-- An interval. -/
structure Interval where
  /-- Its timer. -/
  timer : Nat
  /-- Milliseconds between ticks. -/
  ms : Nat

/-- A machine and what its operator holds. -/
structure Console where
  /-- The machine. -/
  machine : Machine
  /-- The pool that pipelines run on. -/
  pool : Nat
  /-- The pipeline. -/
  pipeline : Option Pipeline := none
  /-- The last pipe of the pipeline, on which a reader is open. -/
  reader : Option Nat := none
  /-- Pipes by name. -/
  pipes : Keyed HeldPipe := []
  /-- Timers by name. -/
  timers : Keyed Nat := []
  /-- Sleeps by name. -/
  sleeps : Keyed Sleep := []
  /-- Intervals by name. -/
  intervals : Keyed Interval := []

namespace Console

/-- A console of a machine. -/
def create (m : Machine) : Console :=
  let (pool, m) := m.openPool
  { machine := m, pool := pool }

/-- Change the job. -/
def onJob (f : Job → Job) (c : Console) : Console := { c with machine := c.machine.onJob f }

/-- Change the machine and pass its answer on. -/
def withMachine {β : Type} (f : Machine → β × Machine) (c : Console) : β × Console :=
  let (answer, m) := f c.machine
  (answer, { c with machine := m })

/-- Change the job and pass its answer on. -/
def withJob {β : Type} (f : Job → β × Job) (c : Console) : β × Console :=
  let (answer, job) := f c.machine.job
  (answer, { c with machine := { c.machine with job := job } })

/-- Define an alias. -/
def setAlias (name target : String) (c : Console) : Console :=
  c.onJob fun job =>
    let config := job.shell.config
    let config := { config with aliases := Keyed.insert name target config.aliases }
    { job with shell := { job.shell with config := config } }

/-- Run a line on a pool of its own: its output and all error lines so far. -/
def runLine (fuel : Nat) (line : String) (c : Console) :
    (List Value × List String) × Console :=
  let (output, errors, m) := c.machine.runLine fuel line
  ((output, errors), { c with machine := m })

/-! ## The pipeline -/

/-- Take a line as the pipeline. -/
def enter (line : String) (c : Console) : Console :=
  let (p, m) := Pipeline.create line c.machine
  { c with machine := m, pipeline := some p }

/-- Validate the pipeline. -/
def validate (c : Console) : Option (Except (List ShellError) Unit) × Console :=
  match c.pipeline with
  | none => (none, c)
  | some p =>
    let (answer, p, m) := p.validate c.machine
    (some answer, { c with machine := m, pipeline := some p })

/-- Release the reader. The answer tells whether there was one. -/
def dropReader (c : Console) : Bool × Console :=
  match c.reader with
  | none => (false, c)
  | some i => (true, { c with reader := none }.onJob fun job => (job.closeRead i).2)

/-- Start the pipeline, on a pool that is gone unless `alive`. -/
def execute (alive : Bool) (c : Console) : Option (Except ShellError Unit) × Console :=
  match c.pipeline with
  | none => (none, c)
  | some p =>
    let (answer, p, m) := p.execute (if alive then some c.pool else none) c.machine
    let c := { c with machine := m, pipeline := some p }
    match answer with
    | .ok last => (some (.ok ()), { c.dropReader.2 with reader := some last })
    | .error e => (some (.error e), c)

/-- Take turns until no task is ready. -/
def runStalled (fuel : Nat) (c : Console) : Console :=
  { c with machine := c.machine.runStalled fuel c.pool }

/-- Read the last pipe: up to a number of items, or to its end if there is no number. -/
def read (fuel : Nat) (count : Option Nat) (c : Console) : Option (List Value) × Console :=
  match c.reader with
  | none => (none, c)
  | some i =>
    let (items, m) := c.machine.runUntil fuel c.pool { pipe := i, left := count }
    (some items, { c with machine := m })

/-- Read the last pipe to its end and release the reader. -/
def drain (fuel : Nat) (c : Console) : Option (List Value) × Console :=
  let (items, c) := c.read fuel none
  (items, c.dropReader.2)

/-! ## Pipes -/

/-- Release what is held of a pipe. -/
def releasePipe (h : HeldPipe) (job : Job) : Job :=
  let (_, job) := job.closeWrite h.pipe
  if h.reads then (job.closeRead h.pipe).2 else job

/-- Create a pipe and hold a writer and a reader; the answer is the name of the pipe. -/
def holdPipe (id label : String) (c : Console) : String × Console :=
  let (i, job) := c.machine.job.createPipe label
  let job := (job.openWrite i).openRead i
  let name := (job.pipes[i]?).elim "" (·.name)
  let job := match Keyed.find? id c.pipes with
    | some old => releasePipe old job
    | none => job
  (name, { c with
    machine := { c.machine with job := job },
    pipes := Keyed.insert id { pipe := i } c.pipes })

/-- Write to a pipe without waiting. -/
def tryWrite (id : String) (v : Value) (c : Console) : Option (Except ShellError Unit) × Console :=
  match Keyed.find? id c.pipes with
  | none => (none, c)
  | some h =>
    let (answer, c) := c.withJob fun job => job.query h.pipe (.ok ()) (·.tryWrite v)
    (some answer, c)

/-- Close the reader of a pipe. The answer tells whether this closed the pipe for reading. -/
def closeReader (id : String) (c : Console) : Option Bool × Console :=
  match Keyed.find? id c.pipes with
  | none => (none, c)
  | some h =>
    if h.reads then
      let (answer, c) := c.withJob fun job => job.closeRead h.pipe
      (some answer, { c with pipes := Keyed.insert id { h with reads := false } c.pipes })
    else (some false, c)

/-- The pipe of an optional name; no answer if the name stands for nothing. -/
def link? (id : Option String) (c : Console) : Option (Option Nat) :=
  match id with
  | none => some none
  | some id => (Keyed.find? id c.pipes).map fun h => some h.pipe

/-! ## Timers -/

/-- Enter a timer; the answer is its number. -/
def enterTimer (id : String) (kind : TimerKind) (link : Option String) (c : Console) :
    Option Nat × Console :=
  match c.link? link with
  | none => (none, c)
  | some link =>
    let (timer, c) := c.withJob (·.enterTimer kind link)
    (some timer, { c with timers := Keyed.insert id timer c.timers })

/-- A timer has been cancelled. -/
def isCancelled? (id : String) (c : Console) : Option Bool :=
  (Keyed.find? id c.timers).map fun timer => (c.machine.job.timer timer).cancelled

/-- Cancel a timer by its number. The answer tells whether it was in use. -/
def cancelTimer (timer : Nat) (c : Console) : Bool × Console := c.withJob (·.cancelTimer timer)

/-! ## Sleeps -/

/-- Give up a sleep. The answer tells whether there was one. -/
def dropSleep (id : String) (c : Console) : Bool × Console :=
  match Keyed.find? id c.sleeps with
  | none => (false, c)
  | some s =>
    (true, { c with sleeps := Keyed.erase id c.sleeps }.onJob fun job =>
      (s.station.forgetTimers job).2)

/-- Prepare a sleep, which begins when it is first polled. -/
def prepareSleep (id : String) (ms : Nat) (link : Option String) (c : Console) :
    Option Unit × Console :=
  match c.link? link with
  | none => (none, c)
  | some link =>
    let s : Sleep := { rest := .sleep ms, station := { output := link } }
    let c := (c.dropSleep id).2
    (some (), { c with sleeps := Keyed.insert id s c.sleeps })

/-- Poll a sleep. -/
def pollSleep (fuel : Nat) (id : String) (c : Console) : Option (Poll Bool) × Console :=
  match Keyed.find? id c.sleeps with
  | none => (none, c)
  | some s =>
    match s.station.run fuel .nobody c.machine.job s.rest with
    | (.done elapsed, _, job) =>
      (some (.ready elapsed), { c with sleeps := Keyed.erase id c.sleeps }.onJob fun _ => job)
    | (.waiting rest, station, job) =>
      (some .pending,
        { c with sleeps := Keyed.insert id ⟨rest, station⟩ c.sleeps }.onJob fun _ => job)
    | (_, _, job) => (none, c.onJob fun _ => job)

/-- Sleep to the end. -/
def finishSleep (fuel : Nat) (id : String) (c : Console) : Option Bool × Console :=
  match Keyed.find? id c.sleeps with
  | none => (none, c)
  | some s =>
    let (elapsed, _, m) := c.machine.finish fuel s.station s.rest
    (elapsed, { c with machine := m, sleeps := Keyed.erase id c.sleeps })

/-! ## Intervals -/

/-- Give up an interval. The answer tells whether there was one. -/
def dropInterval (id : String) (c : Console) : Bool × Console :=
  match Keyed.find? id c.intervals with
  | none => (false, c)
  | some i =>
    (true, { c with intervals := Keyed.erase id c.intervals }.onJob (·.forgetTimer i.timer))

/-- Start an interval; the answer is the number of its timer. -/
def startInterval (id : String) (ms : Nat) (link : Option String) (c : Console) :
    Option Nat × Console :=
  match c.link? link with
  | none => (none, c)
  | some link =>
    let (timer, c) := c.withJob (·.startTimer .interval link)
    let c := (c.dropInterval id).2
    (some timer, { c with intervals := Keyed.insert id ⟨timer, ms⟩ c.intervals })

/-- Poll a tick that begins now, and give it up. -/
def pollTick (fuel : Nat) (id : String) (c : Console) : Option (Poll Bool) × Console :=
  match Keyed.find? id c.intervals with
  | none => (none, c)
  | some i =>
    match Station.tryOut fuel {} c.machine.job (.perform (.awaitTimer i.timer i.ms)) with
    | (.done elapsed, _, job) => (some (.ready elapsed), c.onJob fun _ => job)
    | (_, _, job) => (some .pending, c.onJob fun _ => job)

/-- Wait for a tick that begins now. -/
def finishTick (fuel : Nat) (id : String) (c : Console) : Option Bool × Console :=
  match Keyed.find? id c.intervals with
  | none => (none, c)
  | some i =>
    let (elapsed, _, m) := c.machine.finish fuel {} (.perform (.awaitTimer i.timer i.ms))
    (elapsed, { c with machine := m })

end Console

end Pipework
