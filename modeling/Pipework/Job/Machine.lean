import Pipework.Job.Station
import Pipework.Text.Quoted

/-!
# The machine that runs stages

A `Machine` is a job with the tasks that work on it. Tasks belong to pools; one pool runs at a time.
The order in which tasks run is fixed:

* a task that is woken goes to the end of the ready list, unless it is there already, and leaves the
  list just before it is polled; a polled task runs until it has to wait;
* a *turn* polls ready tasks of its pool. After a task has ended it begins anew; it is over when no
  task is ready, or after as many polls as the pool had tasks when the turn began, or when two of
  the polled tasks have woken themselves;
* `runUntil` polls the main future, and then, until that is done, takes a turn and polls it again.
  When nobody has anything to do, time moves on to the next deadline of a waiting task;
* `runStalled` takes turns until no task of the pool is ready.

The main future reads a pipe to its end, or up to a number of items.
-/

namespace Pipework

/-- A stage at work. -/
structure Task where
  /-- The pool it belongs to. -/
  pool : Nat
  /-- The command, as the log names it. -/
  name : String
  /-- What it still does. -/
  behavior : Behavior Unit
  /-- Where it does it. -/
  station : Station

/-- Why a machine has stopped for good. -/
inductive Halt where
  /-- A stage has ended the program. -/
  | crashed
  /-- Nobody can go on, and no time will change that. -/
  | deadlock
  /-- The steps allowed did not suffice. -/
  | exhausted
  deriving Repr, DecidableEq

/-- Programs of commands by canonical name. -/
abbrev Programs : Type 1 := String → Option StageProgram

/-- A job and the tasks that work on it. -/
structure Machine where
  /-- The job. -/
  job : Job
  /-- The programs of the commands. -/
  programs : Programs
  /-- The tasks by number, in the order in which they were started. -/
  tasks : List (Nat × Task) := []
  /-- Tasks started and not yet put on the ready list. -/
  incoming : List Nat := []
  /-- The number of the next task. -/
  nextTask : Nat := 0
  /-- The number of the next pool. -/
  nextPool : Nat := 0
  /-- Why the machine has stopped for good, if it has. -/
  halt : Option Halt := none

namespace Machine

/-- Change the job. -/
def onJob (f : Job → Job) (m : Machine) : Machine := { m with job := f m.job }

/-- A task by its number. -/
def task? (m : Machine) (id : Nat) : Option Task := (m.tasks.find? (·.1 == id)).map (·.2)

/-- Put a task back after a poll. -/
def setTask (id : Nat) (t : Task) (m : Machine) : Machine :=
  { m with tasks := m.tasks.map fun e => if e.1 == id then (id, t) else e }

/-- Take a task away. -/
def removeTask (id : Nat) (m : Machine) : Machine :=
  { m with tasks := m.tasks.filter (·.1 != id) }

/-- The tasks of a pool. -/
def poolTasks (m : Machine) (pool : Nat) : List (Nat × Task) := m.tasks.filter (·.2.pool == pool)

/-- Add a task that waits; the answer is its number. -/
def park (t : Task) (m : Machine) : Nat × Machine :=
  (m.nextTask,
    { m with tasks := m.tasks ++ [(m.nextTask, t)], nextTask := m.nextTask + 1 })

/-- Start a task; the answer is its number. -/
def start (t : Task) (m : Machine) : Nat × Machine :=
  let (id, m) := m.park t
  (id, { m with incoming := m.incoming ++ [id] })

/-! ## Polling a task -/

/-- Log how a stage has ended; a failure that is neither a broken pipe nor due to a teardown is
reported. -/
def logEnd (name : String) (outcome : Except ShellError Unit) (job : Job) : Job :=
  match outcome with
  | .ok () => job.log .debug "exec" s!"{name} done"
  | .error e =>
    if e.isBrokenPipe || Job.hardLevel ≤ job.level then
      job.log .debug "exec" s!"{name} stopped: {e.message}"
    else (job.log .warn "exec" s!"{name} failed: {e.message}").report e.message

/-- End a task: release its station, then log the end. -/
def endTask (id : Nat) (name : String) (st : Station) (outcome : Except ShellError Unit) (job : Job)
    (m : Machine) : Machine :=
  { m with job := logEnd name outcome (st.release job) }.removeTask id

/-- Poll a task. The answer tells whether it has ended. -/
def pollTask (fuel : Nat) (id : Nat) (t : Task) (m : Machine) : Bool × Machine :=
  match t.station.run fuel (.task id) m.job t.behavior with
  | (.done (), st, job) => (true, m.endTask id t.name st (.ok ()) job)
  | (.failed e, st, job) => (true, m.endTask id t.name st (.error e) job)
  | (.waiting rest, st, job) =>
    (false, { m with job := job }.setTask id { t with behavior := rest, station := st })
  | (.crashed, _, job) => (false, { m with job := job, halt := some .crashed })
  | (.unfinished _, _, job) => (false, { m with job := job, halt := some .exhausted })

/-! ## Turns -/

/-- Put the tasks of a pool that have just been started on the ready list. -/
def enqueue (pool : Nat) (m : Machine) : Machine :=
  let fresh := m.incoming.filter fun id => (m.poolTasks pool).any (·.1 == id)
  { m with
    job := { m.job with ready := m.job.ready ++ fresh },
    incoming := m.incoming.filter fun id => !fresh.contains id }

/-- The first ready task of a pool. -/
def nextReady? (m : Machine) (pool : Nat) : Option (Nat × Task) :=
  m.job.ready.findSome? fun id =>
    (m.task? id).bind fun t => if t.pool == pool then some (id, t) else none

/-- One turn. `size` is the number of tasks when the turn began, `polled` and `yielded` count since
then the polls and the tasks that woke themselves. -/
def turnFrom (fuel budget pool size polled yielded : Nat) (m : Machine) : Machine :=
  match fuel with
  | 0 => { m with halt := some .exhausted }
  | fuel + 1 =>
    match m.nextReady? pool with
    | none => m
    | some (id, t) =>
      let m := m.onJob fun job => { job with ready := job.ready.filter (· != id) }
      let (ended, m) := m.pollTask budget id t
      if m.halt.isSome then m
      else if ended then
        let m := m.enqueue pool
        m.turnFrom fuel budget pool (m.poolTasks pool).length 0 0
      else
        let polled := polled + 1
        let yielded := if m.job.ready.contains id then yielded + 1 else yielded
        if 2 ≤ yielded || polled == size then m
        else m.turnFrom fuel budget pool size polled yielded

/-- One turn of a pool. -/
def turn (fuel pool : Nat) (m : Machine) : Machine :=
  let m := m.enqueue pool
  m.turnFrom fuel fuel pool (m.poolTasks pool).length 0 0

/-- Take turns until no task of the pool is ready. -/
def runStalled (fuel pool : Nat) (m : Machine) : Machine :=
  match fuel with
  | 0 => { m with halt := some .exhausted }
  | fuel + 1 =>
    let m := m.turn (fuel + 1) pool
    if m.halt.isSome || (m.nextReady? pool).isNone then m else m.runStalled fuel pool

/-! ## The main future -/

/-- A future that reads a pipe. -/
structure Collector where
  /-- The pipe. -/
  pipe : Nat
  /-- How many items it still takes; all if there is no number. -/
  left : Option Nat := none
  /-- How far its current read has come. -/
  reading : ReadState := .fresh
  /-- What it has read, newest item first. -/
  items : List Value := []

/-- Poll the main future. The answer tells whether it is done. -/
def pollMain (fuel : Nat) (c : Collector) (job : Job) : Bool × Collector × Job :=
  match fuel with
  | 0 => (false, c, job)
  | fuel + 1 =>
    if c.left = some 0 then (true, c, job)
    else
      let st : Station := { input := some c.pipe, reading := c.reading }
      match st.tryRead .main job with
      | (.pending, st, job) => (false, { c with reading := st.reading }, job)
      | (.ready none, _, job) => (true, { c with reading := .fresh }, job)
      | (.ready (some v), _, job) =>
        pollMain fuel
          { c with reading := .fresh, items := v :: c.items, left := c.left.map (· - 1) } job

/-- Let time pass up to a moment, unless it is past, and wake every task whose deadline has come. -/
def advance (moment : Nat) (m : Machine) : Machine :=
  let now := max m.job.now moment
  let isDue (t : Task) : Bool := t.station.deadline.any (· ≤ now)
  let due := m.tasks.filter fun e => isDue e.2
  m.onJob fun job => due.foldl (fun job e => job.wake (.task e.1)) { job with now := now }

/-- Let time pass up to the next deadline of a waiting task of the pool. -/
def passTime (pool : Nat) (m : Machine) : Machine :=
  match ((m.poolTasks pool).filterMap (·.2.station.deadline)).min? with
  | none => { m with halt := some .deadlock }
  | some deadline => m.advance deadline

/-- Run a pool until the main future is done; the answer is what it has read. -/
def runUntil (fuel pool : Nat) (c : Collector) (m : Machine) : List Value × Machine :=
  match fuel with
  | 0 => (c.items.reverse, { m with halt := some .exhausted })
  | fuel + 1 =>
    let job := { m.job with mainWoken := false }
    let (done, c, job) := pollMain (fuel + 1) c job
    let m := { m with job := job }
    if done then (c.items.reverse, m)
    else
      let m := m.turn (fuel + 1) pool
      if m.halt.isSome then (c.items.reverse, m)
      else if m.job.mainWoken || (m.nextReady? pool).isSome then m.runUntil fuel pool c
      else
        let m := m.passTime pool
        if m.halt.isSome then (c.items.reverse, m) else m.runUntil fuel pool c

/-- Run a behavior outside the pools to its end; time passes while it waits for time to pass. It
answers nothing if it fails or if nothing would ever end its waiting. -/
def finish {α : Type} (fuel : Nat) (st : Station) (b : Behavior α) (m : Machine) :
    Option α × Station × Machine :=
  match fuel with
  | 0 => (none, st, { m with halt := some .exhausted })
  | fuel + 1 =>
    match st.run (fuel + 1) .nobody m.job b with
    | (.done a, st, job) => (some a, st, { m with job := job })
    | (.failed _, st, job) => (none, st, { m with job := job })
    | (.crashed, st, job) => (none, st, { m with job := job, halt := some .crashed })
    | (.unfinished _, st, job) => (none, st, { m with job := job, halt := some .exhausted })
    | (.waiting rest, st, job) =>
      let m := { m with job := job }
      match st.deadline with
      | some deadline => (m.advance deadline).finish fuel st rest
      | none => (none, st, { m with halt := some .deadlock })

/-! ## Pools -/

/-- Open a pool; the answer is its number. -/
def openPool (m : Machine) : Nat × Machine := (m.nextPool, { m with nextPool := m.nextPool + 1 })

/-- Give up the tasks of a pool that are left: their stations are released and nothing is logged. -/
def closePool (pool : Nat) (m : Machine) : Machine :=
  (m.poolTasks pool).foldl (fun m (id, t) =>
    ({ m with job := t.station.release m.job, incoming := m.incoming.filter (· != id) } :
      Machine).removeTask id) m

end Machine

end Pipework
