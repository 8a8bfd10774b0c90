import Pipework.Job.Behavior

/-!
# Stations

A `Station` is where a behavior runs: its reader and writer, its arguments, and how far the action
it waits for has come. `Station.run` runs a behavior on a job up to the first action that has to
wait; polled again, that action is tried again.

When a behavior is over its station is released: the reader first, then the timers it still has in
use, then the writer.
-/

namespace Pipework

/-- Where a behavior runs. -/
structure Station where
  /-- The pipe that its reader is open on. -/
  input : Option Nat := none
  /-- The pipe that its writer is open on. -/
  output : Option Nat := none
  /-- What is left of its arguments. -/
  arguments : Arguments := {}
  /-- How far the read it waits for has come. -/
  reading : ReadState := .fresh
  /-- When the time is over that it waits for. -/
  deadline : Option Nat := none
  /-- The timers it has started and not taken out of use. -/
  timers : List Nat := []
  deriving Inhabited

/-- How far a behavior has come. -/
inductive Progress (α : Type) : Type 1 where
  /-- It is over, with this result. -/
  | done (a : α)
  /-- It has failed. -/
  | failed (e : ShellError)
  /-- It has ended the program. -/
  | crashed
  /-- It waits; this is what is left of it. -/
  | waiting (rest : Behavior α)
  /-- It was not brought to any of these in the steps allowed; this is what is left of it. -/
  | unfinished (rest : Behavior α)

namespace Station

/-- Release the reader. -/
def closeInput (st : Station) (job : Job) : Station × Job :=
  match st.input with
  | some i => ({ st with input := none }, (job.closeRead i).2)
  | none => (st, job)

/-- Release the writer. -/
def closeOutput (st : Station) (job : Job) : Station × Job :=
  match st.output with
  | some i => ({ st with output := none }, (job.closeWrite i).2)
  | none => (st, job)

/-- Take a timer out of use. -/
def forgetTimer (id : Nat) (st : Station) (job : Job) : Station × Job :=
  ({ st with timers := st.timers.filter (· != id) }, job.forgetTimer id)

/-- Abandon a read that waits. -/
def abandonRead (st : Station) (job : Job) : Station × Job :=
  match st.input with
  | some i => ({ st with reading := .fresh }, job.change i (·.dropRead st.reading))
  | none => ({ st with reading := .fresh }, job)

/-- Take all timers of the station out of use. -/
def forgetTimers (st : Station) (job : Job) : Station × Job :=
  ({ st with timers := [] }, st.timers.foldl (fun job id => job.forgetTimer id) job)

/-- Release everything the station holds. -/
def release (st : Station) (job : Job) : Job :=
  let (st, job) := st.abandonRead job
  let (st, job) := st.closeInput job
  let (st, job) := st.forgetTimers job
  (st.closeOutput job).2

/-- Try a read. -/
def tryRead (who : Waker) (st : Station) (job : Job) : Poll (Option Value) × Station × Job :=
  match st.input with
  | none => (.ready none, st, job)
  | some i =>
    let ((answer, reading), job) := job.query i (Poll.ready none, ReadState.finished) fun p =>
      let (answer, reading, p, events) := p.pollRead who st.reading
      ((answer, reading), p, events)
    match answer with
    | .pending => (.pending, { st with reading := reading }, job)
    | .ready item => (.ready item, { st with reading := .fresh }, job)

/-- Try a write. -/
def tryWrite (who : Waker) (v : Value) (st : Station) (job : Job) :
    Poll (Except ShellError Unit) × Station × Job :=
  match st.output with
  | none => (.ready (.error (.alreadyWriteClosed "")), st, job)
  | some i =>
    let (answer, job) := job.query i (.ready (.error (.alreadyWriteClosed ""))) (·.pollWrite who v)
    (answer, st, job)

/-- Try a wait that a poll of `test` ends, with the time at which it is over. -/
def tryWait {β : Type} (ms : Nat) (test : Nat → Job → Poll β × Job) (st : Station) (job : Job) :
    Poll β × Station × Job :=
  let deadline := st.deadline.getD (Timer.deadline job.now ms)
  let (answer, job) := test deadline job
  match answer with
  | .pending => (.pending, { st with deadline := some deadline }, job)
  | .ready b => (.ready b, { st with deadline := none }, job)

/-- A condition on the pipe that a handle is open on; true without a handle. -/
def orAbsent (handle : Option Nat) (job : Job) (p : Pipe Value → Bool) : Bool :=
  match handle.bind (job.pipes[·]?) with
  | some pipe => p pipe
  | none => true

/-- Try an action. -/
def attempt {β : Type} (who : Waker) (action : Action β) (st : Station) (job : Job) :
    Poll β × Station × Job :=
  match action with
  | .read => st.tryRead who job
  | .write v => st.tryWrite who v job
  | .closeInput =>
    let (st, job) := st.closeInput job
    (.ready (), st, job)
  | .closeOutput =>
    let (st, job) := st.closeOutput job
    (.ready (), st, job)
  | .inputClosed => (.ready (orAbsent st.input job (·.readClosed)), st, job)
  | .outputClosed =>
    (.ready (orAbsent st.output job fun p => p.writeClosed || p.readClosed), st, job)
  | .level => (.ready job.level, st, job)
  | .interrupt hard => (.ready (), st, if hard then job.interruptHard else job.interrupt)
  | .startTimer kind =>
    let (id, job) := job.startTimer kind st.output
    (.ready id, { st with timers := st.timers ++ [id] }, job)
  | .awaitTimer id ms => st.tryWait ms (fun deadline job => job.pollTimer id deadline who) job
  | .forgetTimer id =>
    let (st, job) := st.forgetTimer id job
    (.ready (), st, job)
  | .pause ms =>
    st.tryWait ms (fun deadline job =>
      (if deadline ≤ job.now then .ready () else .pending, job)) job
  | .takePresses => (.ready job.presses, st, { job with presses := 0 })
  | .log level subsystem message => (.ready (), st, job.log level subsystem message)
  | .report message => (.ready (), st, job.report message)
  | .clearScreen => (.ready (), st, { job with clears := true })
  | .shell => (.ready job.shell, st, job)
  | .setShell s => (.ready (), st, { job with shell := s })
  | .arguments => (.ready st.arguments, st, job)
  | .setArguments a => (.ready (), { st with arguments := a }, job)

/-- Run a behavior up to the first action that has to wait, in at most `fuel` steps. -/
def run {α : Type} (fuel : Nat) (who : Waker) (st : Station) (job : Job) (b : Behavior α) :
    Progress α × Station × Job :=
  match fuel with
  | 0 => (.unfinished b, st, job)
  | fuel + 1 =>
    match b with
    | .result a => (.done a, st, job)
    | .fail e => (.failed e, st, job)
    | .crash => (.crashed, st, job)
    | .loop s body next => run fuel who st job (Behavior.unfold s body next)
    | .act action next =>
      match attempt who action st job with
      | (.ready answer, st, job) => run fuel who st job (next answer)
      | (.pending, st, job) => (.waiting (.act action next), st, job)

/-- Run a behavior that nobody will take up again: where it would have to wait, it is given up, and
what it has already taken is lost. -/
def tryOut {α : Type} (fuel : Nat) (st : Station) (job : Job) (b : Behavior α) :
    Progress α × Station × Job :=
  match st.run fuel .nobody job b with
  | (.waiting rest, st, job) =>
    let (st, job) := st.abandonRead job
    (.waiting rest, { st with deadline := none }, job)
  | other => other

end Station

end Pipework
