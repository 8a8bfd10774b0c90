import Pipework.Job.Console
import Pipework.Proofs.Job.Losing

/-!
# Sites

A `Site` is a job with everybody who uses it from outside: the users of its pipes, the sleeps and
the intervals. `Site.step` carries out one operation given as data, `Site.run` a list of them.

Two facts say what an operation can do. To a pipe it is something that one of its users does, or the
pipe loses writers (`Site.advance`). And each sleep and interval holds a timer of its own, which
nobody else takes out of use without cancelling it (`Site.minds_step`).
-/

namespace Pipework

/-! ## Users -/

/-- The users of a pipe. -/
structure Users where
  /-- Handles by name. -/
  handles : List (String × Handle) := []
  /-- Operations under way by name. -/
  futures : List (String × Future Value) := []

/-- An interval and its tick. -/
structure Ticker extends Interval where
  /-- When the time of the tick is over, if one is under way. -/
  deadline : Option Nat := none

/-- A job with its users. -/
structure Site where
  /-- The job. -/
  job : Job
  /-- The users of each pipe. -/
  users : Nat → Users := fun _ => {}
  /-- The number of the next waker of an operation on a pipe. -/
  nextWaker : Nat := 0
  /-- Sleeps by name. -/
  sleeps : String → Option Sleep := fun _ => none
  /-- Intervals by name. -/
  tickers : String → Option Ticker := fun _ => none

/-- Operations on a job. A timer may be linked to a pipe that there is. -/
inductive SiteOp where
  /-- Create a pipe. -/
  | createPipe (label : String)
  /-- Use a pipe. -/
  | use (i : Nat) (op : PipeOp Value)
  /-- Register a timer. -/
  | register (kind : TimerKind) (link : Option Nat)
  /-- Poll a wait on a timer. -/
  | wait (who : Waker) (id deadline : Nat)
  /-- Cancel a timer and leave it registered. -/
  | cancelHandle (id : Nat)
  /-- Cancel a timer that is registered. -/
  | cancel (id : Nat)
  /-- Prepare a sleep, which begins when it is first polled. -/
  | sleep (name : String) (ms : Nat) (link : Option Nat)
  /-- Poll a sleep. -/
  | pollSleep (who : Waker) (name : String)
  /-- Give up a sleep. -/
  | dropSleep (name : String)
  /-- Start an interval. -/
  | interval (name : String) (ms : Nat) (link : Option Nat)
  /-- Poll the tick of an interval; one begins now if none is under way. -/
  | pollTick (who : Waker) (name : String)
  /-- Give up the tick of an interval. -/
  | dropTick (name : String)
  /-- Give up an interval. -/
  | dropInterval (name : String)
  /-- Let time pass. -/
  | pass (ms : Nat)
  /-- Report an error line. -/
  | report (message : String)
  /-- Take the error lines reported so far. -/
  | takeErrors
  /-- Ask the front end to clear its screen. -/
  | clearScreen
  /-- Change what outlasts the line. -/
  | setShell (shell : Shell)
  /-- Interrupt the job. -/
  | interrupt
  /-- Interrupt the job at once to the end. -/
  | interruptHard
  /-- Tear the job down. -/
  | teardown

/-- The answer to an operation. -/
inductive SiteReply where
  /-- Carried out. -/
  | done
  /-- There is no such thing. -/
  | refused
  /-- The number of what has been created. -/
  | number (n : Nat)
  /-- Yes or no. -/
  | flag (b : Bool)
  /-- The answer to an operation on a pipe. -/
  | answered (reply : Reply Value)
  /-- Whether the time has passed. -/
  | elapsed (answer : Poll Bool)
  /-- Error lines. -/
  | errors (messages : List String)

/-- Cancel a timer, whether it is in use or not. -/
def Job.cancelHandle (id : Nat) (job : Job) : Job :=
  let (t, waker) := (job.timer id).cancel
  let job := { job with timers := job.timers.setIfInBounds id t }
  match waker with
  | some w => job.wake w
  | none => job

namespace Site

/-- A job that nobody has used. -/
def create (shell : Shell) : Site := { job := { shell := shell } }

/-- A pipe with its users. -/
def traffic? (s : Site) (i : Nat) : Option (Traffic Value) :=
  (s.job.pipes[i]?).map fun p =>
    { pipe := p, handles := (s.users i).handles, futures := (s.users i).futures
      nextWaker := s.nextWaker }

/-- Put back a pipe with its users, and carry out the events. -/
def putTraffic (i : Nat) (t : Traffic Value) (events : List Pipe.Event) (s : Site) : Site :=
  { s with
    job := ({ s.job with pipes := s.job.pipes.setIfInBounds i t.pipe } : Job).react events
    users := Function.update s.users i { handles := t.handles, futures := t.futures }
    nextWaker := t.nextWaker }

/-- The pipe that a timer is to be linked to is there. -/
def linkable (s : Site) (link : Option Nat) : Bool := link.all (· < s.job.pipes.size)

/-- Put a sleep under a name. -/
def setSleep (name : String) (z : Option Sleep) (job : Job) (s : Site) : Site :=
  { s with job := job, sleeps := Function.update s.sleeps name z }

/-- Put an interval under a name. -/
def setTicker (name : String) (i : Option Ticker) (job : Job) (s : Site) : Site :=
  { s with job := job, tickers := Function.update s.tickers name i }

/-- The job after the sleep of a name has been given up. -/
def withoutSleep (s : Site) (name : String) : Job :=
  match s.sleeps name with
  | none => s.job
  | some z => (z.station.forgetTimers s.job).2

/-- The job after the interval of a name has been given up. -/
def withoutTicker (s : Site) (name : String) (job : Job) : Job :=
  match s.tickers name with
  | none => job
  | some i => job.forgetTimer i.timer

/-- The steps that a sleep takes at most when it is polled. -/
def sleepSteps : Nat := 5

/-- Poll a sleep. -/
def pollSleep (s : Site) (who : Waker) (name : String) : SiteReply × Site :=
  match s.sleeps name with
  | none => (.refused, s)
  | some z =>
    match z.station.run sleepSteps who s.job z.rest with
    | (.done elapsed, _, job) => (.elapsed (.ready elapsed), s.setSleep name none job)
    | (.waiting rest, station, job) => (.elapsed .pending, s.setSleep name (some ⟨rest, station⟩) job)
    | (_, _, job) => (.refused, s.setSleep name none job)

/-- Poll the tick of an interval. -/
def pollTick (s : Site) (who : Waker) (name : String) : SiteReply × Site :=
  match s.tickers name with
  | none => (.refused, s)
  | some i =>
    let (answer, station, job) :=
      ({ deadline := i.deadline } : Station).attempt who (.awaitTimer i.timer i.ms) s.job
    (.elapsed answer, s.setTicker name (some { i with deadline := station.deadline }) job)

/-- Carry out one operation. -/
def step (s : Site) : SiteOp → SiteReply × Site
  | .createPipe label =>
    let (i, job) := s.job.createPipe label
    (.number i, { s with job := job, users := Function.update s.users i {} })
  | .use i op =>
    match s.traffic? i with
    | none => (.refused, s)
    | some t =>
      let (reply, t, events) := t.step op
      (.answered reply, s.putTraffic i t events)
  | .register kind link =>
    if s.linkable link then
      let (id, job) := s.job.enterTimer kind link
      (.number id, { s with job := job })
    else (.refused, s)
  | .wait who id deadline =>
    let (answer, job) := s.job.pollTimer id deadline who
    (.elapsed answer, { s with job := job })
  | .cancelHandle id => (.done, { s with job := s.job.cancelHandle id })
  | .cancel id =>
    let (inUse, job) := s.job.cancelTimer id
    (.flag inUse, { s with job := job })
  | .sleep name ms link =>
    if s.linkable link then
      (.done, s.setSleep name (some { rest := .sleep ms, station := { output := link } })
        (s.withoutSleep name))
    else (.refused, s)
  | .pollSleep who name => s.pollSleep who name
  | .dropSleep name => (.done, s.setSleep name none (s.withoutSleep name))
  | .interval name ms link =>
    if s.linkable link then
      let (id, job) := s.job.startTimer .interval link
      (.number id, s.setTicker name (some { timer := id, ms := ms }) (s.withoutTicker name job))
    else (.refused, s)
  | .pollTick who name => s.pollTick who name
  | .dropTick name =>
    (.done, s.setTicker name ((s.tickers name).map fun i => { i with deadline := none }) s.job)
  | .dropInterval name => (.done, s.setTicker name none (s.withoutTicker name s.job))
  | .pass ms => (.done, { s with job := { s.job with now := s.job.now + ms } })
  | .report message => (.done, { s with job := s.job.report message })
  | .takeErrors => (.errors s.job.errors, { s with job := { s.job with errors := [] } })
  | .clearScreen => (.done, { s with job := { s.job with clears := true } })
  | .setShell shell => (.done, { s with job := { s.job with shell := shell } })
  | .interrupt => (.done, { s with job := s.job.interrupt })
  | .interruptHard => (.done, { s with job := s.job.interruptHard })
  | .teardown => (.done, { s with job := s.job.teardown })

/-- Carry out operations one after another. -/
def run (s : Site) (ops : List SiteOp) : Site := ops.foldl (fun s op => (s.step op).2) s

/-! ## Sleeps -/

/-- What is left of a sleep that has begun. -/
def resting (id ms : Nat) : Behavior Bool :=
  .act (.awaitTimer id ms) fun elapsed => .act (.forgetTimer id) fun _ => .result elapsed

/-- A sleep has not begun, or it waits on the one timer it has started. -/
inductive Asleep : Sleep → Prop where
  | fresh (ms : Nat) {station : Station} (timers : station.timers = []) :
      Asleep ⟨.sleep ms, station⟩
  | waiting (id ms : Nat) {station : Station} (timers : station.timers = [id]) :
      Asleep ⟨resting id ms, station⟩

variable {who : Waker} {st : Station} {job : Job} {id ms : Nat}

/-- How a poll of a sleep that has begun ends. -/
inductive Rests (who : Waker) (id ms : Nat) (job : Job) : Progress Bool × Station × Job → Prop where
  | ended (elapsed : Bool) (st : Station) (deadline : Nat)
      (cancelled : (job.timer id).cancelled = true → elapsed = false) :
      Rests who id ms job (.done elapsed, st, (job.pollTimer id deadline who).2.forgetTimer id)
  | waits (st : Station) (deadline : Nat) (timers : st.timers = [id])
      (lasts : (job.timer id).cancelled = false) :
      Rests who id ms job (.waiting (resting id ms), st, (job.pollTimer id deadline who).2)

/-- A wait on a timer that has been cancelled is over. -/
theorem pollTimer_cancelled (h : (job.timer id).cancelled = true) (deadline : Nat) (who : Waker) :
    (job.pollTimer id deadline who).1 = .ready false := by
  simp [Job.pollTimer, Timer.pollWait, h]

theorem rests_run (n : Nat) (htimers : st.timers = [id]) :
    Rests who id ms job (st.run (n + 3) who job (resting id ms)) := by
  set deadline := st.deadline.getD (Timer.deadline job.now ms) with hdeadline
  rcases hpoll : job.pollTimer id deadline who with ⟨_ | elapsed, job'⟩
  · have hrun : st.run (n + 3) who job (resting id ms) =
        (.waiting (resting id ms), { st with deadline := some deadline }, job') := by
      simp only [Station.run, resting, Station.attempt, Station.tryWait, ← hdeadline, hpoll]
    have hopen : (job.timer id).cancelled = false := by
      by_contra hcancelled
      have hready := pollTimer_cancelled (by simpa using hcancelled) deadline who
      rw [hpoll] at hready
      exact absurd hready (by simp)
    rw [hrun, show job' = (job.pollTimer id deadline who).2 by rw [hpoll]]
    exact .waits _ deadline htimers hopen
  · have hrun : st.run (n + 3) who job (resting id ms) = (.done elapsed,
        { st with deadline := none, timers := st.timers.filter (· != id) }, job'.forgetTimer id) := by
      simp only [Station.run, resting, Station.attempt, Station.tryWait, ← hdeadline, hpoll,
        Station.forgetTimer]
    rw [hrun, show job' = (job.pollTimer id deadline who).2 by rw [hpoll]]
    refine .ended _ _ deadline fun hcancelled => ?_
    have hready := pollTimer_cancelled hcancelled deadline who
    rw [hpoll] at hready
    exact Poll.ready.inj hready

theorem sleep_eq (ms : Nat) : Behavior.sleep ms = .act .level fun level =>
    if Job.hardLevel ≤ level then .result false else
      .act (.startTimer .timeout) fun timer => resting timer ms := rfl

/-- A sleep that begins after a teardown is over at once. -/
theorem run_sleep_torn (n : Nat) (h : Job.hardLevel ≤ job.level) :
    st.run (n + 5) who job (.sleep ms) = (.done false, st, job) := by
  simp only [sleep_eq, Station.run, Station.attempt, h, if_true]

theorem startTimer_number (kind : TimerKind) (link : Option Nat) (job : Job) :
    (job.startTimer kind link).1 = job.timers.size := by
  obtain h | h := Job.startTimer_cases kind link job <;> rw [h]
  rfl

/-- A sleep that begins starts a timer and waits on it. -/
theorem run_sleep (n : Nat) (h : ¬ Job.hardLevel ≤ job.level) :
    st.run (n + 5) who job (.sleep ms) =
      ({ st with timers := st.timers ++ [job.timers.size] } : Station).run (n + 3) who
        (job.startTimer .timeout st.output).2 (resting job.timers.size ms) := by
  simp only [sleep_eq, Station.run, Station.attempt, h, if_false, startTimer_number]

/-! ## Who holds a timer -/

/-- Who may hold a timer. -/
inductive Holder where
  | sleep (name : String)
  | interval (name : String)

/-- The timers that a holder has. -/
def holds (s : Site) : Holder → List Nat
  | .sleep name => ((s.sleeps name).map (·.station.timers)).getD []
  | .interval name => ((s.tickers name).map fun i => [i.timer]).getD []

/-- What an operation does about timers, on behalf of one holder: it takes none out of use but those
that the holder gives up. -/
structure Minds (own : Holder) (s s' : Site) : Prop where
  clocks : Job.Clocks (fun id => id ∈ s.holds own ∧ id ∉ s'.holds own) s.job s'.job
  others : ∀ h, h ≠ own → s'.holds h = s.holds h
  /-- The holder keeps a timer, or has started it just now. -/
  own : ∀ id ∈ s'.holds own, id ∈ s.holds own ∨ s.job.timers.size ≤ id ∧ s'.job.Runs id ∧
    (Job.hardLevel ≤ s.job.level → (s'.job.timer id).cancelled = true)
  asleep : ∀ name z, s'.sleeps name = some z → s.sleeps name = some z ∨ Asleep z

variable {s s' : Site} {name : String}

@[simp] theorem holds_setSleep (z : Option Sleep) (job : Job) :
    (s.setSleep name z job).holds (.sleep name) = (z.map (·.station.timers)).getD [] := by
  simp [holds, setSleep]

@[simp] theorem holds_setTicker (i : Option Ticker) (job : Job) :
    (s.setTicker name i job).holds (.interval name) = (i.map fun i => [i.timer]).getD [] := by
  simp [holds, setTicker]

namespace Minds

/-- An operation that is not on behalf of a holder. -/
theorem quiet (own : Holder) (clocks : Job.Clocks (fun _ => False) s.job s'.job)
    (sleeps : s'.sleeps = s.sleeps) (tickers : s'.tickers = s.tickers) : Minds own s s' := by
  have hholds : ∀ h, s'.holds h = s.holds h := fun h => by
    cases h <;> simp only [holds, sleeps, tickers]
  exact ⟨clocks.weaken _, fun h _ => hholds h, fun id hid => .inl (hholds own ▸ hid),
    fun name z hz => .inl (sleeps ▸ hz)⟩

/-- An operation on behalf of a sleep. -/
theorem ofSleep {z : Option Sleep} {job : Job} (asleep : ∀ z', z = some z' → Asleep z')
    (clocks : Job.Clocks (fun id => id ∈ s.holds (.sleep name) ∧
      id ∉ (z.map (·.station.timers)).getD []) s.job job)
    (own : ∀ id ∈ (z.map (·.station.timers)).getD [], id ∈ s.holds (.sleep name) ∨
      s.job.timers.size ≤ id ∧ job.Runs id ∧
        (Job.hardLevel ≤ s.job.level → (job.timer id).cancelled = true)) :
    Minds (.sleep name) s (s.setSleep name z job) where
  clocks := by
    rw [holds_setSleep]
    exact clocks
  others h hother := by
    cases h with
    | sleep other =>
      have hne : other ≠ name := fun heq => hother (heq ▸ rfl)
      simp [holds, setSleep, hne]
    | interval other => rfl
  own := by
    rw [holds_setSleep]
    exact own
  asleep other z' hz := by
    by_cases hname : other = name
    · subst hname
      exact .inr (asleep z' (by simpa [setSleep] using hz))
    · exact .inl (by simpa [setSleep, hname] using hz)

/-- An operation on behalf of an interval. -/
theorem ofTicker {i : Option Ticker} {job : Job}
    (clocks : Job.Clocks (fun id => id ∈ s.holds (.interval name) ∧
      id ∉ (i.map fun i => [i.timer]).getD []) s.job job)
    (own : ∀ id ∈ (i.map fun i => [i.timer]).getD [], id ∈ s.holds (.interval name) ∨
      s.job.timers.size ≤ id ∧ job.Runs id ∧
        (Job.hardLevel ≤ s.job.level → (job.timer id).cancelled = true)) :
    Minds (.interval name) s (s.setTicker name i job) where
  clocks := by
    rw [holds_setTicker]
    exact clocks
  others h hother := by
    cases h with
    | sleep other => rfl
    | interval other =>
      have hne : other ≠ name := fun heq => hother (heq ▸ rfl)
      simp [holds, setTicker, hne]
  own := by
    rw [holds_setTicker]
    exact own
  asleep _ _ hz := .inl hz

end Minds

/-- Timers of sleeps and intervals have been started, each by one holder, and are in use unless they
have been cancelled. -/
structure Timed (s : Site) : Prop where
  running : ∀ id, s.job.Runs id → id < s.job.timers.size
  held : ∀ h, ∀ id ∈ s.holds h, id < s.job.timers.size ∧
    (s.job.Runs id ∨ (s.job.timer id).cancelled = true)
  apart : ∀ h h' id, id ∈ s.holds h → id ∈ s.holds h' → h = h'
  asleep : ∀ name z, s.sleeps name = some z → Asleep z

theorem timed_create (shell : Shell) : (create shell).Timed where
  running _ h := absurd h List.not_mem_nil
  held h _ hid := by cases h <;> exact absurd hid List.not_mem_nil
  apart h _ _ hid := by cases h <;> exact absurd hid List.not_mem_nil
  asleep _ _ hz := absurd hz (by simp [create])

theorem Timed.minds (h : s.Timed) {own : Holder} (hminds : Minds own s s') : s'.Timed := by
  have hrunning : ∀ id, s'.job.Runs id → id < s'.job.timers.size := fun id hruns =>
    (hminds.clocks.running id hruns).elim
      (fun hruns => (h.running id hruns).trans_le hminds.clocks.size) fun hnew => hnew.2
  -- what a holder has is its own from before, or has just been started by the one at work
  have hcame : ∀ holder, ∀ id ∈ s'.holds holder, id ∈ s.holds holder ∨
      holder = own ∧ s.job.timers.size ≤ id ∧ s'.job.Runs id := by
    intro holder id hid
    by_cases hown : holder = own
    · subst hown
      exact (hminds.own id hid).imp_right fun hnew => ⟨rfl, hnew.1, hnew.2.1⟩
    · exact .inl (hminds.others holder hown ▸ hid)
  refine ⟨hrunning, fun holder id hid => ?_, fun holder holder' id hid hid' => ?_,
    fun name z hz => (hminds.asleep name z hz).elim (h.asleep name z) fun hz => hz⟩
  · rcases hcame holder id hid with hold | ⟨-, -, hruns⟩
    · obtain ⟨hlt, hruns | hcancelled⟩ := h.held holder id hold
      · refine ⟨hlt.trans_le hminds.clocks.size, hminds.clocks.kept id hlt ?_ hruns⟩
        rintro ⟨hown, hgone⟩
        obtain rfl := h.apart holder own id hold hown
        exact hgone hid
      · exact ⟨hlt.trans_le hminds.clocks.size, .inr (hminds.clocks.cancelled id hcancelled)⟩
    · exact ⟨hrunning id hruns, .inl hruns⟩
  · rcases hcame holder id hid with hold | ⟨rfl, hnew, -⟩ <;>
      rcases hcame holder' id hid' with hold' | ⟨rfl, hnew', -⟩
    · exact h.apart holder holder' id hold hold'
    · exact absurd (h.held holder id hold).1 (Nat.not_lt.mpr hnew')
    · exact absurd (h.held holder' id hold').1 (Nat.not_lt.mpr hnew)
    · rfl

/-! ## What an operation does about timers -/

theorem clocks_cancelHandle {mine : Nat → Prop} (id : Nat) (job : Job) :
    Job.Clocks mine job (job.cancelHandle id) := by
  have hset : Job.Clocks mine job
      { job with timers := job.timers.setIfInBounds id (job.timer id).cancel.1 } :=
    Job.clocks_setTimer fun _ => Job.cancelled_cancel _
  simp only [Job.cancelHandle]
  split
  · refine hset.trans ?_
    rw [Job.wake_eq]
    exact .of_eq le_rfl rfl rfl
  · exact hset

/-- To give up a sleep is to take its timers out of use. -/
theorem clocks_withoutSleep {mine : Nat → Prop} (name : String)
    (hmine : ∀ id ∈ s.holds (.sleep name), mine id) :
    Job.Clocks mine s.job (s.withoutSleep name) := by
  unfold withoutSleep
  cases hz : s.sleeps name with
  | none => exact .of_eq le_rfl rfl rfl
  | some z =>
    have hholds : s.holds (.sleep name) = z.station.timers := by simp [holds, hz]
    exact .foldl (fun job id hid => Job.clocks_forgetTimer (hmine id (hholds ▸ hid)) job) s.job

theorem clocks_withoutTicker {mine : Nat → Prop} (name : String) (job : Job)
    (hmine : ∀ id ∈ s.holds (.interval name), mine id) :
    Job.Clocks mine job (s.withoutTicker name job) := by
  unfold withoutTicker
  cases hi : s.tickers name with
  | none => exact .of_eq le_rfl rfl rfl
  | some i => exact Job.clocks_forgetTimer (hmine i.timer (by simp [holds, hi])) job

theorem minds_dropSleep (s : Site) (name : String) {z : Option Sleep}
    (hz : ∀ z', z = some z' → ∃ ms st, z' = ⟨.sleep ms, st⟩ ∧ st.timers = []) :
    Minds (.sleep name) s (s.setSleep name z (s.withoutSleep name)) := by
  have hnone : (z.map (·.station.timers)).getD [] = [] := by
    cases z with
    | none => rfl
    | some z =>
      obtain ⟨_, _, rfl, htimers⟩ := hz z rfl
      exact htimers
  refine .ofSleep (fun z' hz' => ?_) (clocks_withoutSleep name fun id hid => ⟨hid, ?_⟩) ?_
  · obtain ⟨ms, _, rfl, htimers⟩ := hz z' hz'
    exact .fresh ms htimers
  · rw [hnone]
    exact List.not_mem_nil
  · rw [hnone]
    exact fun id hid => absurd hid List.not_mem_nil

theorem runs_enterTimer (kind : TimerKind) (link : Option Nat) (job : Job) :
    (job.enterTimer kind link).2.Runs job.timers.size := by
  simp [Job.Runs, Job.enterTimer]

/-- A timer that has been started is in use. -/
theorem runs_startTimer (kind : TimerKind) (link : Option Nat) (job : Job) :
    (job.startTimer kind link).2.Runs job.timers.size := by
  obtain h | h := Job.startTimer_cases kind link job <;> rw [h] <;>
    exact runs_enterTimer kind link job

theorem minds_interval (h : s.Timed) (name : String) (ms : Nat) (link : Option Nat) :
    Minds (.interval name) s (s.setTicker name (some { timer := s.job.timers.size, ms := ms })
      (s.withoutTicker name (s.job.startTimer .interval link).2)) := by
  have hold : ∀ id ∈ s.holds (.interval name), id ≠ s.job.timers.size := fun id hid =>
    (h.held _ id hid).1.ne
  have hwithout : Job.Clocks (fun id => id ∈ s.holds (.interval name))
      (s.job.startTimer .interval link).2
      (s.withoutTicker name (s.job.startTimer .interval link).2) :=
    clocks_withoutTicker name _ fun _ hid => hid
  refine .ofTicker ((Job.clocks_startTimer .interval link s.job).trans
    (clocks_withoutTicker name _ fun id hid => ⟨hid, by simpa using hold id hid⟩)) fun id hid => ?_
  obtain rfl : id = s.job.timers.size := by simpa using hid
  refine .inr ⟨le_rfl, ?_, fun hlevel => hwithout.cancelled _ ?_⟩
  · -- what goes out of use is the interval from before
    unfold withoutTicker
    cases hi : s.tickers name with
    | none => exact runs_startTimer .interval link s.job
    | some i =>
      exact Job.mem_forgetTimer (hold i.timer (by simp [holds, hi])).symm
        (runs_startTimer .interval link s.job)
  · have hstart := Job.cancelled_startTimer link hlevel
    rw [startTimer_number] at hstart
    rw [Job.timer_eq hstart]

theorem minds_pollTick (s : Site) (who : Waker) (name : String) :
    Minds (.interval name) s (s.pollTick who name).2 := by
  unfold pollTick
  cases hi : s.tickers name with
  | none => exact .quiet _ (.of_eq le_rfl rfl rfl) rfl rfl
  | some i =>
    refine .ofTicker ?_ fun id hid => .inl ?_
    · simp only [Station.attempt, Station.tryWait]
      split <;> rename_i hpoll <;> exact hpoll ▸ Job.clocks_pollTimer _ _ _ _
    · simpa [holds, hi] using hid

theorem minds_pollSleep (h : s.Timed) (who : Waker) (name : String) :
    Minds (.sleep name) s (s.pollSleep who name).2 := by
  unfold pollSleep
  cases hz : s.sleeps name with
  | none => exact .quiet _ (.of_eq le_rfl rfl rfl) rfl rfl
  | some z =>
    dsimp only
    cases h.asleep name z hz with
    | waiting id ms htimers =>
      have hmine : id ∈ s.holds (.sleep name) := by simp [holds, hz, htimers]
      have hrests : Rests who id ms s.job (Station.run sleepSteps who _ s.job _) :=
        rests_run 2 htimers
      generalize Station.run sleepSteps who _ s.job _ = r at hrests ⊢
      cases hrests with
      | ended elapsed st deadline _ =>
        exact .ofSleep (fun _ hnone => absurd hnone (by simp))
          ((Job.clocks_pollTimer id deadline who s.job).trans
            (Job.clocks_forgetTimer ⟨hmine, List.not_mem_nil⟩ _))
          fun _ hid => absurd hid List.not_mem_nil
      | waits st deadline htimers _ =>
        refine .ofSleep (fun z' hz' => ?_) (Job.clocks_pollTimer id deadline who s.job) fun id hid => ?_
        · obtain rfl := Option.some.inj hz'
          exact .waiting id ms htimers
        · simp only [Option.map_some, Option.getD_some, htimers, List.mem_singleton] at hid
          exact .inl (hid ▸ hmine)
    | fresh ms htimers =>
      by_cases hlevel : Job.hardLevel ≤ s.job.level
      · rw [show sleepSteps = 0 + 5 from rfl, run_sleep_torn 0 hlevel]
        exact .ofSleep (fun _ hnone => absurd hnone (by simp)) (.of_eq le_rfl rfl rfl)
          fun _ hid => absurd hid List.not_mem_nil
      · rename_i station
        rw [show sleepSteps = 0 + 5 from rfl, run_sleep 0 hlevel]
        set id := s.job.timers.size
        set started := (s.job.startTimer .timeout station.output).2
        have hstarted : Job.Clocks (fun _ => False) s.job started :=
          Job.clocks_startTimer .timeout station.output s.job
        have hrests : Rests who id ms started (Station.run (0 + 3) who
            { station with timers := station.timers ++ [id] } started (resting id ms)) :=
          rests_run 0 (by simp [htimers])
        generalize Station.run (0 + 3) who _ started _ = r at hrests ⊢
        cases hrests with
        | ended elapsed st deadline _ =>
          exact .ofSleep (fun _ hnone => absurd hnone (by simp))
            (.of_new (((hstarted.weaken _).trans (Job.clocks_pollTimer id deadline who started)).trans
              (Job.clocks_forgetTimer (.inr le_rfl) _)))
            fun _ hid => absurd hid List.not_mem_nil
        | waits st deadline htimers _ =>
          refine .ofSleep (fun z' hz' => ?_)
            ((hstarted.weaken _).trans (Job.clocks_pollTimer id deadline who started))
            fun other hother => ?_
          · obtain rfl := Option.some.inj hz'
            exact .waiting id ms htimers
          · simp only [Option.map_some, Option.getD_some, htimers, List.mem_singleton] at hother
            rw [hother]
            exact .inr ⟨le_rfl, runs_startTimer .timeout station.output s.job,
              fun h => absurd h hlevel⟩

/-- Whatever is done, nobody's timer is taken out of use by others unless it is cancelled. -/
theorem minds_step (h : s.Timed) (op : SiteOp) : ∃ own, Minds own s (s.step op).2 := by
  have hsame : ∀ {s' : Site}, Job.Clocks (fun _ => False) s.job s'.job → s'.sleeps = s.sleeps →
      s'.tickers = s.tickers → ∃ own, Minds own s s' := fun hclocks hsleeps htickers =>
    ⟨.sleep "", .quiet _ hclocks hsleeps htickers⟩
  have hrefused : ∃ own, Minds own s s := hsame (.of_eq le_rfl rfl rfl) rfl rfl
  cases op with
  | createPipe label =>
    refine hsame (.of_eq ?_ ?_ ?_) rfl rfl <;> simp [step, Job.createPipe]
  | use i op =>
    simp only [step]
    split
    · exact hrefused
    · exact hsame (Job.clocks_store i _ _ s.job) rfl rfl
  | register kind link =>
    simp only [step]
    split
    · exact hsame (Job.clocks_enterTimer kind link s.job) rfl rfl
    · exact hrefused
  | wait who id deadline => exact hsame (Job.clocks_pollTimer id deadline who s.job) rfl rfl
  | cancelHandle id => exact hsame (clocks_cancelHandle id s.job) rfl rfl
  | cancel id => exact hsame (Job.clocks_cancelTimer id s.job) rfl rfl
  | sleep name ms link =>
    simp only [step]
    split
    · exact ⟨_, s.minds_dropSleep name fun z hz => ⟨ms, _, (Option.some.inj hz).symm, rfl⟩⟩
    · exact hrefused
  | pollSleep who name => exact ⟨_, minds_pollSleep h who name⟩
  | dropSleep name => exact ⟨_, s.minds_dropSleep name fun _ hnone => absurd hnone (by simp)⟩
  | interval name ms link =>
    simp only [step, startTimer_number]
    split
    · exact ⟨_, minds_interval h name ms link⟩
    · exact hrefused
  | pollTick who name => exact ⟨_, s.minds_pollTick who name⟩
  | dropTick name =>
    refine ⟨_, .ofTicker (.of_eq le_rfl rfl rfl) fun id hid => .inl ?_⟩
    cases hi : s.tickers name with
    | none => exact absurd hid (by simp [hi])
    | some i => simpa [holds, hi] using hid
  | dropInterval name =>
    exact ⟨_, .ofTicker (clocks_withoutTicker name s.job fun id hid => ⟨hid, List.not_mem_nil⟩)
      fun id hid => absurd hid List.not_mem_nil⟩
  | pass ms => exact hsame (.of_eq le_rfl rfl rfl) rfl rfl
  | report message => exact hsame (.of_eq le_rfl rfl rfl) rfl rfl
  | takeErrors => exact hsame (.of_eq le_rfl rfl rfl) rfl rfl
  | clearScreen => exact hsame (.of_eq le_rfl rfl rfl) rfl rfl
  | setShell shell => exact hsame (.of_eq le_rfl rfl rfl) rfl rfl
  | interrupt => exact hsame (Job.clocks_interrupt s.job) rfl rfl
  | interruptHard => exact hsame (Job.clocks_interruptHard s.job) rfl rfl
  | teardown => exact hsame (Job.clocks_teardown s.job) rfl rfl

theorem Timed.step (h : s.Timed) (op : SiteOp) : (s.step op).2.Timed := by
  obtain ⟨own, hminds⟩ := minds_step h op
  exact h.minds hminds

/-! ## What an operation does to pipes -/

/-- An operation takes writers from pipes at most, or somebody uses one pipe, or there is a new one. -/
inductive Piped (s : Site) : Site → Prop where
  | lost {s' : Site} (loses : Job.Loses s.job s'.job) (users : s'.users = s.users)
      (next : s'.nextWaker = s.nextWaker) : Piped s s'
  | used (i : Nat) (t : Traffic Value) (op : PipeOp Value) (found : s.traffic? i = some t) :
      Piped s (s.putTraffic i (t.step op).2.1 (t.step op).2.2)
  | created (label : String) :
      Piped s { s with
        job := (s.job.createPipe label).2
        users := Function.update s.users s.job.pipes.size {} }

theorem loses_pollTimer (id deadline : Nat) (who : Waker) (job : Job) :
    Job.Loses job (job.pollTimer id deadline who).2 := .of_eq rfl

theorem loses_startTimer (kind : TimerKind) (link : Option Nat) (job : Job) :
    Job.Loses job (job.startTimer kind link).2 := by
  obtain h | h := Job.startTimer_cases kind link job <;> rw [h] <;> exact .of_eq rfl

theorem loses_cancelHandle (id : Nat) (job : Job) : Job.Loses job (job.cancelHandle id) := by
  simp only [Job.cancelHandle]
  split
  · rw [Job.wake_eq]
    exact .of_eq rfl
  · exact .of_eq rfl

theorem loses_withoutSleep (s : Site) (name : String) : Job.Loses s.job (s.withoutSleep name) := by
  unfold withoutSleep
  split
  · exact .of_eq rfl
  · exact .foldl (fun job id => (.of_eq rfl : Job.Loses job (job.forgetTimer id))) _ _

theorem loses_withoutTicker (s : Site) (name : String) (job : Job) :
    Job.Loses job (s.withoutTicker name job) := by
  unfold withoutTicker
  split <;> exact .of_eq rfl

theorem loses_rests {r : Progress Bool × Station × Job} (h : Rests who id ms job r) :
    Job.Loses job r.2.2 := by
  cases h with
  | ended _ _ deadline _ => exact (loses_pollTimer id deadline who job).trans (.of_eq rfl)
  | waits _ deadline _ _ => exact loses_pollTimer id deadline who job

theorem loses_pollSleep (h : s.Timed) (who : Waker) (name : String) :
    Job.Loses s.job (s.pollSleep who name).2.job ∧ (s.pollSleep who name).2.users = s.users ∧
      (s.pollSleep who name).2.nextWaker = s.nextWaker := by
  have hrun : ∀ z, s.sleeps name = some z →
      Job.Loses s.job (z.station.run sleepSteps who s.job z.rest).2.2 := by
    intro z hz
    cases h.asleep name z hz with
    | waiting id ms htimers => exact loses_rests (rests_run 2 htimers)
    | fresh ms htimers =>
      by_cases hlevel : Job.hardLevel ≤ s.job.level
      · rw [show sleepSteps = 0 + 5 from rfl, run_sleep_torn 0 hlevel]
        exact .of_eq rfl
      · rw [show sleepSteps = 0 + 5 from rfl, run_sleep 0 hlevel]
        exact (loses_startTimer _ _ _).trans (loses_rests (rests_run 0 (by simp [htimers])))
  unfold pollSleep
  cases hz : s.sleeps name with
  | none => exact ⟨.of_eq rfl, rfl, rfl⟩
  | some z =>
    have hloses := hrun z hz
    dsimp only
    split <;> rename_i hr <;> rw [hr] at hloses <;> exact ⟨hloses, rfl, rfl⟩

theorem piped_step (h : s.Timed) (op : SiteOp) : Piped s (s.step op).2 := by
  have hrefused : Piped s s := .lost (.of_eq rfl) rfl rfl
  cases op with
  | createPipe label => exact .created label
  | use i op =>
    simp only [step]
    cases ht : s.traffic? i with
    | none => exact hrefused
    | some t => exact .used i t op ht
  | register kind link =>
    simp only [step]
    split
    · exact .lost (.of_eq rfl) rfl rfl
    · exact hrefused
  | wait who id deadline => exact .lost (loses_pollTimer id deadline who s.job) rfl rfl
  | cancelHandle id => exact .lost (loses_cancelHandle id s.job) rfl rfl
  | cancel id => exact .lost (Job.loses_cancelTimer id s.job) rfl rfl
  | sleep name ms link =>
    simp only [step]
    split
    · exact .lost (s.loses_withoutSleep name) rfl rfl
    · exact hrefused
  | pollSleep who name =>
    obtain ⟨hloses, husers, hnext⟩ := loses_pollSleep h who name
    exact .lost hloses husers hnext
  | dropSleep name => exact .lost (s.loses_withoutSleep name) rfl rfl
  | interval name ms link =>
    simp only [step]
    split
    · exact .lost ((loses_startTimer _ _ _).trans (s.loses_withoutTicker name _)) rfl rfl
    · exact hrefused
  | pollTick who name =>
    simp only [step, pollTick]
    split
    · exact hrefused
    · refine .lost ?_ rfl rfl
      simp only [Station.attempt, Station.tryWait]
      split <;> rename_i hpoll <;> exact hpoll ▸ loses_pollTimer _ _ _ _
  | dropTick name => exact .lost (.of_eq rfl) rfl rfl
  | dropInterval name => exact .lost (s.loses_withoutTicker name s.job) rfl rfl
  | pass ms => exact .lost (.of_eq rfl) rfl rfl
  | report message => exact .lost (.of_eq rfl) rfl rfl
  | takeErrors => exact .lost (.of_eq rfl) rfl rfl
  | clearScreen => exact .lost (.of_eq rfl) rfl rfl
  | setShell shell => exact .lost (.of_eq rfl) rfl rfl
  | interrupt => exact .lost (Job.loses_interrupt s.job) rfl rfl
  | interruptHard => exact .lost (Job.loses_interruptHard s.job) rfl rfl
  | teardown => exact .lost (Job.loses_teardown s.job) rfl rfl

namespace Piped

variable {i : Nat} {t t' : Traffic Value}

/-- A pipe loses writers at most while nobody uses it. -/
theorem traffic_of_loses (hloses : Job.Loses s.job s'.job) (husers : s'.users = s.users)
    (hnext : s'.nextWaker = s.nextWaker) (ht : s.traffic? i = some t) :
    ∃ p, t.pipe.Loses p ∧ s'.traffic? i = some { t with pipe := p } := by
  obtain ⟨p, hp, rfl⟩ := Option.map_eq_some_iff.mp ht
  obtain ⟨p', hp', hlost⟩ := hloses.pipes i p hp
  exact ⟨p', hlost, by simp only [traffic?, hp', husers, hnext, Option.map_some]⟩

/-- A pipe stays, and its users go on. -/
theorem advance (h : Piped s s') (ht : s.traffic? i = some t) :
    ∃ t', s'.traffic? i = some t' ∧ t.Proceeds t' := by
  cases h with
  | lost loses users next =>
    obtain ⟨p, hlost, ht'⟩ := traffic_of_loses loses users next ht
    exact ⟨_, ht', .lose hlost le_rfl⟩
  | used j u op found =>
    obtain ⟨q, hq, hu⟩ := Option.map_eq_some_iff.mp found
    have hlt : j < s.job.pipes.size := (Array.getElem?_eq_some_iff.mp hq).1
    have hnext : u.nextWaker = s.nextWaker := by rw [← hu]
    by_cases hij : i = j
    · subst hij
      obtain rfl := Option.some.inj (found.symm.trans ht)
      refine ⟨_, ?_, .step op⟩
      simp [traffic?, putTraffic, hlt]
    · obtain ⟨p, hp, rfl⟩ := Option.map_eq_some_iff.mp ht
      refine ⟨_, ?_, .lose .start (hnext ▸ u.next_step op)⟩
      simp [traffic?, putTraffic, Array.getElem?_setIfInBounds_ne (Ne.symm hij), hij, hp]
  | created label =>
    obtain ⟨p, hp, rfl⟩ := Option.map_eq_some_iff.mp ht
    have hlt : i < s.job.pipes.size := (Array.getElem?_eq_some_iff.mp hp).1
    refine ⟨_, ?_, .lose .start le_rfl⟩
    simp [traffic?, Job.createPipe, Array.getElem?_push, hlt.ne, hp]

theorem traffic_none_iff : s.traffic? i = none ↔ s.job.pipes.size ≤ i := by
  simp [traffic?]

/-- A pipe that was not there before is new and nobody uses it. -/
theorem held_new (h : Piped s s') (hnone : s.traffic? i = none) (ht : s'.traffic? i = some t) :
    t.Held := by
  have hge := traffic_none_iff.mp hnone
  obtain ⟨p, hp, rfl⟩ := Option.map_eq_some_iff.mp ht
  have hlt : i < s'.job.pipes.size := (Array.getElem?_eq_some_iff.mp hp).1
  cases h with
  | lost loses _ _ => exact absurd (loses.size ▸ hlt) (Nat.not_lt.mpr hge)
  | used j u op found =>
    simp only [putTraffic, Job.pipes_react, Array.size_setIfInBounds] at hlt
    exact absurd hlt (Nat.not_lt.mpr hge)
  | created label =>
    simp only [Job.createPipe, Job.pipes_react, Array.size_push] at hlt hp
    obtain rfl : i = s.job.pipes.size := by omega
    simp only [Array.getElem?_push_size, Option.some.injEq] at hp
    subst hp
    simp only [Function.update_self]
    exact (Traffic.held_create _ _).lose .start (Nat.zero_le _)

end Piped

/-! ## Every state of a site -/

/-- What holds of a site whatever has been done. -/
structure Steady (s : Site) : Prop where
  timed : s.Timed
  held : ∀ i t, s.traffic? i = some t → t.Held

theorem steady_create (shell : Shell) : (create shell).Steady where
  timed := timed_create shell
  held _ _ ht := absurd ht (by simp [create, traffic?])

theorem Steady.step (h : s.Steady) (op : SiteOp) : (s.step op).2.Steady where
  timed := h.timed.step op
  held i t' ht' := by
    have hpiped := piped_step h.timed op
    cases ht : s.traffic? i with
    | none => exact hpiped.held_new ht ht'
    | some t =>
      obtain ⟨u, hu, hproceeds⟩ := hpiped.advance ht
      obtain rfl := Option.some.inj (hu.symm.trans ht')
      exact (h.held i t ht).advance hproceeds

theorem Steady.run (h : s.Steady) (ops : List SiteOp) : (s.run ops).Steady := by
  induction ops generalizing s with
  | nil => exact h
  | cons op ops ih => exact ih (h.step op)

end Site

end Pipework
