import Pipework.Job.Pipeline
import Pipework.Proofs.Job.Serving
import Pipework.Proofs.Job.Starting
import Pipework.Proofs.Job.Turns

/-!
# Nobody reads the log

Two jobs are *alike* if they differ in nothing but what has been logged (`Job.Alike`). Whatever is
done to the one and to the other, both answer the same and are alike afterwards:

* every operation on a job and every action of a stage (`Station.alike_attempt`), hence every run of
  a behavior (`Station.alike_run`);
* every poll, every turn and every run of a machine (`Machine.Alike.runUntil`,
  `Machine.Alike.runStalled`);
* starting two pipelines with the same stages, and reading them to their end
  (`Machine.Alike.readPipeline`, `Machine.Alike.settle`).

So a line runs the same whatever has been logged before it, and whatever is logged about it.
-/

namespace Pipework

/-! ## Jobs -/

namespace Job

/-- The jobs differ in nothing but what has been logged. -/
def Alike (a b : Job) : Prop := ∃ records, b = { a with records := records }

/-- The answers are the same, and the jobs are alike. -/
inductive AlikeWith {α : Type*} : α × Job → α × Job → Prop
  | mk (answer : α) {a b : Job} (h : a.Alike b) : AlikeWith (answer, a) (answer, b)

theorem AlikeWith.answer {α : Type*} {x y : α × Job} (h : AlikeWith x y) : y.1 = x.1 := by
  cases h
  rfl

theorem AlikeWith.job {α : Type*} {x y : α × Job} (h : AlikeWith x y) : x.2.Alike y.2 := by
  cases h
  assumption

namespace Alike

variable {a b c : Job}

theorem refl (a : Job) : Alike a a := ⟨_, rfl⟩

theorem symm (h : Alike a b) : Alike b a := by
  obtain ⟨_, rfl⟩ := h
  exact ⟨_, rfl⟩

theorem trans (h : Alike a b) (h' : Alike b c) : Alike a c := by
  obtain ⟨_, rfl⟩ := h
  obtain ⟨_, rfl⟩ := h'
  exact ⟨_, rfl⟩

theorem log (h : Alike a b) (level level' : Verbosity) (subsystem subsystem' message message' : String) :
    Alike (a.log level subsystem message) (b.log level' subsystem' message') := by
  obtain ⟨_, rfl⟩ := h
  exact ⟨_, rfl⟩

theorem report (h : Alike a b) (message : String) : Alike (a.report message) (b.report message) := by
  obtain ⟨_, rfl⟩ := h
  exact ⟨_, rfl⟩

/-! ### Pipes -/

theorem wake (h : Alike a b) (waker : Waker) : Alike (a.wake waker) (b.wake waker) := by
  obtain ⟨records, rfl⟩ := h
  cases waker with
  | task id =>
    simp only [Job.wake]
    split <;> exact ⟨_, rfl⟩
  | _ => exact ⟨_, rfl⟩

theorem foldl {β : Type*} {f : Job → β → Job} (hf : ∀ {a b} x, Alike a b → Alike (f a x) (f b x))
    (h : Alike a b) (xs : List β) : Alike (xs.foldl f a) (xs.foldl f b) := by
  induction xs generalizing a b with
  | nil => exact h
  | cons x xs ih => exact ih (hf x h)

theorem react (h : Alike a b) (events : List Pipe.Event) : Alike (a.react events) (b.react events) := by
  refine foldl (fun {a b} event h => ?_) h events
  cases event with
  | wake waker => exact h.wake waker
  | _ =>
    obtain ⟨_, rfl⟩ := h
    exact ⟨_, rfl⟩

theorem query (h : Alike a b) {β : Type} (i : Nat) (absent : β)
    (f : Pipe Value → β × Pipe Value × List Pipe.Event) :
    AlikeWith (a.query i absent f) (b.query i absent f) := by
  obtain ⟨records, rfl⟩ := h
  unfold Job.query
  dsimp only
  split
  · exact .mk _ (react ⟨records, rfl⟩ _)
  · exact .mk _ ⟨records, rfl⟩

theorem change (h : Alike a b) (i : Nat) (f : Pipe Value → Pipe Value × List Pipe.Event) :
    Alike (a.change i f) (b.change i f) := by
  obtain ⟨records, rfl⟩ := h
  unfold Job.change
  dsimp only
  split
  · exact react ⟨records, rfl⟩ _
  · exact ⟨records, rfl⟩

theorem createPipe (h : Alike a b) (label : String) :
    AlikeWith (a.createPipe label) (b.createPipe label) := by
  obtain ⟨records, rfl⟩ := h
  exact .mk _ (react ⟨records, rfl⟩ _)

/-! ### Timers -/

theorem startTimer (h : Alike a b) (kind : TimerKind) (link : Option Nat) :
    AlikeWith (a.startTimer kind link) (b.startTimer kind link) := by
  obtain ⟨records, rfl⟩ := h
  unfold Job.startTimer Job.enterTimer
  dsimp only [Job.log]
  split
  · exact .mk _ ⟨_, rfl⟩
  · exact .mk _ ⟨_, rfl⟩

theorem forgetTimer (h : Alike a b) (id : Nat) : Alike (a.forgetTimer id) (b.forgetTimer id) := by
  obtain ⟨_, rfl⟩ := h
  exact ⟨_, rfl⟩

theorem pollTimer (h : Alike a b) (id deadline : Nat) (waker : Waker) :
    AlikeWith (a.pollTimer id deadline waker) (b.pollTimer id deadline waker) := by
  obtain ⟨_, rfl⟩ := h
  exact .mk _ ⟨_, rfl⟩

theorem dropTimer (h : Alike a b) (id : Nat) : Alike (a.dropTimer id) (b.dropTimer id) := by
  obtain ⟨records, rfl⟩ := h
  cases hwaker : (a.timer id).cancel.2 <;>
    have hwaker' : (({ a with records := records } : Job).timer id).cancel.2 = _ := hwaker <;>
    simp only [Job.dropTimer, hwaker, hwaker']
  · exact ⟨records, rfl⟩
  · exact wake ⟨records, rfl⟩ _

theorem cancelTimer (h : Alike a b) (id : Nat) :
    AlikeWith (a.cancelTimer id) (b.cancelTimer id) := by
  have hrunning : b.running = a.running := by
    obtain ⟨_, rfl⟩ := h
    rfl
  obtain ⟨hnone, ha⟩ | ⟨entry, level, subsystem, message, hentry, ha⟩ := cancelTimer_cases id a <;>
    obtain ⟨hnone', hb⟩ | ⟨entry', level', subsystem', message', hentry', hb⟩ :=
      cancelTimer_cases id b <;> rw [ha, hb]
  · exact .mk _ h
  · simp [hrunning, hnone] at hentry'
  · simp [← hrunning, hnone'] at hentry
  · obtain rfl : entry = entry' := by simpa [hrunning, hentry] using hentry'
    have hdropped :=
      (h.log level level' subsystem subsystem' message message').dropTimer id
    cases entry.link with
    | none => exact .mk _ hdropped
    | some i => exact .mk _ (hdropped.query i false _).job

theorem teardown (h : Alike a b) : Alike a.teardown b.teardown := by
  have hrunning : b.running = a.running := by
    obtain ⟨_, rfl⟩ := h
    rfl
  have hcancelled := foldl (f := fun job id => (job.cancelTimer id).2)
    (fun id h => (h.cancelTimer id).job)
    (h.log .debug .debug "exec" "exec"
      s!"teardown: {(a.running.map (·.1)).length} timer(s), {a.pipes.size} pipe(s)"
      s!"teardown: {(b.running.map (·.1)).length} timer(s), {b.pipes.size} pipe(s)")
    (a.running.map (·.1))
  unfold Job.teardown
  dsimp only
  rw [hrunning] at hcancelled ⊢
  obtain ⟨_, hsame⟩ := hcancelled
  rw [hsame]
  exact foldl (fun i h => h.change i _) ⟨_, rfl⟩ _

theorem interrupt (h : Alike a b) : Alike a.interrupt b.interrupt := by
  have hlevel : b.level = a.level := by
    obtain ⟨_, rfl⟩ := h
    rfl
  have hlogged := h.log .debug .debug "exec" "exec" s!"interrupt: level={a.level}"
    s!"interrupt: level={b.level}"
  unfold Job.interrupt
  dsimp only
  rw [hlevel] at hlogged ⊢
  split
  · obtain ⟨_, hsame⟩ := hlogged.teardown
    rw [hsame]
    exact ⟨_, rfl⟩
  · obtain ⟨_, hsame⟩ := hlogged
    rw [hsame]
    exact ⟨_, rfl⟩

theorem interruptHard (h : Alike a b) : Alike a.interruptHard b.interruptHard := by
  have hlevel : b.level = a.level := by
    obtain ⟨_, rfl⟩ := h
    rfl
  have hlogged := h.log .debug .debug "exec" "exec" s!"hard interrupt: level={a.level}"
    s!"hard interrupt: level={b.level}"
  unfold Job.interruptHard
  dsimp only
  rw [hlevel] at hlogged ⊢
  obtain ⟨_, hsame⟩ := hlogged.teardown
  rw [hsame]
  exact ⟨_, rfl⟩

end Alike

end Job

/-! ## Stations -/

namespace Station

open Job

variable {a b : Job} (st : Station) (who : Waker)

/-- The answers and the stations are the same, and the jobs are alike. -/
inductive AlikeWith {α : Type*} : α × Station × Job → α × Station × Job → Prop
  | mk (answer : α) (st : Station) {a b : Job} (h : a.Alike b) :
      AlikeWith (answer, st, a) (answer, st, b)

theorem alike_closeInput (h : a.Alike b) : Job.AlikeWith (st.closeInput a) (st.closeInput b) := by
  unfold closeInput
  split
  · exact .mk _ (h.query ..).job
  · exact .mk _ h

theorem alike_closeOutput (h : a.Alike b) : Job.AlikeWith (st.closeOutput a) (st.closeOutput b) := by
  unfold closeOutput
  split
  · exact .mk _ (h.query ..).job
  · exact .mk _ h

theorem alike_abandonRead (h : a.Alike b) : Job.AlikeWith (st.abandonRead a) (st.abandonRead b) := by
  unfold abandonRead
  split
  · exact .mk _ (h.change ..)
  · exact .mk _ h

theorem alike_forgetTimers (h : a.Alike b) :
    Job.AlikeWith (st.forgetTimers a) (st.forgetTimers b) :=
  .mk _ (Alike.foldl (fun id h => h.forgetTimer id) h _)

theorem alike_release (h : a.Alike b) : (st.release a).Alike (st.release b) := by
  have habandoned := st.alike_abandonRead h
  unfold release
  generalize st.abandonRead a = x at habandoned ⊢
  generalize st.abandonRead b = y at habandoned ⊢
  obtain ⟨st, h⟩ := habandoned
  dsimp only
  have hclosed := st.alike_closeInput h
  generalize st.closeInput _ = x at hclosed ⊢
  generalize st.closeInput _ = y at hclosed ⊢
  obtain ⟨st, h⟩ := hclosed
  dsimp only
  have hforgotten := st.alike_forgetTimers h
  generalize st.forgetTimers _ = x at hforgotten ⊢
  generalize st.forgetTimers _ = y at hforgotten ⊢
  obtain ⟨st, h⟩ := hforgotten
  exact (st.alike_closeOutput h).job

theorem alike_tryRead (h : a.Alike b) : AlikeWith (st.tryRead who a) (st.tryRead who b) := by
  unfold tryRead
  split
  · exact .mk _ _ h
  · rename_i i _
    generalize hx : a.query i (Poll.ready none, ReadState.finished) _ = x
    generalize hy : b.query i (Poll.ready none, ReadState.finished) _ = y
    have hread : Job.AlikeWith x y := hx ▸ hy ▸ h.query i _ _
    obtain ⟨⟨answer, reading⟩, hjob⟩ := hread
    cases answer <;> exact .mk _ _ hjob

theorem alike_tryWrite (h : a.Alike b) (v : Value) :
    AlikeWith (st.tryWrite who v a) (st.tryWrite who v b) := by
  unfold tryWrite
  split
  · exact .mk _ _ h
  · rename_i i _
    have hwrite := h.query i (.ready (.error (.alreadyWriteClosed ""))) (·.pollWrite who v)
    generalize a.query i _ _ = x at hwrite ⊢
    generalize b.query i _ _ = y at hwrite ⊢
    obtain ⟨answer, hjob⟩ := hwrite
    exact .mk _ _ hjob

theorem alike_tryWait (h : a.Alike b) {β : Type} (ms : Nat) {f : Nat → Job → Poll β × Job}
    (hf : ∀ deadline, Job.AlikeWith (f deadline a) (f deadline b)) :
    AlikeWith (st.tryWait ms f a) (st.tryWait ms f b) := by
  have hnow : b.now = a.now := by
    obtain ⟨_, rfl⟩ := h
    rfl
  have hwait := hf (st.deadline.getD (Timer.deadline a.now ms))
  unfold tryWait
  rw [hnow]
  dsimp only
  generalize f _ a = x at hwait ⊢
  generalize f _ b = y at hwait ⊢
  obtain ⟨answer, hjob⟩ := hwait
  cases answer <;> exact .mk _ _ hjob

/-- The action is answered the same by both. -/
theorem alike_attempt (h : a.Alike b) {β : Type} (action : Action β) :
    AlikeWith (st.attempt who action a) (st.attempt who action b) := by
  cases action with
  | read => exact st.alike_tryRead who h
  | write v => exact st.alike_tryWrite who h v
  | closeInput =>
    have hclosed := st.alike_closeInput h
    simp only [attempt]
    generalize st.closeInput a = x at hclosed ⊢
    generalize st.closeInput b = y at hclosed ⊢
    obtain ⟨st', hjob⟩ := hclosed
    exact .mk _ _ hjob
  | closeOutput =>
    have hclosed := st.alike_closeOutput h
    simp only [attempt]
    generalize st.closeOutput a = x at hclosed ⊢
    generalize st.closeOutput b = y at hclosed ⊢
    obtain ⟨st', hjob⟩ := hclosed
    exact .mk _ _ hjob
  | startTimer kind =>
    have hstarted := h.startTimer kind st.output
    simp only [attempt]
    generalize a.startTimer kind st.output = x at hstarted ⊢
    generalize b.startTimer kind st.output = y at hstarted ⊢
    obtain ⟨id, hjob⟩ := hstarted
    exact .mk _ _ hjob
  | interrupt hard =>
    cases hard with
    | true => exact .mk _ _ h.interruptHard
    | false => exact .mk _ _ h.interrupt
  | awaitTimer id ms => exact st.alike_tryWait h ms fun deadline => h.pollTimer id deadline who
  | pause ms =>
    refine st.alike_tryWait h ms (f := fun deadline job =>
      (if deadline ≤ job.now then .ready () else .pending, job)) fun deadline => ?_
    obtain ⟨records, rfl⟩ := h
    exact .mk _ ⟨records, rfl⟩
  | log level subsystem message => exact .mk _ _ (h.log ..)
  | report message => exact .mk _ _ (h.report message)
  | _ =>
    obtain ⟨_, rfl⟩ := h
    exact .mk _ _ ⟨_, rfl⟩

/-- A behavior comes to the same by both. -/
theorem alike_run (h : a.Alike b) {α : Type} (fuel : Nat) (behavior : Behavior α) :
    AlikeWith (st.run fuel who a behavior) (st.run fuel who b behavior) := by
  induction fuel generalizing st a b behavior with
  | zero => exact .mk _ _ h
  | succ fuel ih =>
    cases behavior with
    | result r => exact .mk _ _ h
    | fail e => exact .mk _ _ h
    | crash => exact .mk _ _ h
    | loop s body next => exact ih st h _
    | act action next =>
      have haction := st.alike_attempt who h action
      simp only [run]
      generalize st.attempt who action a = x at haction ⊢
      generalize st.attempt who action b = y at haction ⊢
      obtain ⟨answer, st', hjob⟩ := haction
      cases answer with
      | pending => exact .mk _ _ hjob
      | ready answer => exact ih st' hjob _

end Station

/-! ## Machines -/

namespace Machine

/-- The machines differ in nothing but what has been logged. -/
def Alike (a b : Machine) : Prop := ∃ job, a.job.Alike job ∧ b = { a with job := job }

/-- The answers are the same, and the machines are alike. -/
inductive AlikeWith {α : Type*} : α × Machine → α × Machine → Prop
  | mk (answer : α) {a b : Machine} (h : a.Alike b) : AlikeWith (answer, a) (answer, b)

theorem AlikeWith.machine {α : Type*} {x y : α × Machine} (h : AlikeWith x y) : x.2.Alike y.2 := by
  cases h
  assumption

theorem alike_logEnd {a b : Job} (h : a.Alike b) (name : String) (outcome : Except ShellError Unit) :
    (logEnd name outcome a).Alike (logEnd name outcome b) := by
  cases outcome with
  | ok _ => exact h.log ..
  | error e =>
    have hlevel : b.level = a.level := by
      obtain ⟨_, rfl⟩ := h
      rfl
    simp only [logEnd, hlevel]
    split
    · exact h.log ..
    · exact (h.log ..).report e.message

namespace Alike

variable {a b : Machine}

theorem onJob (h : Alike a b) {f g : Job → Job} (hf : ∀ {a b}, a.Alike b → (f a).Alike (g b)) :
    Alike (a.onJob f) (b.onJob g) := by
  obtain ⟨job, hjob, rfl⟩ := h
  exact ⟨_, hf hjob, rfl⟩

/-- A record of the job that says nothing of the log. -/
theorem field {α : Type*} {f : Job → α} (h : Alike a b)
    (hf : ∀ job records, f { job with records := records } = f job) : f b.job = f a.job := by
  obtain ⟨_, ⟨records, rfl⟩, rfl⟩ := h
  exact hf a.job records

theorem halt (h : Alike a b) : b.halt = a.halt := by
  obtain ⟨_, -, rfl⟩ := h
  rfl

theorem stop (h : Alike a b) (halt : Option Halt) :
    Alike { a with halt := halt } { b with halt := halt } := by
  obtain ⟨job, hjob, rfl⟩ := h
  exact ⟨job, hjob, rfl⟩

/-! ### Turns -/

theorem pollTask (h : Alike a b) (fuel id : Nat) (t : Task) :
    AlikeWith (a.pollTask fuel id t) (b.pollTask fuel id t) := by
  obtain ⟨job, hjob, rfl⟩ := h
  have hrun := t.station.alike_run (.task id) hjob fuel t.behavior
  unfold Machine.pollTask
  dsimp only
  generalize t.station.run fuel (.task id) a.job t.behavior = x at hrun ⊢
  generalize t.station.run fuel (.task id) job t.behavior = y at hrun ⊢
  obtain ⟨progress, st, hjob⟩ := hrun
  have hended : ∀ outcome, Alike (a.endTask id t.name st outcome _) (Machine.endTask ..) :=
    fun outcome => ⟨_, alike_logEnd (st.alike_release hjob) t.name outcome, rfl⟩
  cases progress with
  | done => exact .mk _ (hended _)
  | failed e => exact .mk _ (hended _)
  | waiting rest => exact .mk _ ⟨_, hjob, rfl⟩
  | crashed => exact .mk _ ⟨_, hjob, rfl⟩
  | unfinished rest => exact .mk _ ⟨_, hjob, rfl⟩

theorem enqueue (h : Alike a b) (pool : Nat) : Alike (a.enqueue pool) (b.enqueue pool) := by
  obtain ⟨_, ⟨records, rfl⟩, rfl⟩ := h
  exact ⟨_, ⟨records, rfl⟩, rfl⟩

theorem unready (h : Alike a b) (id : Nat) : Alike (a.unready id) (b.unready id) := by
  obtain ⟨_, ⟨records, rfl⟩, rfl⟩ := h
  exact ⟨_, ⟨records, rfl⟩, rfl⟩

theorem nextReady? (h : Alike a b) (pool : Nat) : b.nextReady? pool = a.nextReady? pool := by
  obtain ⟨_, ⟨records, rfl⟩, rfl⟩ := h
  rfl

theorem poolTasks (h : Alike a b) (pool : Nat) : b.poolTasks pool = a.poolTasks pool := by
  obtain ⟨_, -, rfl⟩ := h
  rfl

theorem ready (h : Alike a b) : b.job.ready = a.job.ready := h.field fun _ _ => rfl

theorem turnFrom (h : Alike a b) (fuel budget pool size polled yielded : Nat) :
    Alike (a.turnFrom fuel budget pool size polled yielded)
      (b.turnFrom fuel budget pool size polled yielded) := by
  induction fuel generalizing a b size polled yielded with
  | zero => exact h.stop _
  | succ fuel ih =>
    have hnext' := h.nextReady? pool
    obtain hnext | ⟨⟨id, t⟩, hnext⟩ := Option.eq_none_or_eq_some (a.nextReady? pool) <;>
      rw [hnext] at hnext'
    · simpa only [Machine.turnFrom, hnext, hnext'] using h
    · have hpolled := (h.unready id).pollTask budget id t
      rw [turnFrom_some hnext, turnFrom_some hnext']
      generalize (a.unready id).pollTask budget id t = x at hpolled ⊢
      generalize (b.unready id).pollTask budget id t = y at hpolled ⊢
      obtain @⟨ended, m, m', h⟩ := hpolled
      dsimp only
      rw [h.halt, h.ready, (h.enqueue pool).poolTasks pool]
      split
      · exact h
      · split
        · exact ih (h.enqueue pool) ..
        · generalize (if m.job.ready.contains id then yielded + 1 else yielded) = yielded'
          split
          · exact h
          · exact ih h ..

theorem turn (h : Alike a b) (fuel pool : Nat) : Alike (a.turn fuel pool) (b.turn fuel pool) := by
  unfold Machine.turn
  dsimp only
  rw [(h.enqueue pool).poolTasks pool]
  exact (h.enqueue pool).turnFrom ..

theorem runStalled (h : Alike a b) (fuel pool : Nat) :
    Alike (a.runStalled fuel pool) (b.runStalled fuel pool) := by
  induction fuel generalizing a b with
  | zero => exact h.stop _
  | succ fuel ih =>
    have hturn := h.turn (fuel + 1) pool
    unfold Machine.runStalled
    dsimp only
    rw [hturn.halt, hturn.nextReady? pool]
    split
    · exact hturn
    · exact ih hturn

/-! ### Reading the last pipe -/

theorem pollMain {a b : Job} (h : a.Alike b) (fuel : Nat) (c : Collector) :
    ∃ ended c' a' b', Machine.pollMain fuel c a = (ended, c', a') ∧
      Machine.pollMain fuel c b = (ended, c', b') ∧ a'.Alike b' := by
  induction fuel generalizing a b c with
  | zero => exact ⟨_, _, _, _, rfl, rfl, h⟩
  | succ fuel ih =>
    unfold Machine.pollMain
    split
    · exact ⟨_, _, _, _, rfl, rfl, h⟩
    · have hread := Station.alike_tryRead
        { input := some c.pipe, reading := c.reading } .main h
      dsimp only
      generalize Station.tryRead .main _ a = x at hread ⊢
      generalize Station.tryRead .main _ b = y at hread ⊢
      obtain ⟨answer, st, hjob⟩ := hread
      cases answer with
      | pending => exact ⟨_, _, _, _, rfl, rfl, hjob⟩
      | ready item =>
        cases item with
        | none => exact ⟨_, _, _, _, rfl, rfl, hjob⟩
        | some v => exact ih hjob _

theorem advance (h : Alike a b) (moment : Nat) :
    Alike (a.advance moment) (b.advance moment) := by
  obtain ⟨_, ⟨records, rfl⟩, rfl⟩ := h
  have hwoken := Job.Alike.foldl (f := fun job (e : Nat × Task) => job.wake (.task e.1))
    (fun e h => h.wake (.task e.1)) (a := { a.job with now := max a.job.now moment })
    ⟨records, rfl⟩ (a.tasks.filter fun e => e.2.station.deadline.any (· ≤ max a.job.now moment))
  exact ⟨_, hwoken, rfl⟩

theorem passTime (h : Alike a b) (pool : Nat) : Alike (a.passTime pool) (b.passTime pool) := by
  unfold Machine.passTime
  rw [h.poolTasks pool]
  split
  · exact h.stop _
  · exact h.advance _

/-- The main future reads the same from both. -/
theorem runUntil (h : Alike a b) (fuel pool : Nat) (c : Collector) :
    AlikeWith (a.runUntil fuel pool c) (b.runUntil fuel pool c) := by
  induction fuel generalizing a b c with
  | zero => exact .mk _ (h.stop _)
  | succ fuel ih =>
    have hasleep : ({ a.job with mainWoken := false } : Job).Alike
        { b.job with mainWoken := false } := by
      obtain ⟨_, ⟨records, rfl⟩, rfl⟩ := h
      exact ⟨records, rfl⟩
    obtain ⟨ended, c', a', b', ha, hb, hjob⟩ := pollMain hasleep (fuel + 1) c
    have hpolled : Alike { a with job := a' } { b with job := b' } := by
      obtain ⟨_, -, rfl⟩ := h
      exact ⟨b', hjob, rfl⟩
    have hturn := hpolled.turn (fuel + 1) pool
    have htime := hturn.passTime pool
    unfold Machine.runUntil
    simp only [ha, hb]
    rw [hturn.halt, hturn.nextReady? pool, htime.halt,
      hturn.field (f := (·.mainWoken)) fun _ _ => rfl]
    split
    · exact .mk _ hpolled
    · split
      · exact .mk _ hturn
      · split
        · exact ih hturn c'
        · split
          · exact .mk _ htime
          · exact ih htime c'

/-- Both come to rest alike. -/
theorem settle (h : Alike a b) (fuel pool : Nat) :
    Alike (a.settle fuel pool) (b.settle fuel pool) := by
  have hrested := h.runStalled fuel pool
  unfold Machine.settle
  dsimp only
  rw [h.halt, hrested.halt]
  split
  · exact h
  · split
    · exact hrested
    · exact (hrested.onJob Job.Alike.teardown).runStalled fuel pool

end Alike

end Machine

/-! ## Pipelines -/

namespace Pipeline

variable {a b : Machine}

theorem alike_startStages (h : a.Alike b) (pool : Option Nat) (stages : List Stage)
    (previous : Option Nat) :
    Machine.AlikeWith (startStages pool stages previous a) (startStages pool stages previous b) := by
  induction stages generalizing a b previous with
  | nil => exact .mk _ h
  | cons stage stages ih =>
    obtain ⟨job, hjob, rfl⟩ := h
    have hshell : job.shell = a.job.shell := by
      obtain ⟨_, rfl⟩ := hjob
      rfl
    unfold startStages
    dsimp only
    rw [hshell]
    split
    · refine .mk _ ⟨_, ?_, rfl⟩
      cases previous with
      | none => exact hjob
      | some i => exact (hjob.query i false _).job
    · rename_i spec _
      have hcreated := hjob.createPipe spec.name
      generalize a.job.createPipe spec.name = x at hcreated ⊢
      generalize job.createPipe spec.name = y at hcreated ⊢
      obtain ⟨pipe, hcreated⟩ := hcreated
      have hopened := hcreated.change pipe (·.openWrite)
      cases pool with
      | none =>
        exact .mk _ ⟨_, ((Station.alike_release _ hopened).report _).interruptHard, rfl⟩
      | some pool => exact ih ⟨_, hopened.change pipe (·.openRead), rfl⟩ _

/-- The pipelines run the same stages under the same number. -/
structure SameStages (p q : Pipeline) : Prop where
  stages : q.line.stages = p.line.stages
  number : q.number = p.number

theorem SameStages.setState {p q : Pipeline} (hpq : p.SameStages q) {a b : Job} (h : a.Alike b)
    (state : LineState) : (p.setState state a).Alike (q.setState state b) := by
  obtain ⟨_, rfl⟩ := h
  exact ⟨_, by rw [Pipeline.setState, Pipeline.setState, hpq.number]⟩

/-- Two pipelines with the same stages are read the same, once they have been validated. -/
theorem alike_readPipeline {p q : Pipeline} (h : a.Alike b) (hpq : p.SameStages q)
    (hstate : p.state a.job = .validated) (fuel pool : Nat) :
    Machine.AlikeWith (a.readPipeline fuel pool p) (b.readPipeline fuel pool q) := by
  have hstate' : q.state b.job = .validated := by
    rw [← hstate, state, state, hpq.number, h.field (f := (·.progress)) fun _ _ => rfl]
  have hannounced : (p.announce a).Alike (q.announce b) :=
    h.onJob fun h => hpq.setState (h.log ..) .running
  have hstarted := alike_startStages hannounced (some pool) p.line.stages none
  rw [readPipeline_validated hstate, readPipeline_validated hstate', hpq.stages]
  generalize startStages _ _ _ (p.announce a) = x at hstarted ⊢
  generalize startStages _ _ _ (q.announce b) = y at hstarted ⊢
  obtain ⟨answer, h⟩ := hstarted
  rcases answer with e | _ | last
  · exact .mk _ h
  · exact .mk _ (h.onJob fun h => hpq.setState h .finished)
  · have hread := (h.onJob fun h => h.change last (·.addWriteCallback p.number)).runUntil fuel pool
      { pipe := last }
    dsimp only
    rw [hpq.number]
    generalize Machine.runUntil _ _ _ _ = x at hread ⊢
    generalize Machine.runUntil _ _ _ _ = y at hread ⊢
    obtain ⟨items, h⟩ := hread
    exact .mk _ (h.onJob fun h => (h.query last false _).job)

end Pipeline

end Pipework
