import Pipework.Job.Pipeline
import Pipework.Proofs.Job.Serving
import Pipework.Proofs.Job.Turns
import Pipework.Proofs.Pipe.Callbacks

/-!
# What becomes of a job

Whatever happens to a job comes of calls on its pipes, of new pipes and new pipelines, of marks on
its pipelines, and of changes that touch neither pipes nor signals nor pipelines (`Job.Happens`).
Only who drives a pipeline marks it and registers callbacks for it: `own` are the numbers of the
pipelines that are driven.

The second half shows that a machine does nothing else, from the action of a stage
(`Station.evolves_attempt`), which drives no pipeline, to a line that is run to its end
(`Machine.evolves_runLine`), which drives its own.
-/

namespace Pipework

namespace Job

/-- One thing that happens to a job while only the pipelines in `own` are driven. -/
inductive Happens (own : Nat → Prop) (job : Job) : Job → Prop where
  /-- A pipe is called, and the events are carried out. -/
  | call {i : Nat} {p : Pipe Value} (call : Pipe.Call Value) (pipe : job.pipes[i]? = some p)
      (label : ∀ number, call.label? = some number → own number) :
      Happens own job (job.store i (call.apply p).2.1 (call.apply p).2.2)
  /-- A pipe is created. -/
  | create (label : String) : Happens own job (job.createPipe label).2
  /-- A pipeline is numbered. -/
  | enter (state : LineState) : Happens own job { job with progress := job.progress.push state }
  /-- A pipeline is marked. -/
  | mark (number : Nat) (state : LineState) (driven : own number) :
      Happens own job { job with progress := job.progress.setIfInBounds number state }
  /-- Something else changes. -/
  | other {job' : Job} (pipes : job'.pipes = job.pipes) (signals : job'.signals = job.signals)
      (progress : job'.progress = job.progress) : Happens own job job'

/-- The second job comes of the first, while only the pipelines in `own` are driven. -/
def Evolves (own : Nat → Prop) : Job → Job → Prop := Relation.ReflTransGen (Happens own)

variable {own : Nat → Prop}

namespace Evolves

variable {job job' job'' : Job}

theorem refl : Evolves own job job := Relation.ReflTransGen.refl

theorem trans (h : Evolves own job job') (h' : Evolves own job' job'') : Evolves own job job'' :=
  Relation.ReflTransGen.trans h h'

theorem single (h : Happens own job job') : Evolves own job job' := Relation.ReflTransGen.single h

theorem other (pipes : job'.pipes = job.pipes) (signals : job'.signals = job.signals)
    (progress : job'.progress = job.progress) : Evolves own job job' :=
  .single (.other pipes signals progress)

end Evolves

variable {job : Job}

theorem evolves_change (i : Nat) {f : Pipe Value → Pipe Value × List Pipe.Event}
    (call : Pipe.Call Value) (hf : ∀ p, (call.apply p).2 = f p)
    (hlabel : ∀ number, call.label? = some number → own number) :
    Evolves own job (job.change i f) := by
  cases hp : job.pipes[i]? with
  | none => simpa [change, hp] using Evolves.refl
  | some p =>
    rw [change_eq hp, ← hf p]
    exact .single (.call call hp hlabel)

theorem evolves_query {β : Type} (i : Nat) (absent : β)
    {f : Pipe Value → β × Pipe Value × List Pipe.Event} (call : Pipe.Call Value)
    (hf : ∀ p, (call.apply p).2 = (f p).2)
    (hlabel : ∀ number, call.label? = some number → own number) :
    Evolves own job (job.query i absent f).2 := by
  cases hp : job.pipes[i]? with
  | none => simpa [query, hp] using Evolves.refl
  | some p =>
    rw [query_eq hp, ← hf p]
    exact .single (.call call hp hlabel)

theorem evolves_openRead (i : Nat) : Evolves own job (job.openRead i) :=
  evolves_change i .openRead (fun _ => rfl) nofun

theorem evolves_openWrite (i : Nat) : Evolves own job (job.openWrite i) :=
  evolves_change i .openWrite (fun _ => rfl) nofun

theorem evolves_closeRead (i : Nat) : Evolves own job (job.closeRead i).2 :=
  evolves_query i false .closeRead (fun _ => rfl) nofun

theorem evolves_closeWrite (i : Nat) : Evolves own job (job.closeWrite i).2 :=
  evolves_query i false .closeWrite (fun _ => rfl) nofun

theorem evolves_createPipe (job : Job) (label : String) :
    Evolves own job (job.createPipe label).2 := .single (.create label)

theorem evolves_log (level : Verbosity) (subsystem message : String) :
    Evolves own job (job.log level subsystem message) := .other rfl rfl rfl

theorem evolves_wake (waker : Waker) : Evolves own job (job.wake waker) := by
  rw [wake_eq]
  exact .other rfl rfl rfl

theorem evolves_foldl {β : Type*} {f : Job → β → Job} (hf : ∀ job b, Evolves own job (f job b))
    (bs : List β) (job : Job) : Evolves own job (bs.foldl f job) := by
  induction bs generalizing job with
  | nil => exact .refl
  | cons b bs ih => exact (hf job b).trans (ih (f job b))

theorem evolves_startTimer (kind : TimerKind) (link : Option Nat) :
    Evolves own job (job.startTimer kind link).2 := by
  obtain h | h := startTimer_cases kind link job <;> rw [h] <;> exact .other rfl rfl rfl

theorem evolves_cancelTimer (id : Nat) : Evolves own job (job.cancelTimer id).2 := by
  obtain ⟨-, h⟩ | ⟨entry, level, subsystem, message, -, h⟩ := cancelTimer_cases id job
  · rw [h]; exact .refl
  · rw [h]
    obtain ⟨_, _, hdrop⟩ := dropTimer_eq id (job.log level subsystem message)
    have hdropped : Evolves own job ((job.log level subsystem message).dropTimer id) := by
      rw [hdrop]
      exact .other rfl rfl rfl
    dsimp only
    split
    · exact hdropped.trans (evolves_closeWrite _)
    · exact hdropped

theorem evolves_teardown : Evolves own job job.teardown :=
  ((evolves_log _ _ _).trans (evolves_foldl (fun _ id => evolves_cancelTimer id) _ _)).trans
    (evolves_foldl (fun _ i => evolves_change i .forceClose (fun _ => rfl) nofun) _ _)

theorem evolves_interrupt : Evolves own job job.interrupt := by
  have hlevel : ∀ (job : Job) (level : Nat), Evolves own job { job with level := level } :=
    fun _ _ => .other rfl rfl rfl
  unfold interrupt
  dsimp only
  split
  · exact ((evolves_log _ _ _).trans evolves_teardown).trans (hlevel _ _)
  · exact (evolves_log _ _ _).trans (hlevel _ _)

theorem evolves_interruptHard : Evolves own job job.interruptHard := by
  have hlevel : ∀ (job : Job) (level : Nat), Evolves own job { job with level := level } :=
    fun _ _ => .other rfl rfl rfl
  exact ((evolves_log _ _ _).trans evolves_teardown).trans (hlevel _ _)

end Job

/-! ## Stations -/

namespace Station

variable {own : Nat → Prop} (st : Station) (job : Job)

theorem evolves_tryRead (who : Waker) : job.Evolves own (st.tryRead who job).2.2 := by
  simp only [tryRead]
  split
  · exact .refl
  · split <;> exact Job.evolves_query _ _ (.pollRead who st.reading) (fun _ => rfl) nofun

theorem evolves_closeInput : job.Evolves own (st.closeInput job).2 := by
  unfold closeInput
  split
  · exact Job.evolves_closeRead _
  · exact .refl

theorem evolves_closeOutput : job.Evolves own (st.closeOutput job).2 := by
  unfold closeOutput
  split
  · exact Job.evolves_closeWrite _
  · exact .refl

/-- No action of a stage drives a pipeline. -/
theorem evolves_attempt {β : Type} (who : Waker) (action : Action β) :
    job.Evolves own (st.attempt who action job).2.2 := by
  cases action with
  | read => exact st.evolves_tryRead job who
  | write v =>
    simp only [attempt, tryWrite]
    split
    · exact .refl
    · exact Job.evolves_query _ _ (.pollWrite who v) (fun _ => rfl) nofun
  | closeInput => exact st.evolves_closeInput job
  | closeOutput => exact st.evolves_closeOutput job
  | interrupt hard =>
    cases hard
    · exact Job.evolves_interrupt
    · exact Job.evolves_interruptHard
  | startTimer kind => exact Job.evolves_startTimer kind st.output
  | awaitTimer id ms =>
    simp only [attempt, tryWait]
    split <;> exact .other rfl rfl rfl
  | pause ms =>
    simp only [attempt, tryWait]
    split <;> exact .refl
  | _ => exact .other rfl rfl rfl

theorem evolves_run {α : Type} (fuel : Nat) (who : Waker) (st : Station) (job : Job)
    (b : Behavior α) : job.Evolves own (st.run fuel who job b).2.2 := by
  induction fuel generalizing st job b with
  | zero => exact .refl
  | succ fuel ih =>
    cases b with
    | loop x body next => exact ih st job _
    | act action next =>
      have hattempt : job.Evolves own _ := st.evolves_attempt job who action
      simp only [run]
      rcases ha : st.attempt who action job with ⟨_ | answer, st', job'⟩ <;> rw [ha] at hattempt
      · exact hattempt
      · exact hattempt.trans (ih st' job' _)
    | _ => exact .refl

theorem evolves_abandonRead : job.Evolves own (st.abandonRead job).2 := by
  unfold abandonRead
  split
  · exact Job.evolves_change _ (.dropRead st.reading) (fun _ => rfl) nofun
  · exact .refl

theorem evolves_tryOut {α : Type} (fuel : Nat) (b : Behavior α) :
    job.Evolves own (st.tryOut fuel job b).2.2 := by
  have hrun : job.Evolves own _ := evolves_run fuel .nobody st job b
  unfold tryOut
  generalize st.run fuel .nobody job b = ran at hrun ⊢
  obtain ⟨progress, st', job'⟩ := ran
  cases progress
  case waiting rest => exact hrun.trans (st'.evolves_abandonRead job')
  all_goals exact hrun

theorem evolves_release : job.Evolves own (st.release job) := by
  have hforget : ∀ (st : Station) (job : Job), job.Evolves own (st.forgetTimers job).2 :=
    fun st job => Job.evolves_foldl (f := fun job id => job.forgetTimer id)
      (fun _ _ => .other rfl rfl rfl) st.timers job
  unfold release
  dsimp only
  exact (((st.evolves_abandonRead job).trans (evolves_closeInput _ _)).trans (hforget _ _)).trans
    (evolves_closeOutput _ _)

end Station

/-! ## Machines -/

namespace Machine

variable {own : Nat → Prop}

theorem evolves_logEnd (name : String) (outcome : Except ShellError Unit) (job : Job) :
    job.Evolves own (logEnd name outcome job) := by
  cases outcome with
  | ok a => exact .other rfl rfl rfl
  | error e =>
    simp only [logEnd]
    split <;> exact .other rfl rfl rfl

theorem evolves_pollTask (budget id : Nat) (t : Task) (m : Machine) :
    m.job.Evolves own (m.pollTask budget id t).2.job := by
  have hrun : m.job.Evolves own _ :=
    Station.evolves_run budget (.task id) t.station m.job t.behavior
  rcases h : t.station.run budget (.task id) m.job t.behavior with ⟨progress, st, job⟩
  rw [h] at hrun
  cases progress <;> simp only [pollTask, h]
  case done => exact (hrun.trans (st.evolves_release job)).trans (evolves_logEnd t.name (.ok ()) _)
  case failed e =>
    exact (hrun.trans (st.evolves_release job)).trans (evolves_logEnd t.name (.error e) _)
  all_goals exact hrun

theorem evolves_turnFrom (fuel budget pool size polled yielded : Nat) (m : Machine) :
    m.job.Evolves own (m.turnFrom fuel budget pool size polled yielded).job := by
  induction fuel generalizing m size polled yielded with
  | zero => exact .refl
  | succ fuel ih =>
    obtain hnext | ⟨⟨id, t⟩, hnext⟩ := Option.eq_none_or_eq_some (m.nextReady? pool)
    · simp only [turnFrom, hnext]
      exact .refl
    · -- one task is polled; the turn ends there or goes on with the tasks spawned meanwhile
      rw [turnFrom_some hnext]
      have hunready : m.job.Evolves own (m.unready id).job := .other rfl rfl rfl
      have hpoll := hunready.trans (evolves_pollTask budget id t (m.unready id))
      generalize (m.unready id).pollTask budget id t = polledTask at hpoll ⊢
      obtain ⟨ended, m'⟩ := polledTask
      have henqueue : m'.job.Evolves own (m'.enqueue pool).job := .other rfl rfl rfl
      dsimp only
      split
      · exact hpoll
      · split
        · exact (hpoll.trans henqueue).trans (ih _ _ _ _)
        · generalize (if m'.job.ready.contains id then yielded + 1 else yielded) = yielded'
          split
          · exact hpoll
          · exact hpoll.trans (ih _ _ _ _)

theorem evolves_turn (fuel pool : Nat) (m : Machine) :
    m.job.Evolves own (m.turn fuel pool).job := by
  have henqueue : m.job.Evolves own (m.enqueue pool).job := .other rfl rfl rfl
  exact henqueue.trans (evolves_turnFrom _ _ _ _ _ _ _)

theorem evolves_runStalled (fuel pool : Nat) (m : Machine) :
    m.job.Evolves own (m.runStalled fuel pool).job := by
  induction fuel generalizing m with
  | zero => exact .refl
  | succ fuel ih =>
    have hturn : m.job.Evolves own _ := evolves_turn (fuel + 1) pool m
    unfold runStalled
    dsimp only
    split
    · exact hturn
    · exact hturn.trans (ih _)

theorem evolves_pollMain (fuel : Nat) (c : Collector) (job : Job) :
    job.Evolves own (pollMain fuel c job).2.2 := by
  induction fuel generalizing c job with
  | zero => exact .refl
  | succ fuel ih =>
    unfold pollMain
    split
    · exact .refl
    · dsimp only
      set st : Station := { input := some c.pipe, reading := c.reading }
      have hread : job.Evolves own _ := st.evolves_tryRead job .main
      rcases hst : st.tryRead .main job with ⟨_ | _ | v, st', job'⟩ <;> rw [hst] at hread
      · exact hread
      · exact hread
      · exact hread.trans (ih _ job')

theorem evolves_advance (moment : Nat) (m : Machine) :
    m.job.Evolves own (m.advance moment).job := by
  have hnow : m.job.Evolves own { m.job with now := max m.job.now moment } := .other rfl rfl rfl
  exact hnow.trans (Job.evolves_foldl (f := fun job (e : Nat × Task) => job.wake (.task e.1))
    (fun _ e => Job.evolves_wake (.task e.1)) _ _)

theorem evolves_passTime (pool : Nat) (m : Machine) : m.job.Evolves own (m.passTime pool).job := by
  unfold passTime
  split
  · exact .refl
  · exact evolves_advance _ m

theorem evolves_runUntil (fuel pool : Nat) (c : Collector) (m : Machine) :
    m.job.Evolves own (m.runUntil fuel pool c).2.job := by
  induction fuel generalizing m c with
  | zero => exact .refl
  | succ fuel ih =>
    have hasleep : m.job.Evolves own { m.job with mainWoken := false } := .other rfl rfl rfl
    have hread := hasleep.trans (evolves_pollMain (fuel + 1) c { m.job with mainWoken := false })
    unfold runUntil
    dsimp only
    generalize pollMain (fuel + 1) c { m.job with mainWoken := false } = read at hread ⊢
    obtain ⟨ended, c', job⟩ := read
    dsimp only at hread ⊢
    split
    · exact hread
    · have hturn := hread.trans (evolves_turn (fuel + 1) pool { m with job := job })
      generalize Machine.turn (fuel + 1) pool { m with job := job } = m' at hturn ⊢
      have htime := hturn.trans (evolves_passTime pool m')
      split
      · exact hturn
      · split
        · exact hturn.trans (ih _ _)
        · split
          · exact htime
          · exact htime.trans (ih _ _)

theorem evolves_finish {α : Type} (fuel : Nat) (st : Station) (b : Behavior α) (m : Machine) :
    m.job.Evolves own (m.finish fuel st b).2.2.job := by
  induction fuel generalizing m st b with
  | zero => exact .refl
  | succ fuel ih =>
    have hrun : m.job.Evolves own _ := Station.evolves_run (fuel + 1) .nobody st m.job b
    unfold finish
    generalize st.run (fuel + 1) .nobody m.job b = ran at hrun ⊢
    obtain ⟨progress, st', job⟩ := ran
    cases progress <;> dsimp only at hrun ⊢
    case waiting rest =>
      split
      · exact (hrun.trans (evolves_advance _ { m with job := job })).trans (ih _ _ _)
      · exact hrun
    all_goals exact hrun

theorem evolves_settle (fuel pool : Nat) (m : Machine) :
    m.job.Evolves own (m.settle fuel pool).job := by
  have hrest : m.job.Evolves own _ := evolves_runStalled fuel pool m
  unfold settle
  split
  · exact .refl
  · dsimp only
    split
    · exact hrest
    · exact (hrest.trans Job.evolves_teardown).trans
        (evolves_runStalled fuel pool ((m.runStalled fuel pool).onJob (·.teardown)))

theorem evolves_closePool (pool : Nat) (m : Machine) :
    m.job.Evolves own (m.closePool pool).job := by
  unfold closePool
  generalize m.poolTasks pool = tasks
  induction tasks generalizing m with
  | nil => exact .refl
  | cons e tasks ih =>
    have hrelease : m.job.Evolves own (e.2.station.release m.job) := Station.evolves_release _ _
    exact hrelease.trans (ih (({ m with
      job := e.2.station.release m.job, incoming := m.incoming.filter (· != e.1) } :
        Machine).removeTask e.1))

end Machine

/-! ## Pipelines -/

namespace Pipeline

variable {own : Nat → Prop}

theorem evolves_create (line : String) (m : Machine) :
    m.job.Evolves own (create line m).2.job := .single (.enter .unparsed)

theorem evolves_setState {p : Pipeline} (h : own p.number) (state : LineState) (job : Job) :
    job.Evolves own (p.setState state job) := .single (.mark p.number state h)

theorem evolves_validate {p : Pipeline} (h : own p.number) (m : Machine) :
    m.job.Evolves own (p.validate m).2.2.job := evolves_setState h _ m.job

theorem evolves_startStages (pool : Option Nat) (stages : List Stage) (previous : Option Nat)
    (m : Machine) : m.job.Evolves own (startStages pool stages previous m).2.job := by
  induction stages generalizing previous m with
  | nil => exact .refl
  | cons stage stages ih =>
    unfold startStages
    cases m.job.shell.command? stage.command with
    | none =>
      cases previous with
      | none => exact .refl
      | some i => exact Job.evolves_closeRead i
    | some spec =>
      have hlinked : m.job.Evolves own _ := (Job.evolves_createPipe m.job spec.name).trans
        (Job.evolves_openWrite (m.job.createPipe spec.name).1)
      dsimp only
      cases pool with
      | none =>
        have hreported : ∀ job : Job, ∀ message, job.Evolves own (job.report message) :=
          fun _ _ => .other rfl rfl rfl
        exact ((hlinked.trans (Station.evolves_release _ _)).trans (hreported _ _)).trans
          Job.evolves_interruptHard
      | some pool =>
        dsimp only
        refine .trans ?_ (ih _ _)
        exact hlinked.trans (Job.evolves_openRead _)

/-- Executing a pipeline drives no other. -/
theorem evolves_execute {p : Pipeline} (h : own p.number) (pool : Option Nat) (m : Machine) :
    m.job.Evolves own (p.execute pool m).2.2.job := by
  -- validated before or here, the pipeline keeps its number
  have hvalid : ∀ checked : Except (List ShellError) Unit × Pipeline × Machine,
      checked = (if p.state m.job = .validated then (.ok (), p, m) else p.validate m) →
        own checked.2.1.number ∧ m.job.Evolves own checked.2.2.job := by
    rintro checked rfl
    split
    · exact ⟨h, .refl⟩
    · exact ⟨h, evolves_validate h m⟩
  unfold execute
  generalize hchecked : (if p.state m.job = .validated then
    ((Except.ok (), p, m) : Except (List ShellError) Unit × Pipeline × Machine)
    else p.validate m) = checked
  obtain ⟨hown, hvalid⟩ := hvalid checked hchecked.symm
  obtain ⟨_ | _, ready, m'⟩ := checked
  · exact hvalid
  · have hready : m.job.Evolves own (m'.onJob fun job => ready.setState .running <|
        job.log .debug "exec"
          s!"executing {ready.line.stages.length} stage(s): {ready.line.line}").job :=
      (hvalid.trans (Job.evolves_log _ _ _)).trans (evolves_setState hown .running _)
    have hstarted := hready.trans (evolves_startStages pool ready.line.stages none _)
    dsimp only
    split <;> rename_i hstart <;> rw [hstart] at hstarted
    · exact hstarted
    · exact hstarted.trans (evolves_setState hown .finished _)
    · refine hstarted.trans (Job.evolves_change _ (.onWriteClose ready.number) (fun _ => rfl) ?_)
      rintro number hnumber
      rwa [← Option.some.inj hnumber]

end Pipeline

namespace Machine

variable {own : Nat → Prop}

theorem evolves_readPipeline {p : Pipeline} (h : own p.number) (fuel pool : Nat) (m : Machine) :
    m.job.Evolves own (m.readPipeline fuel pool p).2.job := by
  have hexecute := Pipeline.evolves_execute h (some pool) m
  unfold readPipeline
  generalize p.execute (some pool) m = executed at hexecute ⊢
  obtain ⟨_ | last, p', m'⟩ := executed
  · exact hexecute
  · exact (hexecute.trans (evolves_runUntil fuel pool { pipe := last } m')).trans
      (Job.evolves_closeRead last)

/-- A line that is run drives the pipeline that is made of it. -/
theorem evolves_runLine {m : Machine} (h : own m.job.progress.size) (fuel : Nat) (line : String) :
    m.job.Evolves own (m.runLine fuel line).2.2.job := by
  have hcreate : m.job.Evolves own (Pipeline.create line m).2.job := Pipeline.evolves_create line m
  have hnumber : own (Pipeline.create line m).1.number := h
  unfold runLine
  generalize Pipeline.create line m = created at hcreate hnumber ⊢
  obtain ⟨p, m₁⟩ := created
  have hvalidate := hcreate.trans (Pipeline.evolves_validate hnumber m₁)
  have hkept : own (p.validate m₁).2.1.number := hnumber
  dsimp only
  generalize p.validate m₁ = checked at hvalidate hkept ⊢
  obtain ⟨_ | _, p', m₂⟩ := checked
  · exact hvalidate
  · have hpool : m₂.job.Evolves own m₂.openPool.2.job := .refl
    dsimp only
    generalize m₂.openPool = opened at hpool ⊢
    obtain ⟨pool, m₃⟩ := opened
    have hread := evolves_readPipeline hkept fuel pool m₃
    dsimp only
    generalize m₃.readPipeline fuel pool p' = finished at hread ⊢
    obtain ⟨output, m₄⟩ := finished
    have htaken : (m₄.settle fuel pool).job.Evolves own (m₄.settle fuel pool).takeErrors.2.job :=
      .other rfl rfl rfl
    exact ((((hvalidate.trans hpool).trans hread).trans
      (evolves_settle fuel pool m₄)).trans htaken).trans (evolves_closePool pool _)

end Machine

end Pipework
