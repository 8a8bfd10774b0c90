import Pipework.Job.Machine
import Pipework.Proofs.Job.Manners
import Pipework.Proofs.Job.Serving

/-!
# What pipes and timers leave alone

Shell, interrupt level, time, presses and the wish for a clear screen are the core of a job. Nothing
that is done to pipes and timers touches it, a teardown included; only the actions that are there to
change one of these do (`Station.core_attempt`). Level and time are where a job stands; of the
actions only an interrupt changes that (`Station.standing_attempt`).
-/

namespace Pipework

/-- The action works on pipes and timers, or only looks at the job. -/
def Action.Plain : {β : Type} → Action β → Prop
  | _, .interrupt _ | _, .setShell _ | _, .takePresses | _, .clearScreen => False
  | _, _ => True

namespace Job

/-- The core of a job: what outlasts the line, the level, the time, and what the front end is told. -/
def core (job : Job) : Shell × Nat × Nat × Nat × Bool :=
  (job.shell, job.level, job.now, job.presses, job.clears)

/-- Where a job stands: its interrupt level and its time. -/
def standing (job : Job) : Nat × Nat := (job.level, job.now)

theorem standing_eq {job job' : Job} (h : job'.core = job.core) : job'.standing = job.standing :=
  congrArg (fun core => (core.2.1, core.2.2.1)) h

section Core

variable (job : Job)

theorem core_react (events : List Pipe.Event) : (job.react events).core = job.core := by
  obtain ⟨_, _, _, _, _, h⟩ := react_eq events job
  rw [h]
  rfl

theorem core_change (i : Nat) (f : Pipe Value → Pipe Value × List Pipe.Event) :
    (job.change i f).core = job.core := by
  unfold change
  split
  · exact core_react _ _
  · rfl

theorem core_query {β : Type} (i : Nat) (absent : β)
    (f : Pipe Value → β × Pipe Value × List Pipe.Event) :
    (job.query i absent f).2.core = job.core := by
  unfold query
  split
  · exact core_react _ _
  · rfl

theorem core_wake (waker : Waker) : (job.wake waker).core = job.core := by
  rw [wake_eq]
  rfl

theorem core_cancelTimer (id : Nat) : (job.cancelTimer id).2.core = job.core := by
  obtain ⟨-, h⟩ | ⟨entry, level, subsystem, message, -, h⟩ := cancelTimer_cases id job
  · rw [h]
  · rw [h]
    obtain ⟨_, _, hdrop⟩ := dropTimer_eq id (job.log level subsystem message)
    have hdropped : ((job.log level subsystem message).dropTimer id).core = job.core := by
      rw [hdrop]
      rfl
    dsimp only
    split
    · rw [closeWrite, core_query, hdropped]
    · exact hdropped

theorem core_foldl {β : Type*} {f : Job → β → Job} (hf : ∀ job b, (f job b).core = job.core)
    (bs : List β) : (bs.foldl f job).core = job.core := by
  induction bs generalizing job with
  | nil => rfl
  | cons b bs ih => rw [List.foldl_cons, ih, hf]

theorem core_teardown : job.teardown.core = job.core := by
  unfold teardown
  dsimp only
  rw [core_foldl _ fun job i => core_change job i _, core_foldl _ fun job id => core_cancelTimer job id]
  rfl

end Core

end Job

namespace Station

variable (st : Station) (job : Job)

/-- Only the actions that are there to change the core do so. -/
theorem core_attempt {β : Type} (who : Waker) {action : Action β} (haction : action.Plain) :
    (st.attempt who action job).2.2.core = job.core := by
  cases action with
  | interrupt hard => exact haction.elim
  | setShell s => exact haction.elim
  | takePresses => exact haction.elim
  | clearScreen => exact haction.elim
  | read =>
    simp only [attempt, tryRead]
    split
    · rfl
    · split <;> simp [Job.core_query]
  | write v =>
    simp only [attempt, tryWrite]
    split
    · rfl
    · simp [Job.core_query]
  | closeInput =>
    simp only [attempt, closeInput]
    split
    · simp [Job.closeRead, Job.core_query]
    · rfl
  | closeOutput =>
    simp only [attempt, closeOutput]
    split
    · simp [Job.closeWrite, Job.core_query]
    · rfl
  | startTimer kind =>
    obtain h | h := Job.startTimer_cases kind st.output job <;> simp only [attempt, h] <;> rfl
  | awaitTimer id ms =>
    simp only [attempt, tryWait]
    split <;> rfl
  | pause ms =>
    simp only [attempt, tryWait]
    split <;> rfl
  | _ => rfl

/-- Only an interrupt changes the level, and no action the time. -/
theorem standing_attempt {β : Type} (who : Waker) {action : Action β} (haction : action.Meek) :
    (st.attempt who action job).2.2.standing = job.standing := by
  cases action with
  | interrupt hard => exact haction.elim
  | setShell s => rfl
  | takePresses => rfl
  | clearScreen => rfl
  | _ => exact Job.standing_eq (st.core_attempt job who trivial)

theorem core_tryRead (who : Waker) : (st.tryRead who job).2.2.core = job.core :=
  st.core_attempt job who (show Action.read.Plain from trivial)

theorem core_release : (st.release job).core = job.core := by
  have habandon : (st.abandonRead job).2.core = job.core := by
    unfold abandonRead
    split
    · exact Job.core_change ..
    · rfl
  have hinput : ∀ (st : Station) (job : Job), (st.closeInput job).2.core = job.core := by
    intro st job
    unfold closeInput
    split
    · exact Job.core_query ..
    · rfl
  have houtput : ∀ (st : Station) (job : Job), (st.closeOutput job).2.core = job.core := by
    intro st job
    unfold closeOutput
    split
    · exact Job.core_query ..
    · rfl
  have hforget : ∀ (st : Station) (job : Job), (st.forgetTimers job).2.core = job.core :=
    fun st job => Job.core_foldl (f := fun job id => job.forgetTimer id) job (fun _ _ => rfl) _
  unfold release
  dsimp only
  rw [houtput, hforget, hinput, habandon]

end Station

theorem Machine.core_logEnd (name : String) (outcome : Except ShellError Unit) (job : Job) :
    (Machine.logEnd name outcome job).core = job.core := by
  cases outcome with
  | ok a => rfl
  | error e =>
    simp only [Machine.logEnd]
    split <;> rfl

end Pipework
