import Mathlib
import Pipework.Job.Station

/-!
# What the events of a pipe change

The events of a pipe wake tasks, record what is reported, and mark pipelines finished; they leave
pipes and timers alone. `Job.change` and `Job.query` change one pipe and then carry out its events,
so everything about them follows from the operation on that pipe and from what is shown here.
-/

namespace Pipework

namespace Job

/-! ## Logging and reporting -/

section Records

variable (level : Verbosity) (subsystem message : String) (job : Job)

@[simp] theorem pipes_log : (job.log level subsystem message).pipes = job.pipes := rfl

@[simp] theorem timers_log : (job.log level subsystem message).timers = job.timers := rfl

@[simp] theorem running_log : (job.log level subsystem message).running = job.running := rfl

@[simp] theorem ready_log : (job.log level subsystem message).ready = job.ready := rfl

@[simp] theorem progress_log : (job.log level subsystem message).progress = job.progress := rfl

@[simp] theorem level_log : (job.log level subsystem message).level = job.level := rfl

@[simp] theorem shell_log : (job.log level subsystem message).shell = job.shell := rfl

@[simp] theorem mainWoken_log : (job.log level subsystem message).mainWoken = job.mainWoken := rfl

@[simp] theorem now_log : (job.log level subsystem message).now = job.now := rfl

@[simp] theorem pipes_report : (job.report message).pipes = job.pipes := rfl

@[simp] theorem timers_report : (job.report message).timers = job.timers := rfl

@[simp] theorem running_report : (job.report message).running = job.running := rfl

@[simp] theorem ready_report : (job.report message).ready = job.ready := rfl

@[simp] theorem progress_report : (job.report message).progress = job.progress := rfl

@[simp] theorem level_report : (job.report message).level = job.level := rfl

@[simp] theorem shell_report : (job.report message).shell = job.shell := rfl

@[simp] theorem mainWoken_report : (job.report message).mainWoken = job.mainWoken := rfl

@[simp] theorem now_report : (job.report message).now = job.now := rfl

end Records

/-! ## Waking -/

/-- The waker has been called and its owner has not run since; nobody is always awake. -/
def Woken (job : Job) : Waker → Prop
  | .main => job.mainWoken = true
  | .task id => id ∈ job.ready
  | .nobody => True

section Wake

variable (waker : Waker) (job : Job)

/-- A waker changes the ready list and the mark of the main future. -/
theorem wake_eq :
    job.wake waker = { job with ready := (job.wake waker).ready, mainWoken := (job.wake waker).mainWoken } := by
  cases waker with
  | main => rfl
  | nobody => rfl
  | task id =>
    simp only [wake]
    split <;> rfl

/-- Whoever has been woken stays so. -/
theorem woken_wake {w : Waker} (h : job.Woken w) : (job.wake waker).Woken w := by
  cases waker with
  | main =>
    cases w with
    | main => rfl
    | _ => exact h
  | nobody => exact h
  | task id =>
    simp only [wake]
    split
    · exact h
    · cases w with
      | task other => exact List.mem_append_left _ h
      | _ => exact h

/-- Whoever is called has been woken. -/
theorem woken_self : (job.wake waker).Woken waker := by
  cases waker with
  | main => rfl
  | nobody => trivial
  | task id =>
    simp only [wake]
    split
    · rename_i hid
      exact List.contains_iff_mem.mp hid
    · exact List.mem_append_right _ (List.mem_singleton_self _)

end Wake

/-! ## Events -/

/-- An event changes the ready list and what has been noted. -/
theorem reactOne_eq (event : Pipe.Event) (job : Job) :
    ∃ ready mainWoken records signals progress, job.reactOne event =
      { job with
        ready := ready, mainWoken := mainWoken, records := records, signals := signals
        progress := progress } := by
  cases event with
  | wake waker => exact ⟨_, _, _, _, _, wake_eq waker job⟩
  | _ => exact ⟨_, _, _, _, _, rfl⟩

section React

variable (events : List Pipe.Event) (job : Job)

theorem react_cons (event : Pipe.Event) :
    job.react (event :: events) = (job.reactOne event).react events := rfl

/-- Events change the ready list and what has been noted. -/
theorem react_eq :
    ∃ ready mainWoken records signals progress, job.react events =
      { job with
        ready := ready, mainWoken := mainWoken, records := records, signals := signals
        progress := progress } := by
  induction events generalizing job with
  | nil => exact ⟨_, _, _, _, _, rfl⟩
  | cons event events ih =>
    obtain ⟨_, _, _, _, _, hone⟩ := reactOne_eq event job
    obtain ⟨_, _, _, _, _, hrest⟩ := ih (job.reactOne event)
    rw [react_cons, hrest, hone]
    exact ⟨_, _, _, _, _, rfl⟩

@[simp] theorem pipes_react : (job.react events).pipes = job.pipes := by
  obtain ⟨_, _, _, _, _, h⟩ := react_eq events job
  rw [h]

@[simp] theorem timers_react : (job.react events).timers = job.timers := by
  obtain ⟨_, _, _, _, _, h⟩ := react_eq events job
  rw [h]

@[simp] theorem running_react : (job.react events).running = job.running := by
  obtain ⟨_, _, _, _, _, h⟩ := react_eq events job
  rw [h]

@[simp] theorem level_react : (job.react events).level = job.level := by
  obtain ⟨_, _, _, _, _, h⟩ := react_eq events job
  rw [h]

@[simp] theorem shell_react : (job.react events).shell = job.shell := by
  obtain ⟨_, _, _, _, _, h⟩ := react_eq events job
  rw [h]

@[simp] theorem now_react : (job.react events).now = job.now := by
  obtain ⟨_, _, _, _, _, h⟩ := react_eq events job
  rw [h]

end React

theorem woken_reactOne (event : Pipe.Event) {job : Job} {w : Waker} (h : job.Woken w) :
    (job.reactOne event).Woken w := by
  cases event with
  | wake waker => exact woken_wake waker job h
  | _ => cases w <;> exact h

/-- Whoever has been woken stays so. -/
theorem woken_react (events : List Pipe.Event) {job : Job} {w : Waker} (h : job.Woken w) :
    (job.react events).Woken w := by
  induction events generalizing job with
  | nil => exact h
  | cons event events ih => exact ih (woken_reactOne event h)

/-- Whoever is called has been woken. -/
theorem woken_of_mem {events : List Pipe.Event} {w : Waker} (h : .wake w ∈ events) (job : Job) :
    (job.react events).Woken w := by
  induction events generalizing job with
  | nil => simp at h
  | cons event events ih =>
    rcases List.mem_cons.mp h with rfl | h
    · exact woken_react events (woken_self w job)
    · exact ih h _

theorem size_progress_react (events : List Pipe.Event) (job : Job) :
    (job.react events).progress.size = job.progress.size := by
  induction events generalizing job with
  | nil => rfl
  | cons event events ih =>
    rw [react_cons, ih]
    cases event with
    | call label => exact Array.size_setIfInBounds
    | wake waker =>
      rw [reactOne, wake_eq]
    | _ => rfl

/-- A pipeline that is finished stays so. -/
theorem finished_react (events : List Pipe.Event) {job : Job} {number : Nat}
    (h : job.progress[number]? = some .finished) :
    (job.react events).progress[number]? = some .finished := by
  induction events generalizing job with
  | nil => exact h
  | cons event events ih =>
    refine ih ?_
    cases event with
    | call label =>
      obtain ⟨hlt, -⟩ := Array.getElem?_eq_some_iff.mp h
      by_cases hlabel : label = number
      · simp [reactOne, finishPipeline, log, hlabel, hlt]
      · simpa [reactOne, finishPipeline, log, Array.getElem?_setIfInBounds, hlabel] using h
    | wake waker =>
      change (job.wake waker).progress[number]? = _
      rw [wake_eq]
      exact h
    | _ => exact h

/-- A close callback marks its pipeline finished. -/
theorem finished_call {events : List Pipe.Event} {number : Nat} (h : .call number ∈ events)
    {job : Job} (hnumber : number < job.progress.size) :
    (job.react events).progress[number]? = some .finished := by
  induction events generalizing job with
  | nil => simp at h
  | cons event events ih =>
    rcases List.mem_cons.mp h with rfl | h
    · refine finished_react events ?_
      simp [reactOne, finishPipeline, log, hnumber]
    · refine ih h ?_
      rwa [show (job.reactOne event).progress.size = job.progress.size from
        size_progress_react [event] job]

/-! ## One pipe -/

/-- The job after pipe `i` has become `p`, with these events. -/
def store (i : Nat) (p : Pipe Value) (events : List Pipe.Event) (job : Job) : Job :=
  ({ job with pipes := job.pipes.setIfInBounds i p } : Job).react events

theorem change_eq {i : Nat} {p : Pipe Value} {job : Job} (hp : job.pipes[i]? = some p)
    (f : Pipe Value → Pipe Value × List Pipe.Event) :
    job.change i f = job.store i (f p).1 (f p).2 := by
  simp only [change, hp, store]

theorem query_eq {β : Type} {i : Nat} {p : Pipe Value} {job : Job} (hp : job.pipes[i]? = some p)
    (absent : β) (f : Pipe Value → β × Pipe Value × List Pipe.Event) :
    job.query i absent f = ((f p).1, job.store i (f p).2.1 (f p).2.2) := by
  simp only [query, hp, store]

theorem pipes_store (i : Nat) (p : Pipe Value) (events : List Pipe.Event) (job : Job) :
    (job.store i p events).pipes = job.pipes.setIfInBounds i p := pipes_react _ _

theorem store_self {i : Nat} {q : Pipe Value} {job : Job} (hq : job.pipes[i]? = some q)
    (p : Pipe Value) (events : List Pipe.Event) : (job.store i p events).pipes[i]? = some p := by
  have hlt : i < job.pipes.size := (Array.getElem?_eq_some_iff.mp hq).1
  simp [pipes_store, hlt]

theorem store_other {i j : Nat} (hne : j ≠ i) (p : Pipe Value) (events : List Pipe.Event)
    (job : Job) : (job.store i p events).pipes[j]? = job.pipes[j]? := by
  rw [pipes_store, Array.getElem?_setIfInBounds_ne (Ne.symm hne)]

end Job

end Pipework
