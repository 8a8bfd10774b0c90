import Pipework.Proofs.Job.Actions

/-!
# Tearing a line down

A teardown takes every timer out of use and closes every pipe on both sides (`Job.Shut`). Whatever
is done afterwards leaves it so, as long as nobody starts a timer: an action that starts none takes
timers out of use at most (`Station.running_attempt`), and no pipe opens again.
-/

namespace Pipework

/-- Both sides have closed. -/
def Pipe.Closed {α : Type} (p : Pipe α) : Prop := p.readClosed = true ∧ p.writeClosed = true

theorem Pipe.closed_forceClose {α : Type} (p : Pipe α) : p.forceClose.1.Closed :=
  ⟨p.readClosed_forceClose, p.writeClosed_forceClose⟩

theorem Pipe.Serves.closed {α : Type} {own : Option Nat} {p p' : Pipe α} {events : List Pipe.Event}
    (h : Pipe.Serves own p p' events) (hp : p.Closed) : p'.Closed :=
  ⟨h.readClosed hp.1, h.writeClosed hp.2⟩

namespace Job

variable {job job' : Job}

/-! ## Timers in use -/

section Running

variable (job : Job)

theorem running_change (i : Nat) (f : Pipe Value → Pipe Value × List Pipe.Event) :
    (job.change i f).running = job.running := by
  unfold change
  split
  · exact running_react _ _
  · rfl

theorem running_query {β : Type} (i : Nat) (absent : β)
    (f : Pipe Value → β × Pipe Value × List Pipe.Event) :
    (job.query i absent f).2.running = job.running := by
  unfold query
  split
  · exact running_react _ _
  · rfl

/-- A timer that is cancelled goes out of use, and no other does. -/
theorem running_cancelTimer (id : Nat) :
    (job.cancelTimer id).2.running = job.running.filter (·.1 != id) := by
  obtain ⟨hnone, h⟩ | ⟨entry, level, subsystem, message, -, h⟩ := cancelTimer_cases id job
  · rw [h]
    refine (List.filter_eq_self.mpr fun e he => ?_).symm
    simpa using List.find?_eq_none.mp hnone e he
  · rw [h]
    obtain ⟨_, _, hdrop⟩ := dropTimer_eq id (job.log level subsystem message)
    have hrunning : ((job.log level subsystem message).dropTimer id).running =
        job.running.filter (·.1 != id) := by rw [hdrop]; rfl
    dsimp only
    split
    · rw [closeWrite, running_query, hrunning]
    · exact hrunning

theorem running_cancelTimers (ids : List Nat) :
    (ids.foldl (fun job id => (job.cancelTimer id).2) job).running =
      job.running.filter (·.1 ∉ ids) := by
  induction ids generalizing job with
  | nil => simp
  | cons id ids ih =>
    rw [List.foldl_cons, ih, running_cancelTimer, List.filter_filter]
    refine List.filter_congr fun e _ => ?_
    by_cases he : e.1 = id <;> simp [he]

theorem running_forceCloses (pipes : List Nat) :
    (pipes.foldl (fun job i => job.change i (·.forceClose)) job).running = job.running := by
  induction pipes generalizing job with
  | nil => rfl
  | cons i pipes ih => rw [List.foldl_cons, ih, running_change]

/-- After a teardown no timer is in use. -/
theorem running_teardown : job.teardown.running = [] := by
  unfold teardown
  dsimp only
  rw [running_forceCloses, running_cancelTimers]
  refine List.filter_eq_nil_iff.mpr fun e he => ?_
  simpa using ⟨e.2, he⟩

theorem running_interrupt : job.interrupt.running ⊆ job.running := by
  unfold interrupt
  dsimp only
  split
  · exact (running_teardown _).symm ▸ List.nil_subset _
  · exact List.Subset.refl _

theorem running_interruptHard : job.interruptHard.running ⊆ job.running :=
  (running_teardown (job.log _ _ _)).symm ▸ List.nil_subset _

end Running

/-! ## Everything shut -/

/-- No timer is in use, and these pipes have closed on both sides. -/
structure Shut (first last : Nat) (job : Job) : Prop where
  running : job.running = []
  pipes : ∀ i, first ≤ i → i < last → ∀ p, job.pipes[i]? = some p → p.Closed

/-- A pipe that is closed stays so. -/
theorem Serves.closed {own : Nat → Option Nat} {mine : Nat → Prop} (hserves : Serves own mine job job')
    {i : Nat} (h : ∀ p, job.pipes[i]? = some p → p.Closed) (p' : Pipe Value)
    (hp' : job'.pipes[i]? = some p') : p'.Closed := by
  have hlt : i < job.pipes.size := hserves.size ▸ (Array.getElem?_eq_some_iff.mp hp').1
  obtain ⟨q, events, hq, -, hpipe, -⟩ := hserves.pipes i _ (Array.getElem?_eq_getElem hlt)
  obtain rfl : q = p' := Option.some.inj (hq.symm.trans hp')
  exact hpipe.closed (h _ (Array.getElem?_eq_getElem hlt))

/-- What is shut stays shut while no timer is started. -/
theorem Shut.serve {own : Nat → Option Nat} {mine : Nat → Prop} {first last : Nat}
    (h : job.Shut first last) (hserves : Serves own mine job job')
    (hrunning : job'.running ⊆ job.running) : job'.Shut first last where
  running := List.subset_nil.mp (h.running ▸ hrunning)
  pipes i hfirst hlast := hserves.closed (h.pipes i hfirst hlast)

/-- A pipe that is closed by force is closed, and those closed before stay so. -/
theorem closed_forceCloses (pipes : List Nat) (job : Job) {i : Nat} {p : Pipe Value}
    (hp : (pipes.foldl (fun job i => job.change i (·.forceClose)) job).pipes[i]? = some p)
    (hi : i ∈ pipes ∨ ∃ q, job.pipes[i]? = some q ∧ q.Closed) : p.Closed := by
  induction pipes generalizing job with
  | nil =>
    obtain ⟨q, hq, hclosed⟩ := hi.resolve_left List.not_mem_nil
    obtain rfl : q = p := Option.some.inj (hq.symm.trans hp)
    exact hclosed
  | cons j pipes ih =>
    refine ih (job.change j (·.forceClose)) hp ?_
    by_cases hmem : i ∈ pipes
    · exact .inl hmem
    refine .inr ?_
    have hserves : Serves (fun _ => none) (fun _ => False) job (job.change j (·.forceClose)) :=
      serves_forceClose j
    rcases hi with hi | ⟨q, hq, hclosed⟩
    · obtain rfl : i = j := (List.mem_cons.mp hi).resolve_right hmem
      -- the pipe is there, since it is there at the end
      have hlater : Serves (fun _ => none) (fun _ => False) (job.change i (·.forceClose))
          (pipes.foldl (fun job i => job.change i (·.forceClose)) (job.change i (·.forceClose))) :=
        serves_foldl (fun _ i => serves_forceClose i) pipes _
      have hlt : i < job.pipes.size := by
        rw [← hserves.size, ← hlater.size]
        exact (Array.getElem?_eq_some_iff.mp hp).1
      have hq := Array.getElem?_eq_getElem hlt
      refine ⟨_, ?_, Pipe.closed_forceClose job.pipes[i]⟩
      rw [change_eq hq]
      exact store_self hq _ _
    · obtain ⟨q', events, hq', -, hpipe, -⟩ := hserves.pipes i q hq
      exact ⟨q', hq', hpipe.closed hclosed⟩

/-- A teardown shuts everything. -/
theorem shut_teardown (first last : Nat) (job : Job) : job.teardown.Shut first last where
  running := running_teardown job
  pipes i _ _ p hp := by
    refine closed_forceCloses _ _ hp (.inl (List.mem_range.mpr ?_))
    have hserves : ∀ (pipes : List Nat) (job : Job), Serves (fun _ => none) (fun _ => False) job
        (pipes.foldl (fun job i => job.change i (·.forceClose)) job) :=
      serves_foldl fun _ i => serves_forceClose i
    rw [← (hserves _ _).size]
    exact (Array.getElem?_eq_some_iff.mp hp).1

end Job

/-! ## Actions that start no timer -/

/-- An action that is not the start of a timer takes timers out of use at most. -/
theorem Station.running_attempt {β : Type} (who : Waker) {action : Action β}
    (haction : action.Late ∨ action.Waits) (st : Station) (job : Job) :
    (st.attempt who action job).2.2.running ⊆ job.running := by
  cases action with
  | startTimer kind => exact absurd haction (by simp [Action.Late, Action.Waits])
  | read =>
    simp only [attempt, tryRead]
    split
    · exact List.Subset.refl _
    · split <;> simp [Job.running_query]
  | write v =>
    simp only [attempt, tryWrite]
    split
    · exact List.Subset.refl _
    · simp [Job.running_query]
  | closeInput =>
    simp only [attempt, closeInput]
    split
    · simp [Job.closeRead, Job.running_query]
    · exact List.Subset.refl _
  | closeOutput =>
    simp only [attempt, closeOutput]
    split
    · simp [Job.closeWrite, Job.running_query]
    · exact List.Subset.refl _
  | interrupt hard =>
    cases hard with
    | false => exact job.running_interrupt
    | true => exact job.running_interruptHard
  | awaitTimer id ms =>
    simp only [attempt, tryWait]
    split <;> exact List.Subset.refl _
  | forgetTimer id => exact fun _ he => List.mem_of_mem_filter he
  | pause ms =>
    simp only [attempt, tryWait]
    split <;> exact List.Subset.refl _
  | _ => exact List.Subset.refl _

end Pipework
