import Pipework.Proofs.Job.Frame
import Pipework.Proofs.Pipe.Sound

/-!
# What a step of one task owes to the others

`Job.Serves` carries the promise of `Pipe.Serves` over to the job. Whatever a task does, another
task that is parked on a pipe, or waits on a timer, goes on doing so or is put on the ready list; a
callback that is gone has marked its pipeline finished; nothing that has closed, been cancelled or
finished starts anew. Every action of a station keeps this promise, and so does a teardown.
-/

namespace Pipework

namespace Job

/-- The timer is in use. -/
def Runs (job : Job) (id : Nat) : Prop := id ∈ job.running.map (·.1)

/-- The pipeline is finished. -/
def Finished (job : Job) (number : Nat) : Prop := job.progress[number]? = some .finished

/-- What a task owes to the others when it turns `job` into `job'`. It reads pipe `i` under the
ticket `own i`, and `mine` are the timers that it holds. -/
structure Serves (own : Nat → Option Nat) (mine : Nat → Prop) (job job' : Job) : Prop where
  /-- Whoever has been woken stays so. -/
  woken : ∀ w, job.Woken w → job'.Woken w
  /-- No pipe comes or goes. -/
  size : job'.pipes.size = job.pipes.size
  /-- Pipes serve their users, and who is called is woken. -/
  pipes : ∀ i p, job.pipes[i]? = some p → ∃ p' events, job'.pipes[i]? = some p' ∧
    (p.Sound → p'.Sound) ∧ Pipe.Serves (own i) p p' events ∧
    (∀ w, .wake w ∈ events → job'.Woken w) ∧
    ∀ number, .call number ∈ events → number < job.progress.size → job'.Finished number
  /-- A timer of another task stays as it is, or it is cancelled and who waits on it is woken. -/
  timers : ∀ id t, ¬ mine id → job.timers[id]? = some t → ∃ t', job'.timers[id]? = some t' ∧
    (t' = t ∧ (job.Runs id → job'.Runs id) ∨
      t'.cancelled = true ∧ ∀ w, t.cancelled = false → t.waker = some w → job'.Woken w)
  /-- No timer goes. -/
  timersSize : job.timers.size ≤ job'.timers.size
  /-- No pipeline comes or goes. -/
  progressSize : job'.progress.size = job.progress.size
  /-- A pipeline that is finished stays so. -/
  finished : ∀ number, job.Finished number → job'.Finished number

namespace Serves

variable {own : Nat → Option Nat} {mine : Nat → Prop} {job job' job'' : Job}

/-- A step that leaves pipes, timers and pipelines alone. -/
theorem of_eq (woken : ∀ w, job.Woken w → job'.Woken w) (pipes : job'.pipes = job.pipes)
    (timers : job'.timers = job.timers) (running : job'.running = job.running)
    (progress : job'.progress = job.progress) : Serves own mine job job' where
  woken := woken
  size := by rw [pipes]
  pipes i p hp := ⟨p, [], pipes ▸ hp, id, .refl, by simp, by simp⟩
  timers id t _ ht := ⟨t, timers ▸ ht, .inl ⟨rfl, by rw [Runs, Runs, running]; exact fun h => h⟩⟩
  timersSize := by rw [timers]
  progressSize := by rw [progress]
  finished number h := by rwa [Finished, progress]

/-- Who is ready stays so. -/
theorem ready (h : Serves own mine job job') : job.ready ⊆ job'.ready :=
  fun id hid => h.woken (.task id) hid

theorem refl : Serves own mine job job :=
  .of_eq (fun _ h => h) rfl rfl rfl rfl

/-- One step after another. -/
theorem trans (h : Serves own mine job job') (h' : Serves own mine job' job'') :
    Serves own mine job job'' where
  woken w hw := h'.woken w (h.woken w hw)
  size := h'.size.trans h.size
  pipes i p hp := by
    obtain ⟨p', events, hp', hsound, hserves, hwake, hcall⟩ := h.pipes i p hp
    obtain ⟨p'', events', hp'', hsound', hserves', hwake', hcall'⟩ := h'.pipes i p' hp'
    refine ⟨p'', events ++ events', hp'', hsound' ∘ hsound, hserves.trans hserves', ?_, ?_⟩
    · intro w hw
      rcases List.mem_append.mp hw with hw | hw
      · exact h'.woken w (hwake w hw)
      · exact hwake' w hw
    · intro number hnumber hlt
      rcases List.mem_append.mp hnumber with hnumber | hnumber
      · exact h'.finished number (hcall number hnumber hlt)
      · exact hcall' number hnumber (h.progressSize ▸ hlt)
  timers id t hmine ht := by
    obtain ⟨t', ht', hkept⟩ := h.timers id t hmine ht
    obtain ⟨t'', ht'', hkept'⟩ := h'.timers id t' hmine ht'
    refine ⟨t'', ht'', ?_⟩
    rcases hkept with ⟨rfl, hruns⟩ | ⟨hcancelled, hwoken⟩
    · exact hkept'.imp_left fun hk => ⟨hk.1, hk.2 ∘ hruns⟩
    · refine .inr ⟨?_, fun w hopen hwaker => h'.woken w (hwoken w hopen hwaker)⟩
      rcases hkept' with ⟨rfl, -⟩ | ⟨hcancelled', -⟩
      · exact hcancelled
      · exact hcancelled'
  timersSize := h.timersSize.trans h'.timersSize
  progressSize := h'.progressSize.trans h.progressSize
  finished number hn := h'.finished number (h.finished number hn)

end Serves

variable {own : Nat → Option Nat} {mine : Nat → Prop} {job : Job}

/-! ## Pipes -/

/-- An operation on a pipe serves the others if the pipe does. -/
theorem serves_store (i : Nat) {p p' : Pipe Value} {events : List Pipe.Event}
    (hp : job.pipes[i]? = some p) (hsound : p.Sound → p'.Sound)
    (hserves : Pipe.Serves (own i) p p' events) : Serves own mine job (job.store i p' events) := by
  have hwoken : ∀ w, job.Woken w → (job.store i p' events).Woken w :=
    fun w hw => woken_react events (by cases w <;> exact hw)
  refine ⟨hwoken, by simp [pipes_store], ?_, ?_, by simp [store], ?_, ?_⟩
  · intro j q hq
    by_cases hj : j = i
    · subst hj
      obtain rfl : p = q := Option.some.inj (hp.symm.trans hq)
      refine ⟨p', events, store_self hp p' events, hsound, hserves, ?_, ?_⟩
      · exact fun w hw => woken_of_mem hw _
      · exact fun number hnumber hn => finished_call hnumber hn
    · refine ⟨q, [], ?_, id, .refl, by simp, by simp⟩
      rw [store_other hj, hq]
  · intro id t _ ht
    exact ⟨t, by simpa [store] using ht, .inl ⟨rfl, by simp [Runs, store]⟩⟩
  · rw [store, size_progress_react]
  · exact fun number (hn : job.Finished number) => finished_react events hn

theorem serves_change (i : Nat) {f : Pipe Value → Pipe Value × List Pipe.Event}
    (hsound : ∀ p, p.Sound → (f p).1.Sound)
    (hserves : ∀ p, Pipe.Serves (own i) p (f p).1 (f p).2) :
    Serves own mine job (job.change i f) := by
  cases hp : job.pipes[i]? with
  | none => simpa [change, hp] using Serves.refl
  | some p =>
    rw [change_eq hp]
    exact serves_store i hp (hsound p) (hserves p)

theorem serves_query {β : Type} (i : Nat) (absent : β)
    {f : Pipe Value → β × Pipe Value × List Pipe.Event}
    (hsound : ∀ p, p.Sound → (f p).2.1.Sound)
    (hserves : ∀ p, Pipe.Serves (own i) p (f p).2.1 (f p).2.2) :
    Serves own mine job (job.query i absent f).2 := by
  cases hp : job.pipes[i]? with
  | none => simpa [query, hp] using Serves.refl
  | some p =>
    rw [query_eq hp]
    exact serves_store i hp (hsound p) (hserves p)

theorem serves_closeRead (i : Nat) : Serves own mine job (job.closeRead i).2 :=
  serves_query i false (fun _ h => h.closeRead) fun p => p.serves_closeRead.weaken _

theorem serves_closeWrite (i : Nat) : Serves own mine job (job.closeWrite i).2 :=
  serves_query i false (fun _ h => h.closeWrite) fun p => p.serves_closeWrite.weaken _

theorem serves_forceClose (i : Nat) : Serves own mine job (job.change i (·.forceClose)) :=
  serves_change i (fun _ h => h.forceClose) fun p => p.serves_forceClose.weaken _

/-! ## Timers -/

theorem serves_enterTimer (kind : TimerKind) (link : Option Nat) :
    Serves own mine job (job.enterTimer kind link).2 where
  woken _ h := h
  size := rfl
  pipes i p hp := ⟨p, [], hp, id, .refl, by simp, by simp⟩
  timers id t _ ht := by
    have hlt : id < job.timers.size := (Array.getElem?_eq_some_iff.mp ht).1
    refine ⟨t, ?_, .inl ⟨rfl, fun hruns => ?_⟩⟩
    · simpa [enterTimer, Array.getElem?_push, hlt.ne] using ht
    · exact List.map_subset _ (List.subset_append_left _ _) hruns
  timersSize := by simp [enterTimer]
  progressSize := rfl
  finished _ h := h

/-- A change of a timer of one's own. -/
theorem serves_setTimer {id : Nat} (hmine : mine id) (t : Timer) :
    Serves own mine job { job with timers := job.timers.setIfInBounds id t } where
  woken _ h := h
  size := rfl
  pipes i p hp := ⟨p, [], hp, fun h => h, .refl, by simp, by simp⟩
  timers other t' hother ht' := by
    have hne : id ≠ other := fun h => hother (h ▸ hmine)
    exact ⟨t', by simpa [Array.getElem?_setIfInBounds, hne] using ht', .inl ⟨rfl, fun h => h⟩⟩
  timersSize := by simp
  progressSize := rfl
  finished _ h := h

/-- An interval started after a teardown is cancelled from the beginning. -/
theorem startTimer_cases (kind : TimerKind) (link : Option Nat) (job : Job) :
    job.startTimer kind link = job.enterTimer kind link ∨
    job.startTimer kind link = (job.timers.size, { (job.enterTimer kind link).2 with
      timers := (job.enterTimer kind link).2.timers.setIfInBounds job.timers.size
        { cancelled := true } }) := by
  by_cases hlate : (kind = .interval && hardLevel ≤ job.level) = true
  · exact .inr (if_pos hlate)
  · exact .inl (if_neg hlate)

theorem serves_startTimer (kind : TimerKind) (link : Option Nat) :
    Serves own mine job (job.startTimer kind link).2 := by
  obtain h | h := startTimer_cases kind link job
  · rw [h]; exact serves_enterTimer kind link
  · rw [h]
    -- the new timer is nobody's yet
    have hboth : Serves own (fun id => mine id ∨ id = job.timers.size) job _ :=
      (serves_enterTimer kind link).trans (serves_setTimer (.inr rfl) { cancelled := true })
    exact
      { hboth with
        timers := fun id t hmine ht => by
          have hlt : id < job.timers.size := (Array.getElem?_eq_some_iff.mp ht).1
          exact hboth.timers id t (not_or_intro hmine hlt.ne) ht }

theorem mem_forgetTimer {id other : Nat} (hne : other ≠ id) (h : job.Runs other) :
    (job.forgetTimer id).Runs other := by
  obtain ⟨e, he, rfl⟩ := List.mem_map.mp h
  exact List.mem_map_of_mem (List.mem_filter.mpr ⟨he, by simpa using hne⟩)

theorem serves_forgetTimer {id : Nat} (hmine : mine id) :
    Serves own mine job (job.forgetTimer id) where
  woken _ h := h
  size := rfl
  pipes i p hp := ⟨p, [], hp, fun h => h, .refl, by simp, by simp⟩
  timers other t hother ht :=
    ⟨t, ht, .inl ⟨rfl, mem_forgetTimer fun h => hother (h ▸ hmine)⟩⟩
  timersSize := Nat.le_refl _
  progressSize := rfl
  finished _ h := h

theorem serves_wake (waker : Waker) : Serves own mine job (job.wake waker) :=
  .of_eq (fun _ => woken_wake waker job) (by rw [wake_eq]) (by rw [wake_eq]) (by rw [wake_eq])
    (by rw [wake_eq])

/-- The job after a timer has been taken out of use, cancelled, and its waker called. -/
def dropTimer (id : Nat) (job : Job) : Job :=
  let t := job.timer id
  let job := { job.forgetTimer id with timers := job.timers.setIfInBounds id t.cancel.1 }
  match t.cancel.2 with
  | some w => job.wake w
  | none => job

theorem dropTimer_eq (id : Nat) (job : Job) :
    ∃ ready mainWoken, job.dropTimer id =
      { job.forgetTimer id with
        timers := job.timers.setIfInBounds id (job.timer id).cancel.1
        ready := ready, mainWoken := mainWoken } := by
  set dropped : Job :=
    { job.forgetTimer id with timers := job.timers.setIfInBounds id (job.timer id).cancel.1 }
  cases hw : (job.timer id).cancel.2 with
  | none =>
    exact ⟨_, _, by simp only [dropTimer, hw]; rfl⟩
  | some w =>
    refine ⟨(dropped.wake w).ready, (dropped.wake w).mainWoken, ?_⟩
    simp only [dropTimer, hw]
    exact wake_eq w dropped

theorem woken_dropTimer (id : Nat) {job : Job} {w : Waker} (h : job.Woken w) :
    (job.dropTimer id).Woken w := by
  have hsame : ({ job.forgetTimer id with
      timers := job.timers.setIfInBounds id (job.timer id).cancel.1 } : Job).Woken w := by
    cases w <;> exact h
  unfold dropTimer
  dsimp only
  split
  · exact woken_wake _ _ hsame
  · exact hsame

theorem serves_dropTimer (id : Nat) : Serves own mine job (job.dropTimer id) := by
  have hcalled : ∀ w, (job.timer id).cancel.2 = some w → (job.dropTimer id).Woken w := by
    intro w hw
    simp only [dropTimer, hw]
    exact woken_self w _
  have hwoken : ∀ w, job.Woken w → (job.dropTimer id).Woken w := fun w => woken_dropTimer id
  obtain ⟨ready, mainWoken, heq⟩ := dropTimer_eq id job
  rw [heq] at hcalled hwoken ⊢
  refine ⟨hwoken, rfl, fun i p hp => ⟨p, [], hp, fun h => h, .refl, by simp, by simp⟩, ?_,
    by simp, rfl, fun _ h => h⟩
  intro other t _ ht
  by_cases hother : other = id
  · subst hother
    have hlt : other < job.timers.size := (Array.getElem?_eq_some_iff.mp ht).1
    have htimer : job.timer other = t := by simp [Job.timer, Array.getD_eq_getD_getElem?, ht]
    refine ⟨t.cancel.1, by simp [htimer, hlt], .inr ⟨?_, fun w hopen hwaker => hcalled w ?_⟩⟩
    · unfold Timer.cancel
      split
      · assumption
      · rfl
    · simp [htimer, Timer.cancel, hopen, hwaker]
  · refine ⟨t, ?_, .inl ⟨rfl, mem_forgetTimer hother⟩⟩
    simpa [Array.getElem?_setIfInBounds, Ne.symm hother] using ht

/-- Cancelling a timer that is in use. -/
theorem cancelTimer_cases (id : Nat) (job : Job) :
    (job.running.find? (·.1 == id) = none ∧ job.cancelTimer id = (false, job)) ∨
    ∃ entry level subsystem message, job.running.find? (·.1 == id) = some (id, entry) ∧
      job.cancelTimer id = (true,
        match entry.link with
        | some i => (((job.log level subsystem message).dropTimer id).closeWrite i).2
        | none => (job.log level subsystem message).dropTimer id) := by
  unfold cancelTimer
  split
  · exact .inl ⟨‹_›, rfl⟩
  · rename_i number entry hfound
    have hid : number = id := by simpa using List.find?_some hfound
    refine .inr ⟨entry, .debug, "timer", s!"cancel {entry.kind.name} #{id}", by rw [hfound, hid], ?_⟩
    obtain hlink | ⟨i, hlink⟩ := Option.eq_none_or_eq_some entry.link
    · simp only [hlink]
      rfl
    · simp only [hlink]
      rfl

theorem serves_log (level : Verbosity) (subsystem message : String) :
    Serves own mine job (job.log level subsystem message) :=
  .of_eq (fun _ h => h) rfl rfl rfl rfl

theorem serves_cancelTimer (id : Nat) : Serves own mine job (job.cancelTimer id).2 := by
  obtain ⟨-, h⟩ | ⟨entry, level, subsystem, message, -, h⟩ := cancelTimer_cases id job
  · rw [h]; exact .refl
  · rw [h]
    have hdrop : Serves own mine job ((job.log level subsystem message).dropTimer id) :=
      (serves_log level subsystem message).trans (serves_dropTimer id)
    dsimp only
    split
    · exact hdrop.trans (serves_closeWrite _)
    · exact hdrop

theorem serves_pollTimer {id : Nat} (hmine : mine id) (deadline : Nat) (waker : Waker) :
    Serves own mine job (job.pollTimer id deadline waker).2 := serves_setTimer hmine _

/-! ## Interrupts -/

theorem serves_foldl {β : Type} {f : Job → β → Job} (hf : ∀ job b, Serves own mine job (f job b))
    (bs : List β) (job : Job) : Serves own mine job (bs.foldl f job) := by
  induction bs generalizing job with
  | nil => exact .refl
  | cons b bs ih => exact (hf job b).trans (ih (f job b))

theorem serves_teardown : Serves own mine job job.teardown :=
  ((serves_log _ _ _).trans (serves_foldl (fun _ id => serves_cancelTimer id) _ _)).trans
    (serves_foldl (fun _ i => serves_forceClose i) _ _)

theorem serves_level (job : Job) (level : Nat) : Serves own mine job { job with level := level } :=
  .of_eq (fun _ h => h) rfl rfl rfl rfl

theorem serves_interrupt : Serves own mine job job.interrupt := by
  unfold interrupt
  dsimp only
  split
  · exact ((serves_log _ _ _).trans serves_teardown).trans (serves_level _ _)
  · exact (serves_log _ _ _).trans (serves_level _ _)

theorem serves_interruptHard : Serves own mine job job.interruptHard :=
  ((serves_log _ _ _).trans serves_teardown).trans (serves_level _ _)

end Job

end Pipework
