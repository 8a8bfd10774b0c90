import Pipework.Proofs.Job.Torn
import Pipework.Proofs.Pipe.Ended

/-!
# What a teardown takes away

Cancelled timers and teardowns take writers away from pipes and close pipes by force, and do nothing
else to them (`Job.Loses`).

Of the timers, only who holds one takes it out of use; anybody else can but cancel it, and a timer
that is cancelled stays so (`Job.Clocks`).
-/

namespace Pipework

namespace Job

variable {mine : Nat → Prop} {job job' job'' : Job}

/-! ## Pipes -/

/-- Pipes have lost writers or have been closed by force, and nothing else has happened to them. -/
structure Loses (job job' : Job) : Prop where
  size : job'.pipes.size = job.pipes.size
  pipes : ∀ (i : Nat) (p : Pipe Value), job.pipes[i]? = some p →
    ∃ p', job'.pipes[i]? = some p' ∧ p.Loses p'

namespace Loses

theorem of_eq (h : job'.pipes = job.pipes) : Loses job job' where
  size := by rw [h]
  pipes _ p hp := ⟨p, h ▸ hp, .start⟩

theorem trans (h : Loses job job') (h' : Loses job' job'') : Loses job job'' where
  size := h'.size.trans h.size
  pipes i p hp := by
    obtain ⟨p', hp', hlost⟩ := h.pipes i p hp
    obtain ⟨p'', hp'', hlost'⟩ := h'.pipes i p' hp'
    exact ⟨p'', hp'', hlost.trans hlost'⟩

theorem foldl {β : Type} {f : Job → β → Job} (hf : ∀ job b, Loses job (f job b)) (bs : List β)
    (job : Job) : Loses job (bs.foldl f job) := by
  induction bs generalizing job with
  | nil => exact .of_eq rfl
  | cons b bs ih => exact (hf job b).trans (ih (f job b))

end Loses

theorem loses_log (level : Verbosity) (subsystem message : String) (job : Job) :
    Loses job (job.log level subsystem message) := .of_eq rfl

theorem loses_store {i : Nat} {p p' : Pipe Value} (hp : job.pipes[i]? = some p) (hlost : p.Loses p')
    (events : List Pipe.Event) : Loses job (job.store i p' events) where
  size := by simp [pipes_store]
  pipes j q hq := by
    by_cases hj : j = i
    · subst hj
      obtain rfl : p = q := Option.some.inj (hp.symm.trans hq)
      exact ⟨p', store_self hp p' events, hlost⟩
    · exact ⟨q, (store_other hj p' events job).trans hq, .start⟩

theorem loses_closeWrite (i : Nat) (job : Job) : Loses job (job.closeWrite i).2 := by
  cases hp : job.pipes[i]? with
  | none => exact .of_eq (by simp [closeWrite, query, hp])
  | some p =>
    rw [closeWrite, query_eq hp]
    exact loses_store hp (.closeWrite .start) _

theorem loses_forceClose (i : Nat) (job : Job) : Loses job (job.change i (·.forceClose)) := by
  cases hp : job.pipes[i]? with
  | none => exact .of_eq (by simp [change, hp])
  | some p =>
    rw [change_eq hp]
    exact loses_store hp (.forceClose .start) _

theorem loses_dropTimer (id : Nat) (job : Job) : Loses job (job.dropTimer id) := by
  obtain ⟨_, _, h⟩ := dropTimer_eq id job
  exact .of_eq (by rw [h]; rfl)

theorem loses_cancelTimer (id : Nat) (job : Job) : Loses job (job.cancelTimer id).2 := by
  obtain ⟨-, h⟩ | ⟨entry, level, subsystem, message, -, h⟩ := cancelTimer_cases id job
  · rw [h]
    exact .of_eq rfl
  · rw [h]
    have hdrop : Loses job ((job.log level subsystem message).dropTimer id) :=
      (loses_log level subsystem message job).trans (loses_dropTimer id _)
    dsimp only
    split
    · exact hdrop.trans (loses_closeWrite _ _)
    · exact hdrop

theorem loses_teardown (job : Job) : Loses job job.teardown :=
  ((loses_log _ _ _ job).trans (.foldl (fun job id => loses_cancelTimer id job) _ _)).trans
    (.foldl (fun job i => loses_forceClose i job) _ _)

theorem loses_interrupt (job : Job) : Loses job job.interrupt := by
  unfold interrupt
  dsimp only
  split
  · exact ((loses_log _ _ _ job).trans (loses_teardown _)).trans (.of_eq rfl)
  · exact .of_eq rfl

theorem loses_interruptHard (job : Job) : Loses job job.interruptHard :=
  ((loses_log _ _ _ job).trans (loses_teardown _)).trans (.of_eq rfl)

/-! ## Timers -/

/-- What is done to timers by somebody who holds those that are `mine`. -/
structure Clocks (mine : Nat → Prop) (job job' : Job) : Prop where
  level : job.level ≤ job'.level
  size : job.timers.size ≤ job'.timers.size
  /-- A timer in use was so before, or is new. -/
  running : ∀ id, job'.Runs id → job.Runs id ∨ job.timers.size ≤ id ∧ id < job'.timers.size
  /-- A timer that is cancelled stays so. -/
  cancelled : ∀ id, (job.timer id).cancelled = true → (job'.timer id).cancelled = true
  /-- A timer of somebody else stays in use, or is cancelled. -/
  kept : ∀ id, id < job.timers.size → ¬ mine id → job.Runs id →
    job'.Runs id ∨ (job'.timer id).cancelled = true

namespace Clocks

theorem of_eq (level : job.level ≤ job'.level) (timers : job'.timers = job.timers)
    (running : job'.running = job.running) : Clocks mine job job' where
  level := level
  size := by rw [timers]
  running id h := .inl (by rwa [Runs, running] at h)
  cancelled id h := by rwa [timer, timers]
  kept id _ _ h := .inl (by rwa [Runs, running])

theorem trans (h : Clocks mine job job') (h' : Clocks mine job' job'') : Clocks mine job job'' where
  level := h.level.trans h'.level
  size := h.size.trans h'.size
  running id hruns := by
    rcases h'.running id hruns with hruns | ⟨hnew, hlt⟩
    · exact (h.running id hruns).imp_right fun ⟨hnew, hlt⟩ => ⟨hnew, hlt.trans_le h'.size⟩
    · exact .inr ⟨h.size.trans hnew, hlt⟩
  cancelled id hcancelled := h'.cancelled id (h.cancelled id hcancelled)
  kept id hlt hmine hruns := by
    rcases h.kept id hlt hmine hruns with hruns | hcancelled
    · exact h'.kept id (hlt.trans_le h.size) hmine hruns
    · exact .inr (h'.cancelled id hcancelled)

theorem weaken (h : Clocks (fun _ => False) job job') (mine : Nat → Prop) : Clocks mine job job' :=
  { h with kept := fun id hlt _ => h.kept id hlt not_false }

/-- A timer that is new may be taken out of use at once. -/
theorem of_new (h : Clocks (fun id => mine id ∨ job.timers.size ≤ id) job job') :
    Clocks mine job job' :=
  { h with kept := fun id hlt hmine => h.kept id hlt (not_or_intro hmine (Nat.not_le.mpr hlt)) }

theorem foldl {β : Type} {f : Job → β → Job} {bs : List β}
    (hf : ∀ job, ∀ b ∈ bs, Clocks mine job (f job b)) (job : Job) : Clocks mine job (bs.foldl f job) := by
  induction bs generalizing job with
  | nil => exact .of_eq le_rfl rfl rfl
  | cons b bs ih =>
    exact (hf job b List.mem_cons_self).trans
      (ih (fun job b hb => hf job b (List.mem_cons_of_mem _ hb)) (f job b))

end Clocks

theorem clocks_store (i : Nat) (p : Pipe Value) (events : List Pipe.Event) (job : Job) :
    Clocks mine job (job.store i p events) :=
  .of_eq (by rw [store, level_react]) (timers_react _ _) (running_react _ _)

theorem clocks_closeWrite (i : Nat) (job : Job) : Clocks mine job (job.closeWrite i).2 := by
  cases hp : job.pipes[i]? with
  | none =>
    have hsame : (job.closeWrite i).2 = job := by simp [closeWrite, query, hp]
    rw [hsame]
    exact .of_eq le_rfl rfl rfl
  | some p =>
    rw [closeWrite, query_eq hp]
    exact clocks_store i _ _ job

theorem clocks_forceClose (i : Nat) (job : Job) : Clocks mine job (job.change i (·.forceClose)) := by
  cases hp : job.pipes[i]? with
  | none =>
    have hsame : job.change i (·.forceClose) = job := by simp [change, hp]
    rw [hsame]
    exact .of_eq le_rfl rfl rfl
  | some p =>
    rw [change_eq hp]
    exact clocks_store i _ _ job

theorem timer_push (t : Timer) (id : Nat) (job : Job) (hcancelled : (job.timer id).cancelled = true) :
    ((job.timers.push t).getD id {}).cancelled = true := by
  have hlt : id < job.timers.size := by
    by_contra hge
    rw [timer, Array.getD_eq_getD_getElem?, Array.getElem?_eq_none (Nat.le_of_not_lt hge)] at hcancelled
    exact absurd hcancelled (by decide)
  rw [Array.getD_eq_getD_getElem?, Array.getElem?_push_lt hlt, ← Array.getElem?_eq_getElem hlt,
    ← Array.getD_eq_getD_getElem?]
  exact hcancelled

theorem clocks_enterTimer (kind : TimerKind) (link : Option Nat) (job : Job) :
    Clocks mine job (job.enterTimer kind link).2 where
  level := le_rfl
  size := by simp [enterTimer]
  running id h := by
    simp only [Runs, enterTimer, running_log, List.map_append, List.mem_append, List.map_cons,
      List.map_nil, List.mem_singleton] at h
    refine h.imp_right fun hid => ?_
    subst hid
    simp [enterTimer]
  cancelled id h := timer_push {} id job h
  kept id _ _ h := .inl (by
    simp only [Runs, enterTimer, running_log, List.map_append]
    exact List.mem_append_left _ h)

theorem timer_setIfInBounds (id other : Nat) (t : Timer) (job : Job) :
    ((job.timers.setIfInBounds id t).getD other {}) =
      if id = other ∧ other < job.timers.size then t else job.timer other := by
  by_cases hid : id = other
  · subst hid
    by_cases hlt : id < job.timers.size <;> simp [Array.getD_eq_getD_getElem?, hlt, timer]
  · simp [Array.getD_eq_getD_getElem?, Array.getElem?_setIfInBounds_ne hid, timer, hid]

/-- A timer may be changed by anybody who does not take back that it is cancelled. -/
theorem clocks_setTimer {id : Nat} {t : Timer} {job : Job}
    (ht : (job.timer id).cancelled = true → t.cancelled = true) :
    Clocks mine job { job with timers := job.timers.setIfInBounds id t } where
  level := le_rfl
  size := by simp
  running _ h := .inl h
  cancelled other h := by
    rw [timer, timer_setIfInBounds]
    split
    · rename_i hid
      exact ht (hid.1 ▸ h)
    · exact h
  kept _ _ _ h := .inl h

theorem clocks_startTimer (kind : TimerKind) (link : Option Nat) (job : Job) :
    Clocks mine job (job.startTimer kind link).2 := by
  obtain h | h := startTimer_cases kind link job
  · rw [h]
    exact clocks_enterTimer kind link job
  · rw [h]
    exact (clocks_enterTimer kind link job).trans (clocks_setTimer fun _ => rfl)

theorem clocks_pollTimer (id deadline : Nat) (who : Waker) (job : Job) :
    Clocks mine job (job.pollTimer id deadline who).2 :=
  clocks_setTimer fun h => (Timer.cancelled_pollWait _ _ _ _).trans h

theorem clocks_forgetTimer {id : Nat} (hmine : mine id) (job : Job) :
    Clocks mine job (job.forgetTimer id) where
  level := le_rfl
  size := le_rfl
  running other h := by
    obtain ⟨e, he, rfl⟩ := List.mem_map.mp h
    exact .inl (List.mem_map_of_mem (List.mem_of_mem_filter he))
  cancelled _ h := h
  kept other _ hother h := .inl (mem_forgetTimer (fun heq => hother (heq ▸ hmine)) h)

theorem cancelled_cancel (t : Timer) : t.cancel.1.cancelled = true := by
  unfold Timer.cancel
  split
  · assumption
  · rfl

theorem clocks_dropTimer (id : Nat) (job : Job) : Clocks mine job (job.dropTimer id) := by
  obtain ⟨ready, mainWoken, h⟩ := dropTimer_eq id job
  have htimer : ∀ other, (job.dropTimer id).timer other =
      if id = other ∧ other < job.timers.size then (job.timer id).cancel.1 else job.timer other := by
    intro other
    rw [h]
    exact timer_setIfInBounds id other _ job
  have hrunning : (job.dropTimer id).running = (job.forgetTimer id).running := by rw [h]
  have hsize : (job.dropTimer id).timers.size = job.timers.size := by rw [h]; simp
  have hlevel : (job.dropTimer id).level = job.level := by rw [h]; rfl
  refine ⟨hlevel.ge, hsize.ge, fun other hruns => ?_, fun other hcancelled => ?_,
    fun other hlt _ hruns => ?_⟩
  · rw [Runs, hrunning] at hruns
    obtain ⟨e, he, rfl⟩ := List.mem_map.mp hruns
    exact .inl (List.mem_map_of_mem (List.mem_of_mem_filter he))
  · rw [htimer]
    split
    · exact cancelled_cancel _
    · exact hcancelled
  · by_cases hid : other = id
    · subst hid
      right
      rw [htimer, if_pos ⟨rfl, hlt⟩]
      exact cancelled_cancel _
    · left
      rw [Runs, hrunning]
      exact mem_forgetTimer hid hruns

theorem clocks_log (level : Verbosity) (subsystem message : String) (job : Job) :
    Clocks mine job (job.log level subsystem message) := .of_eq le_rfl rfl rfl

theorem clocks_cancelTimer (id : Nat) (job : Job) : Clocks mine job (job.cancelTimer id).2 := by
  obtain ⟨-, h⟩ | ⟨entry, level, subsystem, message, -, h⟩ := cancelTimer_cases id job
  · rw [h]
    exact .of_eq le_rfl rfl rfl
  · rw [h]
    have hdrop : Clocks mine job ((job.log level subsystem message).dropTimer id) :=
      (clocks_log level subsystem message job).trans (clocks_dropTimer id _)
    dsimp only
    split
    · exact hdrop.trans (clocks_closeWrite _ _)
    · exact hdrop

theorem clocks_teardown (job : Job) : Clocks mine job job.teardown :=
  ((clocks_log _ _ _ job).trans (.foldl (fun job id _ => clocks_cancelTimer id job) _)).trans
    (.foldl (fun job i _ => clocks_forceClose i job) _)

theorem clocks_interrupt (job : Job) : Clocks mine job job.interrupt := by
  unfold interrupt
  dsimp only
  split
  · have hlevel := congrArg Prod.fst (standing_eq
      (job.log .debug "exec" s!"interrupt: level={job.level}").core_teardown)
    exact ((clocks_log _ _ _ job).trans (clocks_teardown _)).trans
      (.of_eq (hlevel.le.trans (Nat.le_succ _)) rfl rfl)
  · exact .of_eq (Nat.le_succ _) rfl rfl

theorem clocks_interruptHard (job : Job) : Clocks mine job job.interruptHard := by
  have hlevel := congrArg Prod.fst (standing_eq
    (job.log .debug "exec" s!"hard interrupt: level={job.level}").core_teardown)
  exact ((clocks_log _ _ _ job).trans (clocks_teardown _)).trans
    (.of_eq (hlevel.le.trans ((Nat.le_succ _).trans (le_max_left _ _))) rfl rfl)

/-! ## The level after interrupts -/

theorem level_interrupt (job : Job) : job.interrupt.level = job.level + 1 := rfl

theorem level_interruptHard (job : Job) : hardLevel ≤ job.interruptHard.level := le_max_right _ _

end Job

end Pipework
