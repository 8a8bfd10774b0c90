import Pipework.Proofs.Job.Teardown
import Pipework.Proofs.Job.Turns

/-!
# A pipeline through a run

What `Wired` says of a pipeline between two actions holds through a whole run:

* a stage that is polled acts until it is over, or until it is parked (`Wired.run`), and then leaves
  its place in order (`Wired.release`);
* a watch that is polled serves everybody (`Wired.operate`);
* so does the future that reads the last pipe, and so does time.

`Works.runUntil` and `keeps_working` put these together.
-/

namespace Pipework

variable {L : Span} {job job' : Job} {task? : Nat → Option Task} {incoming : List Nat}

/-- The behavior is over or has failed. -/
def Progress.Ended {α : Type} : Progress α → Prop
  | .done _ | .failed _ => True
  | _ => False

/-! ## Stages -/

/-- A stage reads under its own ticket only. -/
theorem Span.Fit.own {i : Nat} {t : Task} (h : L.Fit job i t) {k : Nat} (hk : k + 1 ≠ i) :
    t.station.own (L.base + k) = none := by
  refine if_neg fun hinput => ?_
  obtain ⟨before, hi, hbefore⟩ := h.input _ hinput
  omega

/-- The pipes of a stage are there. -/
theorem Wired.station_pipes {busy : Option Nat} (h : Wired L busy job task? incoming) {i : Nat}
    (hi : i < L.count) {t : Task} (hfit : L.Fit job i t) (j : Nat)
    (hj : t.station.input = some j ∨ t.station.output = some j) :
    ∃ p, job.pipes[j]? = some p := by
  rcases hj with hinput | houtput
  · obtain ⟨before, rfl, rfl⟩ := hfit.input j hinput
    obtain ⟨p, hp, -⟩ := h.pipes before (by omega)
    exact ⟨p, hp⟩
  · obtain rfl := hfit.output j houtput
    obtain ⟨p, hp, -⟩ := h.pipes i hi
    exact ⟨p, hp⟩

section Stage

variable {i : Nat} {t : Task} {st st' : Station} {b : Behavior Unit}

/-- The tasks when stage `i` has come to a new place. -/
def Span.put (L : Span) (i : Nat) (t : Option Task) (task? : Nat → Option Task) :
    Nat → Option Task :=
  Function.update task? (L.first + i) t

theorem Span.put_self (t : Option Task) : L.put i t task? (L.first + i) = t :=
  Function.update_self ..

theorem Span.put_other {id : Nat} (hid : id ≠ L.first + i) (t : Option Task) :
    L.put i t task? id = task? id :=
  Function.update_of_ne hid ..

theorem Span.put_put (t t' : Option Task) : L.put i t' (L.put i t task?) = L.put i t' task? :=
  Function.update_idem ..

/-- A task that stays changes nothing. -/
theorem Span.put_eq (ht : task? (L.first + i) = some t) : L.put i (some t) task? = task? := by
  rw [Span.put, ← ht, Function.update_eq_self]

/-- One action of the stage at work that is answered. -/
theorem Wired.attempt {β : Type} {action : Action β} {next : β → Behavior Unit} {answer : β}
    (hi : i < L.count) {who : Waker}
    (h : Wired L (some i) job (L.put i (some { t with station := st, behavior := .act action next })
      task?) incoming)
    (ha : st.attempt who action job = (.ready answer, st', job')) :
    Wired L (some i) job' (L.put i (some { t with station := st', behavior := next answer }) task?)
      incoming := by
  have hfit := h.fit i hi _ (L.put_self _)
  have hserves := st.attempt_serves job who hfit.permitted
  rw [ha] at hserves
  obtain ⟨hfit', htimers⟩ := hfit.attempt ha
  refine h.replace hi (L.put_self _) hserves (fun k hk => hfit.own hk) (fun id hid => hid) ?_ ?_ ?_ ?_
  · exact fun id hid => by rw [L.put_other hid, L.put_other hid]
  · intro t' ht'
    rw [L.put_self] at ht'
    exact Option.some.inj ht' ▸ hfit'
  · intro t' ht'
    rw [L.put_self] at ht'
    exact Option.some.inj ht' ▸ htimers
  · exact fun _ _ => .inl rfl

/-- The stage at work runs into an action that has to wait. -/
theorem Wired.attempt_pending {β : Type} {action : Action β} {next : β → Behavior Unit}
    (hi : i < L.count)
    (h : Wired L (some i) job (L.put i (some { t with station := st, behavior := .act action next })
      task?) incoming)
    (ha : st.attempt (.task (L.first + i)) action job = (.pending, st', job')) :
    Wired L none job'
      (L.put i (some { t with station := st', behavior := .act action next }) task?) incoming := by
  have hfit := h.fit i hi _ (L.put_self _)
  have hserves := st.attempt_serves job (.task (L.first + i)) hfit.permitted
  rw [ha] at hserves
  obtain ⟨hfit', htimers, hawaits⟩ := hfit.attempt_pending ha (h.station_pipes hi hfit)
  refine h.replace hi (L.put_self _) hserves (fun k hk => hfit.own hk) (fun id hid => hid) ?_ ?_ ?_ ?_
  · exact fun id hid => by rw [L.put_other hid, L.put_other hid]
  · intro t' ht'
    rw [L.put_self] at ht'
    exact Option.some.inj ht' ▸ hfit'
  · intro t' ht' id hid
    rw [L.put_self] at ht'
    obtain rfl := Option.some.inj ht'
    exact .inl (htimers ▸ hid)
  · intro t' ht'
    rw [L.put_self] at ht'
    exact Option.some.inj ht' ▸ .inr hawaits

/-- A stage may come to any behavior that is as tidy, as long as it is not waiting for an answer. -/
theorem Wired.continue {b' : Behavior Unit} (hi : i < L.count)
    (h : Wired L (some i) job (L.put i (some { t with station := st, behavior := b }) task?) incoming)
    (hb : ¬ b.Reads) (htidy : ∀ held, b.Tidy [] held → b'.Tidy [] held) :
    Wired L (some i) job (L.put i (some { t with station := st, behavior := b' }) task?)
      incoming := by
  have hfit := h.fit i hi _ (L.put_self _)
  have hstays : Job.Serves (fun _ => none) (fun _ => False) job job := .refl
  refine h.replace hi (L.put_self _) hstays
    (fun _ _ => rfl) (fun _ hid => hid.elim) ?_ ?_ ?_ ?_
  · exact fun id hid => by rw [L.put_other hid, L.put_other hid]
  · intro t' ht'
    rw [L.put_self] at ht'
    obtain rfl := Option.some.inj ht'
    obtain ⟨held, hheld, hheldtidy⟩ := hfit.tidy
    exact
      { hfit with
        reading := .inl (hfit.reading.resolve_right fun hreads => hb hreads.1)
        tidy := ⟨held, hheld, htidy held hheldtidy⟩ }
  · intro t' ht' id hid
    rw [L.put_self] at ht'
    obtain rfl := Option.some.inj ht'
    exact .inl hid
  · exact fun _ _ => .inl rfl

/-- A stage acts until it is over or parked. -/
theorem Wired.run (hi : i < L.count) {fuel : Nat} {progress : Progress Unit}
    (h : Wired L (some i) job (L.put i (some { t with station := st, behavior := b }) task?) incoming)
    (hrun : st.run fuel (.task (L.first + i)) job b = (progress, st', job')) :
    (progress.Ended → Wired L (some i) job'
      (L.put i (some { t with station := st', behavior := .result () }) task?) incoming) ∧
    ∀ rest, progress = .waiting rest → Wired L none job'
      (L.put i (some { t with station := st', behavior := rest }) task?) incoming := by
  induction fuel generalizing st job b with
  | zero =>
    obtain ⟨rfl, -⟩ := Prod.mk.inj hrun
    exact ⟨False.elim, by simp⟩
  | succ fuel ih =>
    cases b with
    | result a =>
      obtain ⟨rfl, rfl, rfl⟩ : .done a = progress ∧ st = st' ∧ job = job' := by
        simpa [Station.run] using hrun
      exact ⟨fun _ => h, by simp⟩
    | fail e =>
      obtain ⟨rfl, rfl, rfl⟩ : .failed e = progress ∧ st = st' ∧ job = job' := by
        simpa [Station.run] using hrun
      exact ⟨fun _ => h.continue hi id fun _ _ => List.nil_subset _, by simp⟩
    | crash =>
      obtain ⟨rfl, -⟩ : .crashed = progress ∧ st = st' ∧ job = job' := by
        simpa [Station.run] using hrun
      exact ⟨False.elim, by simp⟩
    | loop s body next =>
      exact ih (h.continue hi id fun _ => Behavior.Tidy.unfold) hrun
    | act action next =>
      rcases ha : st.attempt (.task (L.first + i)) action job with ⟨_ | answer, st₁, job₁⟩ <;>
        simp only [Station.run, ha, Prod.mk.injEq] at hrun
      · obtain ⟨rfl, rfl, rfl⟩ := hrun
        refine ⟨False.elim, fun rest hrest => ?_⟩
        obtain rfl := Progress.waiting.inj hrest
        exact h.attempt_pending hi ha
      · exact ih (h.attempt hi ha) hrun

/-- A stage that is over leaves its place. -/
theorem Wired.release (hi : i < L.count)
    (h : Wired L (some i) job (L.put i (some { t with station := st, behavior := b }) task?)
      incoming) :
    Wired L none (st.release job) (L.put i none task?) incoming := by
  have hfit := h.fit i hi _ (L.put_self _)
  refine h.replace hi (L.put_self _) (st.release_serves job) (fun k hk => hfit.own hk)
    (fun id hid => hid) ?_ ?_ ?_ ?_
  · exact fun id hid => by rw [L.put_other hid, L.put_other hid]
  · exact fun t' ht' => by simp [L.put_self] at ht'
  · exact fun t' ht' => by simp [L.put_self] at ht'
  · exact fun t' ht' => by simp [L.put_self] at ht'

end Stage

/-! ## Watches -/

/-- Somebody who holds nothing serves everybody, and starts no timer. -/
structure Job.Harmless (job job' : Job) : Prop where
  serves : Job.Serves (fun _ => none) (fun _ => False) job job'
  running : job'.running ⊆ job.running

theorem Job.Harmless.refl : job.Harmless job := ⟨.refl, List.Subset.refl _⟩

theorem Job.Harmless.trans {job'' : Job} (h : job.Harmless job') (h' : job'.Harmless job'') :
    job.Harmless job'' :=
  ⟨h.serves.trans h'.serves, List.Subset.trans h'.running h.running⟩

theorem Station.attempt_operates {β : Type} {st : Station} (who : Waker) {action : Action β}
    (haction : action.Operates) (hst : st.Idle) (job : Job) :
    (st.attempt who action job).2.1.Idle ∧ job.Harmless (st.attempt who action job).2.2 := by
  cases action with
  | level => exact ⟨hst, .refl⟩
  | interrupt hard =>
    cases hard with
    | false => exact ⟨hst, Job.serves_interrupt, job.running_interrupt⟩
    | true => exact ⟨hst, Job.serves_interruptHard, job.running_interruptHard⟩
  | pause ms =>
    simp only [attempt, tryWait]
    split <;> exact ⟨⟨hst.input, hst.output, hst.timers⟩, .refl⟩
  | takePresses => exact ⟨hst, .of_eq (fun _ h => h) rfl rfl rfl rfl, List.Subset.refl _⟩
  | log level subsystem message =>
    exact ⟨hst, Job.serves_log level subsystem message, List.Subset.refl _⟩
  | _ => exact haction.elim

/-- A watch that is polled does no harm, and waits on as a watch. -/
theorem Station.run_operates {fuel : Nat} {who : Waker} {st st' : Station} {b : Behavior Unit}
    {progress : Progress Unit} (hb : b.Obeys .operating) (hst : st.Idle)
    (hrun : st.run fuel who job b = (progress, st', job')) :
    st'.Idle ∧ job.Harmless job' ∧ ∀ rest, progress = .waiting rest → rest.Obeys .operating := by
  induction fuel generalizing st job b with
  | zero =>
    obtain ⟨rfl, rfl, rfl⟩ : .unfinished b = progress ∧ st = st' ∧ job = job' := by
      simpa [Station.run] using hrun
    exact ⟨hst, .refl, by simp⟩
  | succ fuel ih =>
    cases b with
    | result a =>
      obtain ⟨rfl, rfl, rfl⟩ : .done a = progress ∧ st = st' ∧ job = job' := by
        simpa [Station.run] using hrun
      exact ⟨hst, .refl, by simp⟩
    | fail e =>
      obtain ⟨rfl, rfl, rfl⟩ : .failed e = progress ∧ st = st' ∧ job = job' := by
        simpa [Station.run] using hrun
      exact ⟨hst, .refl, by simp⟩
    | crash =>
      obtain ⟨rfl, rfl, rfl⟩ : .crashed = progress ∧ st = st' ∧ job = job' := by
        simpa [Station.run] using hrun
      exact ⟨hst, .refl, by simp⟩
    | loop s body next => exact ih hb.unfold hst hrun
    | act action next =>
      obtain ⟨hidle, hharmless⟩ := attempt_operates who hb.1 hst job
      rcases ha : st.attempt who action job with ⟨_ | answer, st₁, job₁⟩ <;>
        rw [ha] at hidle hharmless <;> simp only [Station.run, ha, Prod.mk.injEq] at hrun
      · obtain ⟨rfl, rfl, rfl⟩ := hrun
        refine ⟨hidle, hharmless, fun rest hrest => ?_⟩
        exact Progress.waiting.inj hrest ▸ hb
      · obtain ⟨hidle', hharmless', hrest⟩ := ih (hb.2 answer trivial) hidle hrun
        exact ⟨hidle', hharmless.trans hharmless', hrest⟩

/-- Whoever holds nothing releases nothing. -/
theorem Station.release_idle {st : Station} (h : st.Idle) (job : Job) : st.release job = job := by
  simp [release, abandonRead, closeInput, forgetTimers, closeOutput, h.input, h.output, h.timers]

/-! ## Polls -/

variable {busy : Option Nat}

theorem Wired.harmless (h : Wired L busy job task? incoming) (hjob : job.Harmless job') :
    Wired L busy job' task? incoming :=
  h.serve hjob.serves (fun _ _ => rfl) fun _ => id

/-- A task that is taken off the ready list is at work. -/
theorem Wired.unready (h : Wired L none job task? incoming) {id : Nat}
    (hbusy : ∀ i < L.count, L.first + i = id → busy = some i) :
    Wired L busy { job with ready := job.ready.filter (· != id) } task? incoming :=
  { h with
    fit := fun i hi t ht => { h.fit i hi t ht with }
    awake := by
      intro i hi t ht
      by_cases hid : L.first + i = id
      · exact .inl (hbusy i hi hid)
      rcases h.awake i hi t ht with hnone | hready | hincoming | hawaits
      · exact absurd hnone (by simp)
      · exact .inr (.inl (List.mem_filter.mpr ⟨hready, by simpa using hid⟩))
      · exact .inr (.inr (.inl hincoming))
      · exact .inr (.inr (.inr hawaits)) }

/-- Whoever is no stage may change or go. -/
theorem Wired.setOther (h : Wired L busy job task? incoming) {id : Nat} {t : Option Task}
    (hid : ∀ i < L.count, id ≠ L.first + i)
    (ht : ∀ u, t = some u → u.pool = L.pool → id ∈ L.watches ∧ u.Operates) :
    Wired L busy job (Function.update task? id t) incoming := by
  have hstage : ∀ i < L.count, Function.update task? id t (L.first + i) = task? (L.first + i) :=
    fun i hi => Function.update_of_ne (Ne.symm (hid i hi)) ..
  refine ⟨h.pipes, ?_, ?_, ?_, ?_, h.observed⟩
  · intro i hi u hu
    exact h.fit i hi u (hstage i hi ▸ hu)
  · intro i hi k hk hne u v hu hv
    exact h.apart i hi k hk hne u v (hstage i hi ▸ hu) (hstage k hk ▸ hv)
  · intro i hi u hu
    exact h.awake i hi u (hstage i hi ▸ hu)
  · intro other u hu hpool hother
    by_cases heq : other = id
    · subst heq
      rw [Function.update_self] at hu
      exact ht u hu hpool
    · rw [Function.update_of_ne heq] at hu
      exact h.others other u hu hpool hother

theorem Machine.harmless_logEnd (name : String) (outcome : Except ShellError Unit) (job : Job) :
    job.Harmless (Machine.logEnd name outcome job) := by
  cases outcome with
  | ok a => exact ⟨.of_eq (fun _ h => h) rfl rfl rfl rfl, List.Subset.refl _⟩
  | error e =>
    simp only [Machine.logEnd]
    split <;> exact ⟨.of_eq (fun _ h => h) rfl rfl rfl rfl, List.Subset.refl _⟩

/-- The poll of a watch does no harm; it goes on as a watch, or is over. -/
theorem Machine.pollTask_operates {m : Machine} {id : Nat} {t : Task} (ht : m.task? id = some t)
    (hoperates : t.Operates) (budget : Nat) :
    m.job.Harmless (m.pollTask budget id t).2.job ∧
      ∃ t', (m.pollTask budget id t).2.task? = Function.update m.task? id t' ∧
        ∀ u, t' = some u → u.pool = t.pool ∧ u.Operates := by
  have hsame : m.task? = Function.update m.task? id (some t) := by
    rw [← ht, Function.update_eq_self]
  have hstays : ∀ u, some t = some u → u.pool = t.pool ∧ u.Operates := by
    rintro u hu
    obtain rfl := Option.some.inj hu
    exact ⟨rfl, hoperates⟩
  rcases hrun : t.station.run budget (.task id) m.job t.behavior with ⟨progress, st, job⟩
  obtain ⟨hidle, hharmless, hrest⟩ :=
    Station.run_operates hoperates.behavior hoperates.station hrun
  have hend : ∀ outcome, m.job.Harmless (Machine.logEnd t.name outcome (st.release job)) := by
    intro outcome
    rw [Station.release_idle hidle]
    exact hharmless.trans (Machine.harmless_logEnd _ _ _)
  cases progress <;> simp only [pollTask, hrun]
  case done a => exact ⟨hend (.ok ()), none, task?_removeTask _ id, by simp⟩
  case failed e => exact ⟨hend (.error e), none, task?_removeTask _ id, by simp⟩
  case waiting rest =>
    refine ⟨hharmless, _, task?_setTask _ id _ ht, ?_⟩
    rintro u hu
    obtain rfl := Option.some.inj hu
    exact ⟨rfl, hrest rest rfl, hidle⟩
  case crashed => exact ⟨hharmless, some t, hsame, hstays⟩
  case unfinished rest => exact ⟨hharmless, some t, hsame, hstays⟩

/-- The poll of a stage leaves it parked, or it is over and has left. -/
theorem Wired.pollStage {m : Machine} {i : Nat} (hi : i < L.count) {t : Task}
    (h : Wired L (some i) m.job m.task? incoming) (ht : m.task? (L.first + i) = some t)
    (budget : Nat) (hhalt : (m.pollTask budget (L.first + i) t).2.halt = none) :
    Wired L none (m.pollTask budget (L.first + i) t).2.job
      (m.pollTask budget (L.first + i) t).2.task? incoming := by
  have hsame : L.put i (some t) m.task? = m.task? := L.put_eq ht
  rcases hrun : t.station.run budget (.task (L.first + i)) m.job t.behavior with ⟨progress, st, job⟩
  rw [← hsame] at h
  obtain ⟨hended, hwaiting⟩ := h.run hi hrun
  have hend : progress.Ended → ∀ outcome, Wired L none (Machine.logEnd t.name outcome (st.release job))
      (L.put i none m.task?) incoming :=
    fun hp outcome => ((hended hp).release hi).harmless (Machine.harmless_logEnd _ _ _)
  cases progress <;> simp only [Machine.pollTask, hrun] at hhalt ⊢
  case done a =>
    have hover := hend trivial (.ok ())
    rwa [Span.put, ← Machine.task?_removeTask] at hover
  case failed e =>
    have hover := hend trivial (.error e)
    rwa [Span.put, ← Machine.task?_removeTask] at hover
  case waiting rest =>
    have hparked := hwaiting rest rfl
    rwa [Span.put, ← Machine.task?_setTask m _ _ ht] at hparked
  case crashed => simp at hhalt
  case unfinished rest => simp at hhalt

/-- The poll of a ready task of the pool. -/
theorem Wired.pollTask {m : Machine} {id : Nat} {t : Task}
    (h : Wired L none m.job m.task? incoming) (ht : m.task? id = some t) (hpool : t.pool = L.pool)
    (budget : Nat) (hhalt : ((m.unready id).pollTask budget id t).2.halt = none) :
    Wired L none ((m.unready id).pollTask budget id t).2.job
      ((m.unready id).pollTask budget id t).2.task? incoming := by
  by_cases hstage : ∃ i < L.count, id = L.first + i
  · obtain ⟨i, hi, rfl⟩ := hstage
    have hbusy : Wired L (some i) (m.unready (L.first + i)).job m.task? incoming :=
      h.unready fun k _ hk => congrArg some (by omega)
    exact hbusy.pollStage hi ht budget hhalt
  · have hno : ∀ i < L.count, id ≠ L.first + i := fun i hi heq => hstage ⟨i, hi, heq⟩
    obtain ⟨hid, hoperates⟩ := h.others id t ht hpool hno
    have hready : Wired L none (m.unready id).job m.task? incoming :=
      h.unready fun i hi heq => absurd heq.symm (hno i hi)
    obtain ⟨hharmless, t', htasks, ht'⟩ :=
      Machine.pollTask_operates (m := m.unready id) ht hoperates budget
    rw [htasks]
    exact (hready.harmless hharmless).setOther hno fun u hu _ => ⟨hid, (ht' u hu).2⟩

/-! ## Turns -/

/-- Everybody who has been started is on the ready list when a turn begins. -/
theorem Wired.enqueue {m : Machine} (h : Wired L none m.job m.task? incoming)
    (hincoming : incoming ⊆ m.incoming) :
    Wired L none (m.enqueue L.pool).job (m.enqueue L.pool).task? [] :=
  { h with
    fit := fun i hi t ht => { h.fit i hi t ht with }
    awake := by
      intro i hi t ht
      rcases h.awake i hi t ht with hnone | hready | hnew | hawaits
      · exact absurd hnone (by simp)
      · exact .inr (.inl (List.mem_append_left _ hready))
      · refine .inr (.inl (List.mem_append_right _ (List.mem_filter.mpr ⟨hincoming hnew, ?_⟩)))
        have hmem := m.mem_poolTasks _ ht
        rw [(h.fit i hi t ht).pool] at hmem
        exact List.any_eq_true.mpr ⟨_, hmem, beq_self_eq_true _⟩
      · exact .inr (.inr (.inr hawaits)) }

/-- A pipeline at work on a machine. -/
structure Works (L : Span) (m : Machine) : Prop where
  wired : ∃ incoming ⊆ m.incoming, Wired L none m.job m.task? incoming
  indexed : m.Indexed L.pool

/-- A pipeline all of whose tasks have been on the ready list. -/
structure Working (L : Span) (m : Machine) : Prop where
  wired : Wired L none m.job m.task? []
  indexed : m.Indexed L.pool

theorem Working.works {m : Machine} (h : Working L m) : Works L m :=
  ⟨⟨[], List.nil_subset _, h.wired⟩, h.indexed⟩

theorem Works.enqueue {m : Machine} (h : Works L m) : Working L (m.enqueue L.pool) := by
  obtain ⟨incoming, hincoming, hwired⟩ := h.wired
  exact ⟨hwired.enqueue hincoming, h.indexed⟩

theorem incoming_pollTask (m : Machine) (budget id : Nat) (t : Task) :
    (m.pollTask budget id t).2.incoming = m.incoming := by
  rcases hrun : t.station.run budget (.task id) m.job t.behavior with ⟨progress, st, job⟩
  cases progress <;> simp only [Machine.pollTask, hrun] <;> rfl

/-- A pipeline stays at work when a task of the pool is polled. -/
theorem Works.pollTask {m : Machine} {id : Nat} {t : Task} (h : Works L m) (ht : m.task? id = some t)
    (hpool : t.pool = L.pool) (budget : Nat)
    (hhalt : ((m.unready id).pollTask budget id t).2.halt = none) :
    Works L ((m.unready id).pollTask budget id t).2 := by
  obtain ⟨⟨incoming, hincoming, hwired⟩, hindexed⟩ := h
  refine ⟨⟨incoming, ?_, hwired.pollTask ht hpool budget hhalt⟩,
    Machine.Indexed.pollTask (m := m.unready id) hindexed ht budget⟩
  rw [incoming_pollTask]
  exact hincoming

/-- Turns keep a pipeline at work. -/
theorem keeps_works (L : Span) : Machine.Keeps L.pool (Works L) where
  poll budget h _ ht hpool hhalt := h.pollTask ht hpool budget hhalt
  enqueue h := h.enqueue.works

theorem keeps_working (L : Span) : Machine.Keeps L.pool (Working L) where
  poll := by
    intro m id t budget h _ ht hpool hhalt
    exact ⟨h.wired.pollTask ht hpool budget hhalt,
      Machine.Indexed.pollTask (m := m.unready id) h.indexed ht budget⟩
  enqueue h := h.works.enqueue

/-! ## The main future, and time -/

/-- What every read of the main future keeps is kept while it reads on. -/
theorem Machine.pollMain_keeps {P : Job → Prop} {pipe : Nat}
    (hread : ∀ reading job, P job →
      P (({ input := some pipe, reading := reading } : Station).tryRead .main job).2.2)
    (fuel : Nat) {c : Machine.Collector} (hpipe : c.pipe = pipe) {job : Job} (h : P job) :
    P (Machine.pollMain fuel c job).2.2 := by
  induction fuel generalizing c job with
  | zero => exact h
  | succ fuel ih =>
    have hread := hread c.reading job h
    rw [← hpipe] at hread
    unfold Machine.pollMain
    split
    · exact h
    · dsimp only
      split <;> rename_i heq <;> rw [heq] at hread
      · exact hread
      · exact hread
      · refine ih ?_ hread
        exact hpipe

/-- The future that reads the last pipe is no stage. -/
theorem Wired.pollMain (h : Wired L busy job task? incoming) (fuel : Nat) {c : Machine.Collector}
    (hpipe : c.pipe = L.base + (L.count - 1)) :
    Wired L busy (Machine.pollMain fuel c job).2.2 task? incoming := by
  refine Machine.pollMain_keeps (P := fun job => Wired L busy job task? incoming)
    (fun reading job h => ?_) fuel hpipe h
  refine h.serve (Station.tryRead_serves _ job (fun _ => False) .main) (fun i hi => ?_) fun _ => id
  refine if_neg fun heq => ?_
  have hlast := Option.some.inj heq
  omega

theorem Machine.harmless_advance (moment : Nat) (m : Machine) :
    m.job.Harmless (m.advance moment).job := by
  have hwakes : ∀ (due : List (Nat × Task)) (job : Job),
      job.Harmless (due.foldl (fun job e => job.wake (.task e.1)) job) := by
    intro due job
    induction due generalizing job with
    | nil => exact .refl
    | cons e due ih =>
      refine Job.Harmless.trans ⟨Job.serves_wake _, ?_⟩ (ih _)
      rw [Job.wake_eq]
      exact List.Subset.refl _
  have hclock : m.job.Harmless { m.job with now := max m.job.now moment } :=
    ⟨.of_eq (fun _ h => h) rfl rfl rfl rfl, List.Subset.refl _⟩
  exact hclock.trans (hwakes _ _)

theorem Machine.harmless_passTime (pool : Nat) (m : Machine) :
    m.job.Harmless (m.passTime pool).job := by
  unfold Machine.passTime
  split
  · exact .refl
  · exact m.harmless_advance _

theorem Machine.tasks_passTime (pool : Nat) (m : Machine) : (m.passTime pool).tasks = m.tasks := by
  unfold Machine.passTime
  split <;> rfl

theorem Machine.incoming_passTime (pool : Nat) (m : Machine) :
    (m.passTime pool).incoming = m.incoming := by
  unfold Machine.passTime
  split <;> rfl

/-- A pipeline stays at work when somebody does no harm. -/
theorem Works.harmless {m m' : Machine} (h : Works L m) (hjob : m.job.Harmless m'.job)
    (htasks : m'.tasks = m.tasks) (hincoming : m'.incoming = m.incoming) : Works L m' := by
  obtain ⟨⟨incoming, hsubset, hwired⟩, hindexed⟩ := h
  have hpassed := hwired.harmless hjob
  unfold Machine.Indexed Machine.task? at hindexed
  unfold Machine.task? at hpassed
  rw [← htasks] at hpassed hindexed
  rw [← hincoming] at hsubset
  exact ⟨⟨incoming, hsubset, hpassed⟩, hindexed⟩

/-- A pipeline stays at work while its last pipe is read. -/
theorem Works.pollMain {m : Machine} (h : Works L m) (fuel : Nat) {c : Machine.Collector}
    (hpipe : c.pipe = L.base + (L.count - 1)) :
    Works L { m with job := (Machine.pollMain fuel c { m.job with mainWoken := false }).2.2 } := by
  obtain ⟨⟨incoming, hincoming, hwired⟩, hindexed⟩ := h
  have hasleep : Wired L none { m.job with mainWoken := false } m.task? incoming :=
    { hwired with fit := fun i hi t ht => { hwired.fit i hi t ht with } }
  exact ⟨⟨incoming, hincoming, hasleep.pollMain fuel hpipe⟩, hindexed⟩

/-- A pipeline stays at work until its last pipe has been read to the end. -/
theorem Works.runUntil (fuel : Nat) {m : Machine} {c : Machine.Collector} (h : Works L m)
    (hpipe : c.pipe = L.base + (L.count - 1))
    (hhalt : (m.runUntil fuel L.pool c).2.halt = none) : Works L (m.runUntil fuel L.pool c).2 :=
  (keeps_works L).runUntil (fun fuel _ hc hm => hm.pollMain fuel hc)
    (fun {m} hm => hm.harmless (m.harmless_passTime L.pool) (m.tasks_passTime L.pool)
      (m.incoming_passTime L.pool)) fuel hpipe h hhalt

end Pipework
