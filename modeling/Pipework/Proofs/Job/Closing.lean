import Pipework.Proofs.Job.Polling

/-!
# A pipeline after its teardown

Once everything has been shut, no action has to wait: pipes answer at once, and so do cancelled
timers (`Wired.attempt_shut`). A stage that was parked before was tidy, so from there it can only
go on to its end (`Wired.run_shut`). Hence `Closing`: every stage that is left is ready, and the
next poll is its last. When no task is ready any more, no stage is left (`Works.settle`).
-/

namespace Pipework

variable {L : Span} {job job' : Job} {task? : Nat → Option Task} {incoming : List Nat}

/-- The behavior waits, and comes to its end once everything is shut. -/
def Behavior.Doomed : Behavior Unit → Prop
  | .act action next => action.Waits ∧
      ∀ answer, action.AnsweredLate answer → (next answer).Obeys .closing
  | _ => False

/-- The pipes of a pipeline are closed, and no timer is in use. -/
abbrev Span.Shut (L : Span) (job : Job) : Prop := job.Shut L.base (L.base + L.count)

/-! ## Nobody waits -/

/-- A stage that is parked will come to its end. -/
theorem Job.Awaits.doomed {task : Nat} {st : Station} {b : Behavior Unit} {held : List Nat}
    (h : job.Awaits task st b) (htidy : b.Tidy [] held) : b.Doomed := by
  cases b with
  | act action next =>
    have hwaits : action.Waits := by
      cases action with
      | read => trivial
      | write v => trivial
      | awaitTimer id ms => trivial
      | _ => exact h.elim
    exact ⟨hwaits, fun answer => (htidy.2 answer).2 hwaits⟩
  | _ => exact h.elim

/-- Nothing keeps a station waiting: the pipes are closed, and its timers are cancelled. -/
structure Span.Still (L : Span) (job : Job) (st : Station) : Prop where
  pipes : ∀ i < L.count, ∀ p, job.pipes[L.base + i]? = some p → p.Closed
  timers : ∀ id ∈ st.timers, ∃ timer, job.timers[id]? = some timer ∧ timer.cancelled = true

/-- Where everything is shut the timers of a stage are cancelled. -/
theorem Span.Fit.still {i : Nat} {t : Task} (h : L.Fit job i t) (hshut : L.Shut job) :
    L.Still job t.station where
  pipes i hi := hshut.pipes _ (Nat.le_add_right ..) (by omega)
  timers id hid := by
    obtain ⟨timer, htimer, hkept⟩ := h.timers id hid
    refine ⟨timer, htimer, hkept.resolve_left fun hruns => ?_⟩
    rw [Job.Runs, hshut.running] at hruns
    exact absurd hruns (by simp)

/-- A stage that nothing keeps waiting is not parked. -/
theorem Wired.not_awaits {busy : Option Nat} (h : Wired L busy job task? incoming) {i : Nat}
    (hi : i < L.count) {t : Task} (ht : task? (L.first + i) = some t)
    (hstill : L.Still job t.station) : ¬ job.Awaits (L.first + i) t.station t.behavior := by
  have hfit := h.fit i hi t ht
  unfold Job.Awaits
  split
  · rintro ⟨j, p, ticket, hj, hp, -, hparked⟩
    obtain ⟨before, rfl, rfl⟩ := hfit.input j hj
    obtain ⟨p', hp', hsound⟩ := h.pipes before (by omega)
    obtain rfl : p' = p := Option.some.inj (hp'.symm.trans hp)
    have hclosed := hstill.pipes before (by omega) _ hp
    have hopen := (hsound.parked (List.ne_nil_of_mem hparked)).2.1
    exact absurd (hopen.symm.trans hclosed.1) (by simp)
  · rintro ⟨j, p, hj, hp, hblocked⟩
    obtain rfl := hfit.output j hj
    obtain ⟨p', hp', hsound⟩ := h.pipes i hi
    obtain rfl : p' = p := Option.some.inj (hp'.symm.trans hp)
    have hclosed := hstill.pipes i hi _ hp
    have hopen := (hsound.blocked (List.ne_nil_of_mem hblocked)).2.1
    exact absurd (hopen.symm.trans hclosed.1) (by simp)
  · rintro ⟨hheld, -, htimer⟩
    obtain ⟨timer, htimer', hcancelled⟩ := hstill.timers _ hheld
    obtain rfl := Option.some.inj (htimer.symm.trans htimer')
    exact absurd hcancelled (by simp)
  · exact id

section Stage

variable {i : Nat} {t : Task} {st st' : Station} {b : Behavior Unit} {β : Type}
  {action : Action β} {next : β → Behavior Unit}

/-- Where nothing keeps a stage waiting an action is answered at once, as is due. -/
theorem Wired.attempt_still (hi : i < L.count)
    (h : Wired L (some i) job (L.put i (some { t with station := st, behavior := .act action next })
      task?) incoming)
    (hstill : L.Still job st)
    (hstill' : L.Still (st.attempt (.task (L.first + i)) action job).2.2
      (st.attempt (.task (L.first + i)) action job).2.1) :
    ∃ answer st' job', st.attempt (.task (L.first + i)) action job = (.ready answer, st', job') ∧
      action.AnsweredLate answer := by
  have hfit := h.fit i hi _ (L.put_self _)
  rcases ha : st.attempt (.task (L.first + i)) action job with ⟨_ | answer, st', job'⟩ <;>
    rw [ha] at hstill'
  · have hawaits := (hfit.attempt_pending ha (h.station_pipes hi hfit)).2.2
    exact absurd hawaits ((h.attempt_pending hi ha).not_awaits hi (L.put_self _) hstill')
  refine ⟨answer, st', job', rfl, ?_⟩
  cases action with
  | write v =>
    obtain hnone | ⟨j, hj⟩ := Option.eq_none_or_eq_some st.output
    · simp only [Station.attempt, Station.tryWrite, hnone, Prod.mk.injEq, Poll.ready.injEq] at ha
      exact ⟨_, ha.1.symm⟩
    · obtain ⟨p, hp⟩ := h.station_pipes hi hfit j (.inr hj)
      obtain rfl := hfit.output j hj
      have hclosed := hstill.pipes i hi p hp
      simp only [Station.attempt, Station.tryWrite_eq hj hp, Pipe.pollWrite, Pipe.offer,
        hclosed.1, if_true, Prod.mk.injEq, Poll.ready.injEq] at ha
      exact ⟨_, ha.1.symm⟩
  | awaitTimer id ms =>
    obtain ⟨timer, htimer, hcancelled⟩ := hstill.timers id hfit.permitted
    simp only [Station.attempt, Station.tryWait, Job.pollTimer, Job.timer_eq htimer,
      Timer.pollWait, hcancelled, if_true, Prod.mk.injEq, Poll.ready.injEq] at ha
    exact ha.1.symm
  | _ => trivial

/-- Where everything is shut an action is answered at once, as is due. -/
theorem Wired.attempt_shut (hi : i < L.count)
    (h : Wired L (some i) job (L.put i (some { t with station := st, behavior := .act action next })
      task?) incoming)
    (hshut : L.Shut job) (haction : action.Late ∨ action.Waits) :
    ∃ answer st' job', st.attempt (.task (L.first + i)) action job = (.ready answer, st', job') ∧
      action.AnsweredLate answer ∧ L.Shut job' ∧ job.ready ⊆ job'.ready := by
  have hfit := h.fit i hi _ (L.put_self _)
  have hserves := st.attempt_serves job (.task (L.first + i)) hfit.permitted
  have hshut' := hshut.serve hserves (Station.running_attempt _ haction st job)
  have hstill' : L.Still (st.attempt (.task (L.first + i)) action job).2.2
      (st.attempt (.task (L.first + i)) action job).2.1 := by
    rcases ha : st.attempt (.task (L.first + i)) action job with ⟨_ | answer, st', job'⟩ <;>
      rw [ha] at hshut'
    · exact (hfit.attempt_pending ha (h.station_pipes hi hfit)).1.still hshut'
    · exact (hfit.attempt ha).1.still hshut'
  obtain ⟨answer, st', job', ha, hlate⟩ := h.attempt_still hi (hfit.still hshut) hstill'
  rw [ha] at hserves hshut'
  exact ⟨answer, st', job', ha, hlate, hshut', hserves.ready⟩

/-- Where everything is shut a stage comes to its end in one go. -/
theorem Wired.run_shut (hi : i < L.count) {fuel : Nat} {progress : Progress Unit}
    (h : Wired L (some i) job (L.put i (some { t with station := st, behavior := b }) task?) incoming)
    (hshut : L.Shut job) (hb : b.Obeys .closing ∨ b.Doomed)
    (hrun : st.run fuel (.task (L.first + i)) job b = (progress, st', job')) :
    (∀ rest, progress ≠ .waiting rest) ∧ L.Shut job' ∧ job.ready ⊆ job'.ready := by
  induction fuel generalizing st job b with
  | zero =>
    obtain ⟨rfl, rfl, rfl⟩ : .unfinished b = progress ∧ st = st' ∧ job = job' := by
      simpa [Station.run] using hrun
    exact ⟨by simp, hshut, List.Subset.refl _⟩
  | succ fuel ih =>
    cases b with
    | result a =>
      obtain ⟨rfl, rfl, rfl⟩ : .done a = progress ∧ st = st' ∧ job = job' := by
        simpa [Station.run] using hrun
      exact ⟨by simp, hshut, List.Subset.refl _⟩
    | fail e =>
      obtain ⟨rfl, rfl, rfl⟩ : .failed e = progress ∧ st = st' ∧ job = job' := by
        simpa [Station.run] using hrun
      exact ⟨by simp, hshut, List.Subset.refl _⟩
    | crash =>
      obtain ⟨rfl, rfl, rfl⟩ : .crashed = progress ∧ st = st' ∧ job = job' := by
        simpa [Station.run] using hrun
      exact ⟨by simp, hshut, List.Subset.refl _⟩
    | loop s body next =>
      have hobeys := hb.resolve_right id
      exact ih (h.continue hi id fun _ => Behavior.Tidy.unfold) hshut (.inl hobeys.unfold) hrun
    | act action next =>
      have haction : action.Late ∨ action.Waits := hb.imp (fun h => h.1) fun h => h.1
      have hnext : ∀ answer, action.AnsweredLate answer → (next answer).Obeys .closing :=
        hb.elim (fun h => h.2) fun h => h.2
      obtain ⟨answer, st₁, job₁, ha, hlate, hshut₁, hready₁⟩ := h.attempt_shut hi hshut haction
      simp only [Station.run, ha] at hrun
      obtain ⟨hends, hshut', hready'⟩ :=
        ih (h.attempt hi ha) hshut₁ (.inl (hnext answer hlate)) hrun
      exact ⟨hends, hshut', List.Subset.trans hready₁ hready'⟩

end Stage

/-! ## The last turns -/

/-- Releasing a station takes timers out of use at most. -/
theorem Station.running_release (st : Station) (job : Job) :
    (st.release job).running ⊆ job.running := by
  have habandon : (st.abandonRead job).2.running = job.running := by
    unfold abandonRead
    split
    · exact Job.running_change ..
    · rfl
  have hinput : ∀ (st : Station) (job : Job), (st.closeInput job).2.running = job.running := by
    intro st job
    unfold closeInput
    split
    · exact Job.running_query ..
    · rfl
  have houtput : ∀ (st : Station) (job : Job), (st.closeOutput job).2.running = job.running := by
    intro st job
    unfold closeOutput
    split
    · exact Job.running_query ..
    · rfl
  have hforget : ∀ (ids : List Nat) (job : Job),
      (ids.foldl (fun job id => job.forgetTimer id) job).running ⊆ job.running := by
    intro ids
    induction ids with
    | nil => exact fun job => List.Subset.refl _
    | cons id ids ih =>
      exact fun job => List.Subset.trans (ih _) fun _ he => List.mem_of_mem_filter he
  unfold release
  dsimp only
  rw [houtput]
  refine List.Subset.trans (hforget _ _) ?_
  rw [hinput, habandon]
  exact List.Subset.refl _

/-- A pipeline after its teardown: whoever is left is ready for the last poll. -/
structure Closing (L : Span) (m : Machine) : Prop where
  working : Working L m
  shut : L.Shut m.job
  doomed : ∀ i < L.count, ∀ t, m.task? (L.first + i) = some t →
    L.first + i ∈ m.job.ready ∧ t.behavior.Doomed

/-- The last poll of a stage. -/
theorem Wired.pollStage_shut {m : Machine} {i : Nat} (hi : i < L.count) {t : Task}
    (h : Wired L (some i) m.job m.task? incoming) (ht : m.task? (L.first + i) = some t)
    (hshut : L.Shut m.job) (hdoomed : t.behavior.Doomed) (budget : Nat)
    (hhalt : (m.pollTask budget (L.first + i) t).2.halt = none) :
    L.Shut (m.pollTask budget (L.first + i) t).2.job ∧
      m.job.ready ⊆ (m.pollTask budget (L.first + i) t).2.job.ready ∧
      (m.pollTask budget (L.first + i) t).2.task? = L.put i none m.task? := by
  have hsame : L.put i (some t) m.task? = m.task? := L.put_eq ht
  rcases hrun : t.station.run budget (.task (L.first + i)) m.job t.behavior with ⟨progress, st, job⟩
  rw [← hsame] at h
  obtain ⟨hends, hshut', hready⟩ := h.run_shut hi hshut (.inr hdoomed) hrun
  have hend : ∀ outcome, L.Shut (Machine.logEnd t.name outcome (st.release job)) ∧
      m.job.ready ⊆ (Machine.logEnd t.name outcome (st.release job)).ready := by
    intro outcome
    have hlog := Machine.harmless_logEnd t.name outcome (st.release job)
    have hrelease := st.release_serves job
    exact ⟨(hshut'.serve hrelease (st.running_release job)).serve hlog.serves hlog.running,
      List.Subset.trans hready (List.Subset.trans hrelease.ready hlog.serves.ready)⟩
  cases progress <;> simp only [Machine.pollTask, hrun] at hhalt ⊢
  case done a => exact ⟨(hend (.ok ())).1, (hend (.ok ())).2, Machine.task?_removeTask ..⟩
  case failed e => exact ⟨(hend (.error e)).1, (hend (.error e)).2, Machine.task?_removeTask ..⟩
  case waiting rest => exact absurd rfl (hends rest)
  case crashed => simp at hhalt
  case unfinished rest => simp at hhalt

theorem mem_unready {id other : Nat} {ready : List Nat} (h : other ∈ ready) (hne : other ≠ id) :
    other ∈ ready.filter (· != id) :=
  List.mem_filter.mpr ⟨h, by simpa using hne⟩

/-- A poll keeps what holds after a teardown. -/
theorem Closing.pollTask {m : Machine} {id : Nat} {t : Task} (h : Closing L m)
    (hready : id ∈ m.job.ready) (ht : m.task? id = some t) (hpool : t.pool = L.pool) (budget : Nat)
    (hhalt : ((m.unready id).pollTask budget id t).2.halt = none) :
    Closing L ((m.unready id).pollTask budget id t).2 := by
  have hworking := (keeps_working L).poll budget h.working hready ht hpool hhalt
  have hshut : L.Shut (m.unready id).job := ⟨h.shut.running, h.shut.pipes⟩
  by_cases hstage : ∃ i < L.count, id = L.first + i
  · obtain ⟨i, hi, rfl⟩ := hstage
    have hbusy : Wired L (some i) (m.unready (L.first + i)).job m.task? [] :=
      h.working.wired.unready fun k _ hk => congrArg some (by omega)
    obtain ⟨hshut', hready, htasks⟩ :=
      hbusy.pollStage_shut hi ht hshut (h.doomed i hi t ht).2 budget hhalt
    refine ⟨hworking, hshut', fun k hk u hu => ?_⟩
    rw [htasks] at hu
    by_cases hki : L.first + k = L.first + i
    · simp [hki, L.put_self] at hu
    · rw [L.put_other hki] at hu
      obtain ⟨hwaiting, hdoomed⟩ := h.doomed k hk u hu
      exact ⟨hready (mem_unready hwaiting hki), hdoomed⟩
  · have hno : ∀ i < L.count, id ≠ L.first + i := fun i hi heq => hstage ⟨i, hi, heq⟩
    obtain ⟨-, hoperates⟩ := h.working.wired.others id t ht hpool hno
    obtain ⟨hharmless, t', htasks, -⟩ :=
      Machine.pollTask_operates (m := m.unready id) ht hoperates budget
    refine ⟨hworking, hshut.serve hharmless.serves hharmless.running, fun k hk u hu => ?_⟩
    have hki : L.first + k ≠ id := Ne.symm (hno k hk)
    rw [htasks, Function.update_of_ne hki] at hu
    obtain ⟨hwaiting, hdoomed⟩ := h.doomed k hk u hu
    exact ⟨hharmless.serves.ready (mem_unready hwaiting hki), hdoomed⟩

/-- Turns keep what holds after a teardown. -/
theorem keeps_closing (L : Span) : Machine.Keeps L.pool (Closing L) where
  poll budget h hready ht hpool hhalt := h.pollTask hready ht hpool budget hhalt
  enqueue h :=
    { working := h.working.works.enqueue
      shut := ⟨h.shut.running, h.shut.pipes⟩
      doomed := fun i hi t ht => (h.doomed i hi t ht).imp_left (List.mem_append_left _) }

/-- A pipeline at rest is torn down. -/
theorem Working.teardown {m : Machine} (h : Working L m)
    (hrest : m.nextReady? L.pool = none) : Closing L (m.onJob (·.teardown)) := by
  have hserves : Job.Serves (fun _ => none) (fun _ => False) m.job m.job.teardown :=
    Job.serves_teardown
  have hwired : Wired L none m.job.teardown m.task? [] :=
    h.wired.serve hserves (fun _ _ => rfl) fun _ => id
  have hshut : L.Shut m.job.teardown := Job.shut_teardown ..
  refine ⟨⟨hwired, h.indexed⟩, hshut, fun i hi t ht => ?_⟩
  have hfit := h.wired.fit i hi t ht
  have hasleep : L.first + i ∉ m.job.ready := Machine.nextReady?_none hrest ht hfit.pool
  have hawaits : m.job.Awaits (L.first + i) t.station t.behavior := by
    rcases h.wired.awake i hi t ht with hnone | hready | hincoming | hawaits
    · exact absurd hnone (by simp)
    · exact absurd hready hasleep
    · exact absurd hincoming (by simp)
    · exact hawaits
  obtain ⟨held, -, htidy⟩ := hfit.tidy
  refine ⟨?_, hawaits.doomed htidy⟩
  exact (hawaits.serve hserves (fun _ _ => rfl) fun _ _ => id).resolve_right
    (hwired.not_awaits hi ht ((hwired.fit i hi t ht).still hshut))

/-- When a pipeline has settled it is shut, and no stage is left. -/
theorem Works.settle {m : Machine} (fuel : Nat) (h : Works L m)
    (hhalt : (m.settle fuel L.pool).halt = none) :
    Closing L (m.settle fuel L.pool) ∧
      ∀ i < L.count, (m.settle fuel L.pool).task? (L.first + i) = none := by
  obtain ⟨hclosing, hover⟩ := (keeps_working L).settle (keeps_closing L)
    (fun hworking hnext => hworking.teardown hnext) h.enqueue fuel hhalt
  refine ⟨hclosing, fun i hi => ?_⟩
  refine Option.eq_none_iff_forall_ne_some.mpr fun t ht => ?_
  exact Machine.nextReady?_none hover ht (hclosing.working.wired.fit i hi t ht).pool
    (hclosing.doomed i hi t ht).1

end Pipework
