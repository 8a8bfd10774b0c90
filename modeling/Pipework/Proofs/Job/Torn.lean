import Pipework.Proofs.Job.Closing
import Pipework.Proofs.Job.Core
import Pipework.Proofs.Job.Mortal

/-!
# A pipeline that an interrupt has torn down

After a teardown by an interrupt (`Span.Torn`) the level tells of it, every pipe is closed, and
every timer of a stage is cancelled. Unlike `Span.Shut` this also holds of a stage that has not
begun, which may still start an interval. No action has to wait then (`Ending.attempt`), so a
behavior that ends is run to its end in one go (`Ending.finishes`).
-/

namespace Pipework

/-! ## The teardown by an interrupt -/

namespace Job

/-- The interrupt after the first one tears the line down. -/
theorem shut_interrupt {job : Job} (h : 1 ≤ job.level) (first last : Nat) :
    job.interrupt.Shut first last := by
  unfold interrupt
  dsimp only
  rw [if_pos h]
  have hshut := shut_teardown first last (job.log .debug "exec" s!"interrupt: level={job.level}")
  exact ⟨hshut.running, hshut.pipes⟩

/-- An interrupt at once to the end tears the line down. -/
theorem shut_interruptHard (job : Job) (first last : Nat) : job.interruptHard.Shut first last := by
  have hshut := shut_teardown first last (job.log .debug "exec" s!"hard interrupt: level={job.level}")
  exact ⟨hshut.running, hshut.pipes⟩

end Job

/-! ## What has been torn down stays so -/

variable {L : Span} {job job' : Job} {task? : Nat → Option Task} {incoming : List Nat}

/-- An interrupt has torn the pipeline down. -/
structure Span.Torn (L : Span) (job : Job) (task? : Nat → Option Task) : Prop where
  level : Job.hardLevel ≤ job.level
  pipes : ∀ i < L.count, ∀ p, job.pipes[L.base + i]? = some p → p.Closed
  timers : ∀ i < L.count, ∀ t, task? (L.first + i) = some t → ∀ id ∈ t.station.timers,
    ∃ timer, job.timers[id]? = some timer ∧ timer.cancelled = true

namespace Span.Torn

variable {own : Nat → Option Nat} {mine : Nat → Prop}

theorem still (h : L.Torn job task?) {i : Nat} (hi : i < L.count) {t : Task}
    (ht : task? (L.first + i) = some t) : L.Still job t.station :=
  ⟨h.pipes, h.timers i hi t ht⟩

/-- A timer that is cancelled stays so. -/
theorem cancelled_serve (hserves : Job.Serves own mine job job') {id : Nat} (hmine : ¬ mine id)
    (h : ∃ timer, job.timers[id]? = some timer ∧ timer.cancelled = true) :
    ∃ timer, job'.timers[id]? = some timer ∧ timer.cancelled = true := by
  obtain ⟨timer, htimer, hcancelled⟩ := h
  obtain ⟨timer', htimer', ⟨rfl, -⟩ | ⟨hcancelled', -⟩⟩ := hserves.timers id timer hmine htimer
  · exact ⟨timer', htimer', hcancelled⟩
  · exact ⟨timer', htimer', hcancelled'⟩

/-- Somebody who is no stage changes nothing about it. -/
theorem serve (h : L.Torn job task?) (hserves : Job.Serves own mine job job')
    (hlevel : job.level ≤ job'.level) (hmine : ∀ id, ¬ mine id) : L.Torn job' task? where
  level := h.level.trans hlevel
  pipes i hi := hserves.closed (h.pipes i hi)
  timers i hi t ht id hid := cancelled_serve hserves (hmine id) (h.timers i hi t ht id hid)

theorem congr {task?' : Nat → Option Task} (h : L.Torn job task?)
    (htasks : ∀ i < L.count, task?' (L.first + i) = task? (L.first + i)) : L.Torn job task?' :=
  { h with timers := fun i hi t ht => h.timers i hi t (htasks i hi ▸ ht) }

/-- A stage at work changes nothing about it if it sees to its own timers. -/
theorem replace {i : Nat} {t : Task} {t' : Option Task}
    (h : L.Torn job (L.put i (some t) task?)) (hi : i < L.count)
    (hwired : Wired L (some i) job (L.put i (some t) task?) incoming)
    (hserves : Job.Serves own (· ∈ t.station.timers) job job') (hlevel : job.level ≤ job'.level)
    (hself : ∀ u, t' = some u → ∀ id ∈ u.station.timers,
      ∃ timer, job'.timers[id]? = some timer ∧ timer.cancelled = true) :
    L.Torn job' (L.put i t' task?) where
  level := h.level.trans hlevel
  pipes k hk := hserves.closed (h.pipes k hk)
  timers k hk u hu id hid := by
    by_cases hki : k = i
    · subst hki
      rw [L.put_self] at hu
      exact hself u hu id hid
    · have hother : L.first + k ≠ L.first + i := by omega
      have hu : L.put i (some t) task? (L.first + k) = some u := by
        rw [L.put_other hother] at hu ⊢
        exact hu
      -- no two stages share a timer
      have hmine : id ∉ t.station.timers := fun hmem =>
        hwired.apart k hk i hi hki u t hu (L.put_self _) id hid hmem
      exact cancelled_serve hserves hmine (h.timers k hk u hu id hid)

end Span.Torn

/-! ## One action -/

section Stage

variable {i : Nat} {t : Task} {st st' : Station} {b : Behavior Unit} {β : Type}
  {action : Action β} {next : β → Behavior Unit}

/-- An action without a clock leaves the timers of its station. -/
theorem Station.timers_attempt (st : Station) (job : Job) (who : Waker) (haction : action.Clockless) :
    (st.attempt who action job).2.1.timers = st.timers := by
  cases action with
  | startTimer kind => exact haction.elim
  | awaitTimer id ms => exact haction.elim
  | forgetTimer id => exact haction.elim
  | pause ms => exact haction.elim
  | read =>
    simp only [attempt, tryRead]
    split
    · rfl
    · split <;> rfl
  | write v =>
    simp only [attempt, tryWrite]
    split <;> rfl
  | closeInput => exact st.timers_closeInput job
  | closeOutput =>
    simp only [attempt]
    rw [closeOutput_station]
  | _ => rfl

/-- An interval started after a teardown is cancelled from the beginning. -/
theorem Job.cancelled_startTimer (link : Option Nat) (h : Job.hardLevel ≤ job.level) :
    (job.startTimer .interval link).2.timers[(job.startTimer .interval link).1]? =
      some { cancelled := true } := by
  have hlevel : Job.hardLevel ≤ (job.enterTimer .interval link).2.level := h
  simp only [Job.startTimer, hlevel, decide_true, Bool.and_self, if_true]
  simp [Job.enterTimer]

/-- Whatever a stage does after a teardown, its timers are cancelled. -/
theorem Span.Still.cancelled_attempt (h : L.Still job st) (hlevel : Job.hardLevel ≤ job.level)
    (haction : action.Fading) (hpermitted : action.Permitted st.timers) (who : Waker) :
    ∀ id ∈ (st.attempt who action job).2.1.timers, ∃ timer,
      (st.attempt who action job).2.2.timers[id]? = some timer ∧ timer.cancelled = true := by
  by_cases hclock : action.Clockless
  · have hserves := st.attempt_serves_clockless job (fun _ => False) who hclock
    rw [st.timers_attempt job who hclock]
    exact fun id hid => Span.Torn.cancelled_serve hserves not_false (h.timers id hid)
  cases action with
  | startTimer kind =>
    obtain rfl : kind = .interval := haction
    have hserves : Job.Serves st.own (fun _ => False) job (job.startTimer .interval st.output).2 :=
      Job.serves_startTimer _ _
    intro id hid
    rcases List.mem_append.mp hid with hid | hid
    · exact Span.Torn.cancelled_serve hserves not_false (h.timers id hid)
    · rw [List.mem_singleton.mp hid]
      exact ⟨_, Job.cancelled_startTimer st.output hlevel, rfl⟩
  | awaitTimer id ms =>
    simp only [Station.attempt, Station.tryWait]
    set deadline := st.deadline.getD (Timer.deadline job.now ms)
    have hkept : ∀ other ∈ st.timers, ∃ timer,
        (job.pollTimer id deadline who).2.timers[other]? = some timer ∧ timer.cancelled = true := by
      intro other hother
      obtain ⟨timer, htimer, hcancelled⟩ := h.timers other hother
      by_cases heq : id = other
      · subst heq
        have hlt : id < job.timers.size := (Array.getElem?_eq_some_iff.mp htimer).1
        refine ⟨(timer.pollWait job.now deadline who).2, ?_, ?_⟩
        · simp [Job.pollTimer, Job.timer_eq htimer, hlt]
        · rw [Timer.cancelled_pollWait]
          exact hcancelled
      · refine ⟨timer, ?_, hcancelled⟩
        simpa [Job.pollTimer, Array.getElem?_setIfInBounds, heq] using htimer
    rcases hp : job.pollTimer id deadline who with ⟨_ | _, job'⟩ <;> rw [hp] at hkept <;> exact hkept
  | forgetTimer id => exact fun other hother => h.timers other (List.mem_of_mem_filter hother)
  | pause ms => exact hpermitted.elim
  | _ => exact absurd trivial hclock

/-- A stage whose action has been answered reads nothing. -/
theorem Span.Fit.fresh_attempt
    (h : L.Fit job i { t with station := st, behavior := .act action next }) {who : Waker}
    {answer : β} (ha : st.attempt who action job = (.ready answer, st', job')) :
    st'.reading = .fresh := by
  by_cases hclock : action.Clockless
  · have hreading : st.reading = .fresh ∨ (Behavior.act action next).Reads ∧ st.input.isSome :=
      h.reading.imp_right fun ⟨hreads, _, _, j, _, hj, _⟩ =>
        ⟨hreads, Option.isSome_iff_exists.mpr ⟨j, hj⟩⟩
    exact (Station.attempt_station hclock ha hreading).2.2.1
  · have hquiet : st.reading = .fresh := h.fresh fun hreads => by
      cases action with
      | read => exact hclock trivial
      | _ => exact hreads
    cases action with
    | startTimer kind =>
      simp only [Station.attempt, Prod.mk.injEq] at ha
      rw [← ha.2.1]
      exact hquiet
    | awaitTimer id ms =>
      simp only [Station.attempt, Station.tryWait] at ha
      split at ha <;> simp only [Prod.mk.injEq, reduceCtorEq, false_and] at ha
      rw [← ha.2.1]
      exact hquiet
    | forgetTimer id =>
      simp only [Station.attempt, Station.forgetTimer, Prod.mk.injEq] at ha
      rw [← ha.2.1]
      exact hquiet
    | pause ms => exact h.permitted.elim
    | _ => exact absurd trivial hclock

/-- A stage at work on a behavior after a teardown. -/
structure Ending (L : Span) (i : Nat) (t : Task) (task? : Nat → Option Task) (incoming : List Nat)
    (st : Station) (job : Job) (b : Behavior Unit) : Prop where
  wired : Wired L (some i) job (L.put i (some { t with station := st, behavior := b }) task?) incoming
  torn : L.Torn job (L.put i (some { t with station := st, behavior := b }) task?)

/-- After a teardown an action is answered at once, as is due. -/
theorem Ending.attempt (hi : i < L.count) (h : Ending L i t task? incoming st job (.act action next))
    (haction : action.Fading) :
    ∃ answer st' job', st.attempt (.task (L.first + i)) action job = (.ready answer, st', job') ∧
      action.AnsweredLate answer ∧ (st.reading = .fresh → action.AnsweredDead answer) ∧
      st'.reading = .fresh ∧ job'.standing = job.standing ∧
      Ending L i t task? incoming st' job' (next answer) := by
  have hfit := h.wired.fit i hi _ (L.put_self _)
  have hstill : L.Still job st := h.torn.still hi (L.put_self _)
  have hserves := st.attempt_serves job (.task (L.first + i)) hfit.permitted
  have hcancelled := hstill.cancelled_attempt h.torn.level haction hfit.permitted (.task (L.first + i))
  have hstanding := st.standing_attempt job (.task (L.first + i)) haction.meek
  have hstill' : L.Still (st.attempt (.task (L.first + i)) action job).2.2
      (st.attempt (.task (L.first + i)) action job).2.1 :=
    ⟨fun k hk => hserves.closed (hstill.pipes k hk), hcancelled⟩
  obtain ⟨answer, st', job', ha, hlate⟩ := h.wired.attempt_still hi hstill hstill'
  rw [ha] at hserves hcancelled hstanding
  refine ⟨answer, st', job', ha, hlate, fun hfresh => ?_, hfit.fresh_attempt ha, hstanding,
    h.wired.attempt hi ha, ?_⟩
  · have hclosed : ∀ j, st.input = some j ∨ st.output = some j → ∃ p, job.pipes[j]? = some p ∧
        p.Closed := by
      intro j hj
      obtain ⟨p, hp⟩ := h.wired.station_pipes hi hfit j hj
      refine ⟨p, hp, ?_⟩
      rcases hj with hinput | houtput
      · obtain ⟨before, rfl, rfl⟩ := hfit.input j hinput
        exact hstill.pipes before (by omega) p hp
      · obtain rfl := hfit.output j houtput
        exact hstill.pipes i hi p hp
    cases action with
    | read =>
      obtain hnone | ⟨j, hj⟩ := Option.eq_none_or_eq_some st.input
      · simp only [Station.attempt, Station.tryRead, hnone, Prod.mk.injEq, Poll.ready.injEq] at ha
        exact ha.1.symm
      · obtain ⟨p, hp, hp'⟩ := hclosed j (.inl hj)
        simp only [Station.attempt, Station.tryRead_eq hj hp, hfresh, Pipe.pollRead, hp'.1, if_true,
          Prod.mk.injEq, Poll.ready.injEq] at ha
        exact ha.1.symm
    | write v => exact hlate
    | awaitTimer id ms => exact hlate
    | level =>
      simp only [Station.attempt, Prod.mk.injEq, Poll.ready.injEq] at ha
      exact ha.1 ▸ h.torn.level
    | inputClosed =>
      simp only [Station.attempt, Prod.mk.injEq, Poll.ready.injEq] at ha
      rw [← ha.1]
      obtain hnone | ⟨j, hj⟩ := Option.eq_none_or_eq_some st.input
      · simp [Action.AnsweredDead, Station.orAbsent, hnone]
      · obtain ⟨p, hp, hp'⟩ := hclosed j (.inl hj)
        simp [Action.AnsweredDead, Station.orAbsent, hj, hp, hp'.1]
    | outputClosed =>
      simp only [Station.attempt, Prod.mk.injEq, Poll.ready.injEq] at ha
      rw [← ha.1]
      obtain hnone | ⟨j, hj⟩ := Option.eq_none_or_eq_some st.output
      · simp [Action.AnsweredDead, Station.orAbsent, hnone]
      · obtain ⟨p, hp, hp'⟩ := hclosed j (.inr hj)
        simp [Action.AnsweredDead, Station.orAbsent, hj, hp, hp'.1]
    | _ => trivial
  · refine h.torn.replace hi h.wired hserves (congrArg Prod.fst hstanding).ge ?_
    rintro u hu
    obtain rfl := Option.some.inj hu
    exact hcancelled

/-! ## Runs to the end -/

/-- The run ends with nothing but steps, and the same way for all sufficient numbers of them. -/
def Finishes (L : Span) (i : Nat) (t : Task) (task? : Nat → Option Task) (incoming : List Nat)
    (st : Station) (job : Job) (b : Behavior Unit) : Prop :=
  ∃ budget progress st' job', progress.Ended ∧
    (∀ n ≥ budget, st.run n (.task (L.first + i)) job b = (progress, st', job')) ∧
    job'.standing = job.standing ∧ Ending L i t task? incoming st' job' (.result ())

/-- A run ends if it does so after one step. -/
theorem Finishes.step {b' : Behavior Unit}
    (hstep : ∀ n, st.run (n + 1) (.task (L.first + i)) job b =
      st'.run n (.task (L.first + i)) job' b')
    (hstanding : job'.standing = job.standing)
    (h : Finishes L i t task? incoming st' job' b') : Finishes L i t task? incoming st job b := by
  obtain ⟨budget, progress, st'', job'', hended, hrun, hstanding', hending⟩ := h
  refine ⟨budget + 1, progress, st'', job'', hended, fun n hn => ?_, hstanding'.trans hstanding,
    hending⟩
  obtain ⟨n, rfl⟩ := Nat.exists_eq_add_of_le' hn
  rw [← Nat.add_assoc, hstep]
  exact hrun _ (by omega)

/-- A stage at work may come to any behavior that is as tidy, as long as it reads nothing. -/
theorem Ending.continue {b' : Behavior Unit} (hi : i < L.count)
    (h : Ending L i t task? incoming st job b) (hb : ¬ b.Reads)
    (htidy : ∀ held, b.Tidy [] held → b'.Tidy [] held) :
    Ending L i t task? incoming st job b' where
  wired := h.wired.continue hi hb htidy
  torn := by
    refine { h.torn with timers := fun k hk u hu id hid => ?_ }
    by_cases hki : L.first + k = L.first + i
    · rw [hki, L.put_self] at hu
      obtain rfl := Option.some.inj hu
      exact h.torn.timers i hi _ (L.put_self _) id hid
    · rw [L.put_other hki] at hu
      refine h.torn.timers k hk u ?_ id hid
      rw [L.put_other hki]
      exact hu

/-- After a teardown a behavior that ends is run to what comes after it, or fails. -/
theorem Ending.finishes {α : Type} (hi : i < L.count) {told : α → Prop} {c : Behavior α}
    (hc : c.Ends told) {f : α → Behavior Unit}
    (h : Ending L i t task? incoming st job (c.bind f)) (hfresh : st.reading = .fresh)
    (hf : ∀ a st' job', told a → Ending L i t task? incoming st' job' (f a) →
      st'.reading = .fresh → Finishes L i t task? incoming st' job' (f a)) :
    Finishes L i t task? incoming st job (c.bind f) := by
  induction c generalizing st job with
  | result a => exact hf a st job hc h hfresh
  | fail e =>
    refine ⟨1, .failed e, st, job, trivial, fun n hn => ?_, rfl, ?_⟩
    · obtain ⟨n, rfl⟩ := Nat.exists_eq_add_of_le' hn
      rfl
    · exact h.continue hi id fun _ _ => List.nil_subset _
  | crash => exact hc.elim
  | act action next ih =>
    obtain ⟨answer, st', job', ha, -, hdead, hfresh', hstanding, hending⟩ := h.attempt hi hc.1
    refine Finishes.step (fun n => ?_) hstanding
      (ih answer (hc.2 answer (hdead hfresh)) hending hfresh' hf)
    simp only [Behavior.bind, Station.run, ha]
  | loop s body next ihbody ihnext =>
    have hround : Ending L i t task? incoming st job
        (Behavior.unfold s body fun b => (next b).bind f) :=
      h.continue hi id fun _ => Behavior.Tidy.unfold
    refine Finishes.step (fun n => rfl) rfl (ihbody s (hc.1 s) hround hfresh ?_)
    -- the round is the last
    rintro (s' | b) st' job' hlast hending hfresh'
    · exact absurd hlast (by simp)
    · exact ihnext b (hc.2 b) hending hfresh' hf

/-- The behavior is parked: its next action has to wait. -/
def Behavior.Parked : Behavior Unit → Prop
  | .act action _ => action.Waits
  | _ => False

/-- The task comes to its end after a teardown, wherever it is parked, and also if it has not begun
yet. -/
structure Task.Perishable (t : Task) : Prop where
  mortal : t.behavior.Mortal
  begun : t.behavior.Parked ∨ t.station.reading = .fresh ∧ t.behavior.Ends fun _ => True

theorem Behavior.bind_result {α : Type} (b : Behavior α) : b.bind .result = b := by
  induction b with
  | result a => rfl
  | fail e => rfl
  | crash => rfl
  | act action next ih => simp only [Behavior.bind, ih]
  | loop s body next _ ih => simp only [Behavior.bind, ih]

/-- After a teardown a stage is run to its end. -/
theorem Ending.perishes (hi : i < L.count) (h : Ending L i t task? incoming st job b)
    (hb : ({ t with station := st, behavior := b } : Task).Perishable) :
    Finishes L i t task? incoming st job b := by
  have hends : ∀ {st : Station} {job : Job} {c : Behavior Unit},
      Ending L i t task? incoming st job c → st.reading = .fresh → (c.Ends fun _ => True) →
      Finishes L i t task? incoming st job c := by
    intro st job c h hfresh hc
    rw [← c.bind_result] at h ⊢
    refine h.finishes hi hc hfresh fun a st' job' _ hending _ => ?_
    refine ⟨1, .done a, st', job', trivial, fun n hn => ?_, rfl, hending⟩
    obtain ⟨n, rfl⟩ := Nat.exists_eq_add_of_le' hn
    rfl
  rcases hb.begun with hparked | ⟨hfresh, hc⟩
  · cases b with
    | act action next =>
      have hwaits : action.Waits := hparked
      obtain ⟨answer, st', job', ha, hlate, -, hfresh, hstanding, hending⟩ :=
        h.attempt hi hwaits.fading
      refine Finishes.step (fun n => ?_) hstanding
        (hends hending hfresh ((hb.mortal.2 answer).2 hwaits hlate))
      simp only [Station.run, ha]
    | _ => exact hparked.elim
  · exact hends h hfresh hc

end Stage

end Pipework
