import Pipework.Proofs.Job.Wiring

/-!
# One action of a stage

Whatever action a stage attempts, it serves the others (`Station.attempt_serves`). If the action
answers, the stage is in its place with what comes next (`Span.Fit.attempt`); if it has to wait, the
stage is parked where somebody will wake it (`Span.Fit.attempt_pending`).
-/

namespace Pipework

namespace Station

variable (st : Station) (job : Job)

/-- The ticket under which the station reads a pipe. -/
def own (i : Nat) : Option Nat :=
  if st.input = some i then st.reading.ticket? else none

theorem own_self {st : Station} {i : Nat} (h : st.input = some i) : st.own i = st.reading.ticket? := if_pos h

/-! ## Reading and writing -/

theorem tryRead_eq {st : Station} {job : Job} {who : Waker} {i : Nat} {p : Pipe Value} (hi : st.input = some i)
    (hp : job.pipes[i]? = some p) :
    st.tryRead who job =
      match p.pollRead who st.reading with
      | (.pending, reading, p', events) =>
        (.pending, { st with reading := reading }, job.store i p' events)
      | (.ready item, _, p', events) =>
        (.ready item, { st with reading := .fresh }, job.store i p' events) := by
  simp only [tryRead, hi, Job.query_eq hp]
  rcases p.pollRead who st.reading with ⟨_ | _, _, _, _⟩ <;> rfl

theorem tryWrite_eq {st : Station} {job : Job} {who : Waker} {v : Value} {i : Nat} {p : Pipe Value} (hi : st.output = some i)
    (hp : job.pipes[i]? = some p) :
    st.tryWrite who v job =
      ((p.pollWrite who v).1, st, job.store i (p.pollWrite who v).2.1 (p.pollWrite who v).2.2) := by
  simp only [tryWrite, hi, Job.query_eq hp]

theorem tryRead_none {st : Station} {job : Job} {who : Waker} (hi : st.input = none) :
    st.tryRead who job = (.ready none, st, job) := by
  rw [tryRead, hi]

theorem tryWrite_none {st : Station} {job : Job} {who : Waker} {v : Value} (hi : st.output = none) :
    st.tryWrite who v job = (.ready (.error (.alreadyWriteClosed "")), st, job) := by
  rw [tryWrite, hi]

theorem tryRead_serves (mine : Nat → Prop) (who : Waker) :
    Job.Serves st.own mine job (st.tryRead who job).2.2 := by
  cases hi : st.input with
  | none => simpa [tryRead, hi] using Job.Serves.refl
  | some i =>
    cases hp : job.pipes[i]? with
    | none => simpa [tryRead, hi, Job.query, hp] using Job.Serves.refl
    | some p =>
      rw [tryRead_eq hi hp]
      have hserves := Pipe.serves_pollRead p who st.reading
      have hsound : p.Sound → (p.pollRead who st.reading).2.2.1.Sound := fun h => h.pollRead who _
      rw [← own_self hi] at hserves
      rcases hpoll : p.pollRead who st.reading with ⟨_ | _, _, p', events⟩ <;>
        rw [hpoll] at hserves hsound <;> exact Job.serves_store i hp hsound hserves

theorem tryWrite_serves (mine : Nat → Prop) (who : Waker) (v : Value) :
    Job.Serves st.own mine job (st.tryWrite who v job).2.2 := by
  cases hi : st.output with
  | none => simpa [tryWrite, hi] using Job.Serves.refl
  | some i =>
    cases hp : job.pipes[i]? with
    | none => simpa [tryWrite, hi, Job.query, hp] using Job.Serves.refl
    | some p =>
      rw [tryWrite_eq hi hp]
      exact Job.serves_store i hp (fun h => h.pollWrite who v)
        ((p.serves_pollWrite who v).weaken _)

/-! ## Releasing -/

theorem closeInput_serves {own : Nat → Option Nat} (mine : Nat → Prop) :
    Job.Serves own mine job (st.closeInput job).2 := by
  unfold closeInput
  split
  · exact Job.serves_closeRead _
  · exact .refl

theorem closeOutput_serves {own : Nat → Option Nat} (mine : Nat → Prop) :
    Job.Serves own mine job (st.closeOutput job).2 := by
  unfold closeOutput
  split
  · exact Job.serves_closeWrite _
  · exact .refl

theorem abandonRead_serves (mine : Nat → Prop) :
    Job.Serves st.own mine job (st.abandonRead job).2 := by
  unfold abandonRead
  split
  · rename_i i hi
    refine Job.serves_change i (fun p h => h.dropRead _) fun p => ?_
    rw [own_self hi]
    exact p.serves_dropRead st.reading
  · exact .refl

theorem forgetTimers_serves {own : Nat → Option Nat} {mine : Nat → Prop}
    (hmine : ∀ id ∈ st.timers, mine id) : Job.Serves own mine job (st.forgetTimers job).2 := by
  unfold forgetTimers
  generalize st.timers = timers at hmine
  induction timers generalizing job with
  | nil => exact .refl
  | cons id timers ih =>
    have hfirst : Job.Serves own mine job (job.forgetTimer id) :=
      Job.serves_forgetTimer (hmine id List.mem_cons_self)
    exact hfirst.trans (ih _ fun other hother => hmine other (List.mem_cons_of_mem _ hother))

theorem timers_abandonRead : (st.abandonRead job).1.timers = st.timers := by
  unfold abandonRead
  split <;> rfl

theorem timers_closeInput : (st.closeInput job).1.timers = st.timers := by
  unfold closeInput
  split <;> rfl

/-- Releasing a station touches its own read and its own timers only. -/
theorem release_serves : Job.Serves st.own (· ∈ st.timers) job (st.release job) := by
  have habandon := abandonRead_serves st job (· ∈ st.timers)
  have hclose := habandon.trans (closeInput_serves (st.abandonRead job).1 _ _)
  have hforget := hclose.trans (forgetTimers_serves
    ((st.abandonRead job).1.closeInput (st.abandonRead job).2).1 _ fun id hid => by
      rwa [timers_closeInput, timers_abandonRead] at hid)
  exact hforget.trans (closeOutput_serves _ _ _)

/-! ## Any action -/

/-- An action without a clock touches its own read only. -/
theorem attempt_serves_clockless {β : Type} (mine : Nat → Prop) (who : Waker) {action : Action β}
    (haction : action.Clockless) :
    Job.Serves st.own mine job (st.attempt who action job).2.2 := by
  cases action with
  | read => exact tryRead_serves st job _ who
  | write v => exact tryWrite_serves st job _ who v
  | closeInput => exact closeInput_serves st job _
  | closeOutput => exact closeOutput_serves st job _
  | interrupt hard =>
    cases hard with
    | false => exact Job.serves_interrupt
    | true => exact Job.serves_interruptHard
  | startTimer kind => exact haction.elim
  | awaitTimer id ms => exact haction.elim
  | forgetTimer id => exact haction.elim
  | pause ms => exact haction.elim
  | log level subsystem message => exact Job.serves_log level subsystem message
  | inputClosed | outputClosed | level | shell | arguments | setArguments => exact .refl
  | _ => exact .of_eq (fun _ h => h) rfl rfl rfl rfl

/-- Any action touches its own read and its own timers only. -/
theorem attempt_serves {β : Type} (who : Waker) {action : Action β}
    (hpermitted : action.Permitted st.timers) :
    Job.Serves st.own (· ∈ st.timers) job (st.attempt who action job).2.2 := by
  cases action with
  | startTimer kind => exact Job.serves_startTimer kind st.output
  | awaitTimer id ms =>
    set deadline := st.deadline.getD (Timer.deadline job.now ms) with hdeadline
    have hpoll : Job.Serves st.own (· ∈ st.timers) job (job.pollTimer id deadline who).2 :=
      Job.serves_pollTimer hpermitted deadline who
    simp only [attempt, tryWait, ← hdeadline]
    rcases hp : job.pollTimer id deadline who with ⟨_ | _, job'⟩ <;> rw [hp] at hpoll <;> exact hpoll
  | forgetTimer id => exact Job.serves_forgetTimer hpermitted
  | pause ms => exact hpermitted.elim
  | _ => exact attempt_serves_clockless st job _ who trivial

theorem closeInput_station : (st.closeInput job).1 = { st with input := none } := by
  unfold closeInput
  split
  · rfl
  · rename_i hnone
    rw [← hnone]

theorem closeOutput_station : (st.closeOutput job).1 = { st with output := none } := by
  unfold closeOutput
  split
  · rfl
  · rename_i hnone
    rw [← hnone]

variable {st job}

/-- After an answer to a read the station reads nothing. -/
theorem reading_tryRead {who : Waker} {item : Option Value} {st' : Station} {job' : Job}
    (ha : st.tryRead who job = (.ready item, st', job'))
    (hreading : st.reading = .fresh ∨ st.input.isSome) : st' = { st with reading := .fresh } := by
  obtain hi | ⟨i, hi⟩ := Option.eq_none_or_eq_some st.input
  · have hfresh : st.reading = .fresh := hreading.resolve_right (by simp [hi])
    simp only [tryRead, hi, Prod.mk.injEq] at ha
    rw [← ha.2.1, ← hfresh]
  · obtain hp | ⟨p, hp⟩ := Option.eq_none_or_eq_some job.pipes[i]?
    · simp only [tryRead, hi, Job.query, hp, Prod.mk.injEq] at ha
      rw [← ha.2.1, ← hi]
    · rw [tryRead_eq hi hp] at ha
      rcases hpoll : p.pollRead who st.reading with ⟨_ | _, _, p', events⟩ <;>
        simp only [hpoll, Prod.mk.injEq, reduceCtorEq, false_and] at ha
      rw [← ha.2.1]

/-- After an answer the station has its handles, or has released one, and reads nothing. -/
theorem attempt_station {β : Type} {who : Waker} {action : Action β} (haction : action.Clockless)
    {answer : β} {st' : Station} {job' : Job} (ha : st.attempt who action job = (.ready answer, st', job'))
    {next : β → Behavior Unit}
    (hreading : st.reading = .fresh ∨ (Behavior.act action next).Reads ∧ st.input.isSome) :
    (st'.input = st.input ∨ st'.input = none) ∧ (st'.output = st.output ∨ st'.output = none) ∧
      st'.reading = .fresh ∧ st'.timers = st.timers := by
  cases action with
  | read =>
    have hst := reading_tryRead ha (hreading.imp_right fun h => h.2)
    rw [hst]
    exact ⟨.inl rfl, .inl rfl, rfl, rfl⟩
  | write v =>
    have hfresh : st.reading = .fresh := hreading.resolve_right fun h => h.1
    have hst : (st.tryWrite who v job).2.1 = st := by
      unfold tryWrite
      split <;> rfl
    rw [show st.attempt who (.write v) job = st.tryWrite who v job from rfl] at ha
    rw [ha] at hst
    obtain rfl : st' = st := hst
    exact ⟨.inl rfl, .inl rfl, hfresh, rfl⟩
  | closeInput =>
    have hfresh : st.reading = .fresh := hreading.resolve_right fun h => h.1
    simp only [attempt, Prod.mk.injEq] at ha
    rw [← ha.2.1, closeInput_station]
    exact ⟨.inr rfl, .inl rfl, hfresh, rfl⟩
  | closeOutput =>
    have hfresh : st.reading = .fresh := hreading.resolve_right fun h => h.1
    simp only [attempt, Prod.mk.injEq] at ha
    rw [← ha.2.1, closeOutput_station]
    exact ⟨.inl rfl, .inr rfl, hfresh, rfl⟩
  | startTimer kind => exact haction.elim
  | awaitTimer id ms => exact haction.elim
  | forgetTimer id => exact haction.elim
  | pause ms => exact haction.elim
  | _ =>
    have hfresh : st.reading = .fresh := hreading.resolve_right fun h => h.1
    simp only [attempt, Prod.mk.injEq] at ha
    rw [← ha.2.1]
    exact ⟨.inl rfl, .inl rfl, hfresh, rfl⟩

end Station

/-! ## Timers -/

theorem Timer.cancelled_pollWait (t : Timer) (now deadline : Nat) (who : Waker) :
    (t.pollWait now deadline who).2.cancelled = t.cancelled := by
  unfold pollWait
  split
  · rfl
  · dsimp only
    split <;> rfl

/-- A wait that goes on is on a timer that has not been cancelled, and has left its waker. -/
theorem Timer.pollWait_pending (t : Timer) (now deadline : Nat) (who : Waker)
    (h : (t.pollWait now deadline who).1 = .pending) :
    t.cancelled = false ∧ (t.pollWait now deadline who).2 = { cancelled := false, waker := some who } := by
  unfold pollWait at h ⊢
  split at h
  · simp at h
  · rename_i hopen
    have hopen : t.cancelled = false := by simpa using hopen
    rw [if_neg (by simp [hopen])]
    dsimp only at h ⊢
    split at h
    · simp at h
    · rename_i hlate
      simp [hlate, hopen]

theorem Job.timer_eq {job : Job} {id : Nat} {t : Timer} (h : job.timers[id]? = some t) :
    job.timer id = t := by
  simp [Job.timer, Array.getD_eq_getD_getElem?, h]

/-- Polling a timer leaves its use and its cancellation as they are. -/
theorem Job.kept_pollTimer {job : Job} {other : Nat} (id deadline : Nat) (who : Waker)
    (h : ∃ timer, job.timers[other]? = some timer ∧ (job.Runs other ∨ timer.cancelled = true)) :
    ∃ timer, (job.pollTimer id deadline who).2.timers[other]? = some timer ∧
      ((job.pollTimer id deadline who).2.Runs other ∨ timer.cancelled = true) := by
  obtain ⟨timer, htimer, hkept⟩ := h
  by_cases hother : id = other
  · subst hother
    have hlt : id < job.timers.size := (Array.getElem?_eq_some_iff.mp htimer).1
    refine ⟨(timer.pollWait job.now deadline who).2, ?_, ?_⟩
    · simp [pollTimer, Job.timer_eq htimer, hlt]
    · rw [Timer.cancelled_pollWait]
      exact hkept
  · exact ⟨timer, by simpa [pollTimer, Array.getElem?_setIfInBounds, hother] using htimer, hkept⟩

/-- A timer that has just been started is in use. -/
theorem Job.kept_startTimer (kind : TimerKind) (link : Option Nat) (job : Job) :
    (job.startTimer kind link).1 = job.timers.size ∧
      ∃ timer, (job.startTimer kind link).2.timers[job.timers.size]? = some timer ∧
        ((job.startTimer kind link).2.Runs job.timers.size ∨ timer.cancelled = true) := by
  have hruns : (job.enterTimer kind link).2.Runs job.timers.size := by simp [enterTimer, Runs]
  obtain h | h := startTimer_cases kind link job
  · rw [h]
    exact ⟨rfl, {}, by simp [enterTimer], .inl hruns⟩
  · rw [h]
    exact ⟨rfl, { cancelled := true }, by simp [enterTimer], .inr rfl⟩

/-! ## The stage that acts -/

namespace Span.Fit

variable {L : Span} {i : Nat} {t : Task} {st st' : Station} {job job' : Job} {β : Type}
  {action : Action β} {next : β → Behavior Unit}

/-- The stage goes on with its handles, or without one of them. -/
theorem advance (h : L.Fit job i { t with station := st, behavior := .act action next })
    (answer : β) (input : st'.input = st.input ∨ st'.input = none)
    (output : st'.output = st.output ∨ st'.output = none) (reading : st'.reading = .fresh)
    (timers : ∀ id ∈ st'.timers, ∃ timer, job'.timers[id]? = some timer ∧
      (job'.Runs id ∨ timer.cancelled = true))
    (held : ∀ held ⊆ st.timers, action.holds held answer ⊆ st'.timers) :
    L.Fit job' i { t with station := st', behavior := next answer } where
  pool := h.pool
  input j hj := by
    rcases input with hsame | hnone
    · exact h.input j (hsame ▸ hj)
    · exact absurd (hnone.symm.trans hj) (by simp)
  output j hj := by
    rcases output with hsame | hnone
    · exact h.output j (hsame ▸ hj)
    · exact absurd (hnone.symm.trans hj) (by simp)
  reading := .inl reading
  timers := timers
  tidy := by
    obtain ⟨timers, htimers, htidy⟩ := h.tidy
    exact ⟨_, held timers htimers, (htidy.2 answer).1⟩

/-- Timers that nobody touches stay in use or cancelled. -/
theorem timers_serve (h : L.Fit job i t) {own : Nat → Option Nat} {mine : Nat → Prop}
    (hserves : Job.Serves own mine job job') {id : Nat} (hid : id ∈ t.station.timers)
    (hmine : ¬ mine id) : ∃ timer, job'.timers[id]? = some timer ∧
      (job'.Runs id ∨ timer.cancelled = true) := by
  obtain ⟨timer, htimer, hkept⟩ := h.timers id hid
  obtain ⟨timer', htimer', ⟨rfl, hruns⟩ | ⟨hcancelled, -⟩⟩ := hserves.timers id timer hmine htimer
  · exact ⟨timer', htimer', hkept.imp hruns fun hc => hc⟩
  · exact ⟨timer', htimer', .inr hcancelled⟩

/-- A stage that does not read holds no ticket. -/
theorem fresh (h : L.Fit job i { t with station := st, behavior := .act action next })
    (haction : ¬ (Behavior.act action next).Reads) : st.reading = .fresh :=
  h.reading.resolve_right fun hreads => haction hreads.1

theorem permitted (h : L.Fit job i { t with station := st, behavior := .act action next }) :
    action.Permitted st.timers := by
  obtain ⟨held, hheld, htidy⟩ := h.tidy
  exact Behavior.permitted_mono hheld htidy.1

/-- A stage whose action has been answered is in its place with what comes next. -/
theorem attempt (h : L.Fit job i { t with station := st, behavior := .act action next })
    {who : Waker} {answer : β} (ha : st.attempt who action job = (.ready answer, st', job')) :
    L.Fit job' i { t with station := st', behavior := next answer } ∧
      ∀ id ∈ st'.timers, id ∈ st.timers ∨ job.timers.size ≤ id := by
  have hserves := st.attempt_serves job who h.permitted
  rw [ha] at hserves
  by_cases haction : action.Clockless
  · have hclockless := st.attempt_serves_clockless job (fun _ => False) who haction
    rw [ha] at hclockless
    have hreading : st.reading = .fresh ∨ (Behavior.act action next).Reads ∧ st.input.isSome := by
      refine h.reading.imp_right fun ⟨hreads, _, _, j, _, hj, _⟩ => ⟨hreads, ?_⟩
      exact Option.isSome_iff_exists.mpr ⟨j, hj⟩
    obtain ⟨hinput, houtput, hfresh, htimers⟩ := Station.attempt_station haction ha hreading
    refine ⟨h.advance answer hinput houtput hfresh (fun id hid => ?_) fun held hheld => ?_, ?_⟩
    · exact h.timers_serve hclockless (htimers ▸ hid) not_false
    · have hkeeps : action.holds held answer = held := by
        cases action with
        | startTimer kind => exact haction.elim
        | forgetTimer id => exact haction.elim
        | _ => rfl
      rw [hkeeps, htimers]
      exact hheld
    · exact fun id hid => .inl (htimers ▸ hid)
  · have hquiet : st.reading = .fresh := h.fresh fun hreads => by
      cases action with
      | read => exact haction trivial
      | _ => exact hreads
    cases action with
    | startTimer kind =>
      obtain ⟨hnew, hkept⟩ := Job.kept_startTimer kind st.output job
      simp only [Station.attempt, Prod.mk.injEq, Poll.ready.injEq] at ha
      obtain ⟨rfl, rfl, rfl⟩ := ha
      rw [hnew] at *
      refine ⟨h.advance _ (.inl rfl) (.inl rfl) hquiet (fun id hid => ?_) fun held hheld => ?_, ?_⟩
      · rcases List.mem_append.mp hid with hid | hid
        · have hstart : Job.Serves st.own (fun _ => False) job (job.startTimer kind st.output).2 :=
            Job.serves_startTimer kind st.output
          exact h.timers_serve hstart hid not_false
        · rw [List.mem_singleton.mp hid]
          exact hkept
      · intro id hid
        rcases List.mem_cons.mp hid with rfl | hid
        · exact List.mem_append_right _ (List.mem_singleton_self _)
        · exact List.mem_append_left _ (hheld hid)
      · intro id hid
        rcases List.mem_append.mp hid with hid | hid
        · exact .inl hid
        · exact .inr (List.mem_singleton.mp hid).ge
    | awaitTimer id ms =>
      simp only [Station.attempt, Station.tryWait] at ha
      set deadline := st.deadline.getD (Timer.deadline job.now ms)
      have hkept := fun other hother =>
        Job.kept_pollTimer id deadline who (h.timers other hother)
      rcases hp : job.pollTimer id deadline who with ⟨_ | _, job₁⟩ <;>
        simp only [hp, Prod.mk.injEq, Poll.ready.injEq, reduceCtorEq, false_and] at ha
      obtain ⟨rfl, rfl, rfl⟩ := ha
      rw [hp] at hkept
      exact ⟨h.advance _ (.inl rfl) (.inl rfl) hquiet hkept fun held hheld => hheld,
        fun _ hid => .inl hid⟩
    | forgetTimer id =>
      simp only [Station.attempt, Station.forgetTimer, Prod.mk.injEq] at ha
      obtain ⟨-, rfl, rfl⟩ := ha
      refine ⟨h.advance _ (.inl rfl) (.inl rfl) hquiet (fun other hother => ?_)
        fun held hheld other hother => ?_, fun other hother => .inl (List.mem_of_mem_filter hother)⟩
      · obtain ⟨hmem, hne⟩ := List.mem_filter.mp hother
        obtain ⟨timer, htimer, hkept⟩ := h.timers other hmem
        exact ⟨timer, htimer, hkept.imp_left (Job.mem_forgetTimer (by simpa using hne))⟩
      · obtain ⟨hmem, hne⟩ := List.mem_filter.mp hother
        exact List.mem_filter.mpr ⟨hheld hmem, hne⟩
    | pause ms => exact h.permitted.elim
    | _ => exact absurd trivial haction

/-- A stage that has to wait is parked where somebody will wake it. -/
theorem attempt_pending (h : L.Fit job i { t with station := st, behavior := .act action next })
    {task : Nat} (ha : st.attempt (.task task) action job = (.pending, st', job'))
    (hpipes : ∀ j, st.input = some j ∨ st.output = some j → ∃ p, job.pipes[j]? = some p) :
    L.Fit job' i { t with station := st', behavior := .act action next } ∧
      st'.timers = st.timers ∧ job'.Awaits task st' (.act action next) := by
  cases action with
  | read =>
    obtain hi | ⟨j, hi⟩ := Option.eq_none_or_eq_some st.input
    · simp [Station.attempt, Station.tryRead, hi] at ha
    · obtain ⟨p, hp⟩ := hpipes j (.inl hi)
      have hold : ∀ ticket, st.reading.ticket? = some ticket → ticket ∈ p.tickets := by
        intro ticket ht
        rcases h.reading with hfresh | ⟨-, ticket', hparked, j', p', hj', hp', hmem⟩
        · rw [show st.reading = .fresh from hfresh] at ht
          simp [ReadState.ticket?] at ht
        · obtain rfl : j = j' := Option.some.inj (hi.symm.trans hj')
          obtain rfl : p = p' := Option.some.inj (hp.symm.trans hp')
          rw [show st.reading = .parked ticket' from hparked] at ht
          exact Option.some.inj ht ▸ hmem
      simp only [Station.attempt, Station.tryRead_eq hi hp] at ha
      have hpending := Pipe.pollRead_pending p (.task task) st.reading
      rcases hpoll : p.pollRead (.task task) st.reading with ⟨_ | _, reading, p', events⟩ <;>
        simp only [hpoll, Prod.mk.injEq, reduceCtorEq, false_and] at ha
      obtain ⟨-, rfl, rfl⟩ := ha
      rw [hpoll] at hpending
      obtain ⟨ticket, hreading, hparked, -⟩ := hpending rfl hold
      obtain rfl : reading = .parked ticket := hreading
      have hp' := Job.store_self hp p' events
      have hserves : Job.Serves st.own (fun _ => False) job (job.store j p' events) := by
        have := Station.tryRead_serves st job (fun _ => False) (.task task)
        rwa [Station.tryRead_eq hi hp, hpoll] at this
      refine ⟨?_, rfl, j, p', ticket, hi, hp', rfl, hparked⟩
      exact
        { h with
          reading := .inr ⟨trivial, ticket, rfl, j, p', hi, hp',
            List.mem_append_left _ (List.mem_map_of_mem hparked)⟩
          timers := fun id hid => h.timers_serve hserves hid not_false }
  | write v =>
    obtain hi | ⟨j, hi⟩ := Option.eq_none_or_eq_some st.output
    · simp [Station.attempt, Station.tryWrite, hi] at ha
    · obtain ⟨p, hp⟩ := hpipes j (.inr hi)
      simp only [Station.attempt, Station.tryWrite_eq hi hp, Prod.mk.injEq] at ha
      obtain ⟨hpending, rfl, rfl⟩ := ha
      obtain ⟨hblocked, -⟩ := Pipe.pollWrite_pending p (.task task) v hpending
      have hfresh : st.reading = .fresh := h.fresh id
      have hserves := Station.tryWrite_serves st job (fun _ => False) (.task task) v
      rw [Station.tryWrite_eq hi hp] at hserves
      refine ⟨?_, rfl, j, _, hi, Job.store_self hp _ _, hblocked⟩
      exact
        { h with
          reading := .inl hfresh
          timers := fun id hid => h.timers_serve hserves hid not_false }
  | awaitTimer id ms =>
    obtain ⟨timer, htimer, hkept⟩ := h.timers id h.permitted
    have hlt : id < job.timers.size := (Array.getElem?_eq_some_iff.mp htimer).1
    simp only [Station.attempt, Station.tryWait] at ha
    set deadline := st.deadline.getD (Timer.deadline job.now ms)
    have hpending := Timer.pollWait_pending timer job.now deadline (.task task)
    have hothers := fun other hother => Job.kept_pollTimer id deadline (.task task) (h.timers other hother)
    simp only [Job.pollTimer, Job.timer_eq htimer] at ha hothers
    rcases hw : timer.pollWait job.now deadline (.task task) with ⟨_ | _, timer'⟩ <;>
      simp only [hw, Prod.mk.injEq, reduceCtorEq, false_and] at ha
    obtain ⟨-, rfl, rfl⟩ := ha
    rw [hw] at hpending hothers
    obtain ⟨hopen, rfl⟩ := hpending rfl
    have hfresh : st.reading = .fresh := h.fresh not_false
    refine ⟨?_, rfl, h.permitted, ?_, ?_⟩
    · exact { h with reading := .inl hfresh, timers := hothers }
    · exact hkept.resolve_right (by simp [hopen])
    · simp [hlt]
  | pause ms => exact h.permitted.elim
  | _ => simp [Station.attempt] at ha

end Span.Fit

end Pipework
