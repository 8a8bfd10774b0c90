import Pipework.Job.Pipeline
import Pipework.Proofs.Job.Manners
import Pipework.Proofs.Job.Serving

/-!
# A pipeline at work

The stages of a pipeline are tasks with successive numbers; stage `i` writes to one pipe and stage
`i + 1` reads it. `Wired` is what holds between any two actions of anybody:

* each stage uses its own pipes and its own timers, and is tidy in the sense of `Behavior.Tidy`;
* **nobody sleeps unseen**: a stage is ready, or it is parked where somebody will wake it;
* whoever else is in the pool only operates on the job, as a watch does;
* the close of the last pipe will be observed, or the pipeline is finished.

An action of one stage keeps all this since it serves the other stages (`Job.Serves`).
-/

namespace Pipework

/-- Where the stages of a pipeline are. -/
structure Span where
  /-- The pool of the stages. -/
  pool : Nat
  /-- The number of the first stage's task. -/
  first : Nat
  /-- The number of the first stage's pipe. -/
  base : Nat
  /-- How many stages there are. -/
  count : Nat
  /-- The number of the pipeline. -/
  number : Nat
  /-- The numbers of the other tasks in the pool. -/
  watches : List Nat

/-- The behavior is about to read. -/
def Behavior.Reads : Behavior Unit → Prop
  | .act .read _ => True
  | _ => False

/-- The task is parked where somebody will wake it. -/
def Job.Awaits (job : Job) (task : Nat) (st : Station) : Behavior Unit → Prop
  | .act .read _ => ∃ i p ticket, st.input = some i ∧ job.pipes[i]? = some p ∧
      st.reading = .parked ticket ∧ (ticket, .task task) ∈ p.parked
  | .act (.write _) _ => ∃ i p, st.output = some i ∧ job.pipes[i]? = some p ∧
      .task task ∈ p.blocked
  | .act (.awaitTimer id _) _ => id ∈ st.timers ∧ job.Runs id ∧
      job.timers[id]? = some { cancelled := false, waker := some (.task task) }
  | _ => False

/-- The station holds nothing. -/
structure Station.Idle (st : Station) : Prop where
  input : st.input = none
  output : st.output = none
  timers : st.timers = []

/-- The task does what a watch does. -/
structure Task.Operates (t : Task) : Prop where
  behavior : t.behavior.Obeys .operating
  station : t.station.Idle

/-- Stage `i` is in its place. -/
structure Span.Fit (L : Span) (job : Job) (i : Nat) (t : Task) : Prop where
  pool : t.pool = L.pool
  /-- It reads the pipe of the stage before. -/
  input : ∀ j, t.station.input = some j → ∃ before, i = before + 1 ∧ j = L.base + before
  /-- It writes to the pipe of its own. -/
  output : ∀ j, t.station.output = some j → j = L.base + i
  /-- While it holds a ticket it waits for the answer. -/
  reading : t.station.reading = .fresh ∨ t.behavior.Reads ∧
    ∃ ticket, t.station.reading = .parked ticket ∧
      ∃ j p, t.station.input = some j ∧ job.pipes[j]? = some p ∧ ticket ∈ p.tickets
  /-- Its timers are in use or cancelled. -/
  timers : ∀ id ∈ t.station.timers, ∃ timer, job.timers[id]? = some timer ∧
    (job.Runs id ∨ timer.cancelled = true)
  /-- It waits only on its timers. -/
  tidy : ∃ held, held ⊆ t.station.timers ∧ t.behavior.Tidy [] held

/-- The stages that are left, in a job, with the tasks that have been started and are not on the
ready list yet. The stage `busy` is at work. -/
structure Wired (L : Span) (busy : Option Nat) (job : Job) (task? : Nat → Option Task)
    (incoming : List Nat) : Prop where
  pipes : ∀ i < L.count, ∃ p, job.pipes[L.base + i]? = some p ∧ p.Sound
  fit : ∀ i < L.count, ∀ t, task? (L.first + i) = some t → L.Fit job i t
  /-- No two stages share a timer. -/
  apart : ∀ i < L.count, ∀ k < L.count, i ≠ k → ∀ t u, task? (L.first + i) = some t →
    task? (L.first + k) = some u → ∀ id ∈ t.station.timers, id ∉ u.station.timers
  awake : ∀ i < L.count, ∀ t, task? (L.first + i) = some t → busy = some i ∨
    L.first + i ∈ job.ready ∨ L.first + i ∈ incoming ∨ job.Awaits (L.first + i) t.station t.behavior
  /-- Who is no stage is a watch, and was there before. -/
  others : ∀ id t, task? id = some t → t.pool = L.pool → (∀ i < L.count, id ≠ L.first + i) →
    id ∈ L.watches ∧ t.Operates
  /-- The close of the last pipe is observed. -/
  observed : L.number < job.progress.size ∧ ∃ p, job.pipes[L.base + (L.count - 1)]? = some p ∧
    (L.number ∈ p.onWriteClose ∨ job.Finished L.number)

/-! ## What others do -/

section Others

variable {L : Span} {job job' : Job} {own : Nat → Option Nat} {mine : Nat → Prop}

/-- A stage keeps its place when somebody serves it. -/
theorem Span.Fit.serve {i : Nat} {t : Task} (h : L.Fit job i t) (hserves : Job.Serves own mine job job')
    (hown : ∀ j, t.station.input = some j → own j = none)
    (hmine : ∀ id ∈ t.station.timers, ¬ mine id) : L.Fit job' i t :=
  { h with
    reading := by
      rcases h.reading with hfresh | ⟨hreads, ticket, hparked, j, p, hj, hp, hticket⟩
      · exact .inl hfresh
      · obtain ⟨p', events, hp', -, hpipe, -⟩ := hserves.pipes j p hp
        have hmem := hpipe.mem_tickets hticket (by simp [hown j hj])
        exact .inr ⟨hreads, ticket, hparked, j, p', hj, hp', hmem⟩
    timers := by
      intro id hid
      obtain ⟨timer, htimer, hkept⟩ := h.timers id hid
      obtain ⟨timer', htimer', hsame | hcancelled⟩ := hserves.timers id timer (hmine id hid) htimer
      · obtain ⟨rfl, hruns⟩ := hsame
        exact ⟨timer', htimer', hkept.imp hruns fun hc => hc⟩
      · exact ⟨timer', htimer', .inr hcancelled.1⟩ }

/-- A stage that is parked stays so or is woken when somebody serves it. -/
theorem Job.Awaits.serve {task : Nat} {st : Station} {b : Behavior Unit}
    (h : job.Awaits task st b) (hserves : Job.Serves own mine job job')
    (hown : ∀ j, st.input = some j → own j = none) (hmine : ∀ id ∈ st.timers, ¬ mine id) :
    task ∈ job'.ready ∨ job'.Awaits task st b := by
  unfold Job.Awaits at h ⊢
  split at h
  · obtain ⟨i, p, ticket, hi, hp, hreading, hparked⟩ := h
    obtain ⟨p', events, hp', -, hpipe, hwake, -⟩ := hserves.pipes i p hp
    rcases hpipe.parked _ hparked (by simp [hown i hi]) with hstays | ⟨-, hwoken⟩
    · exact .inr ⟨i, p', ticket, hi, hp', hreading, hstays⟩
    · exact .inl (hwake (.task task) hwoken)
  · obtain ⟨i, p, hi, hp, hblocked⟩ := h
    obtain ⟨p', events, hp', -, hpipe, hwake, -⟩ := hserves.pipes i p hp
    rcases hpipe.blocked _ hblocked with hstays | hwoken
    · exact .inr ⟨i, p', hi, hp', hstays⟩
    · exact .inl (hwake (.task task) hwoken)
  · obtain ⟨hheld, hruns, htimer⟩ := h
    obtain ⟨timer', htimer', hsame | ⟨-, hwoken⟩⟩ := hserves.timers _ _ (hmine _ hheld) htimer
    · obtain ⟨rfl, hkept⟩ := hsame
      exact .inr ⟨hheld, hkept hruns, htimer'⟩
    · exact .inl (hwoken (.task task) rfl rfl)
  · exact h.elim

variable {busy : Option Nat} {task? task?' : Nat → Option Task} {incoming : List Nat}

/-- The pipes of a pipeline stay sound, and its last close is observed. -/
theorem Wired.pipes_serve (h : Wired L busy job task? incoming) (hserves : Job.Serves own mine job job') :
    (∀ i < L.count, ∃ p, job'.pipes[L.base + i]? = some p ∧ p.Sound) ∧
      (L.number < job'.progress.size ∧ ∃ p, job'.pipes[L.base + (L.count - 1)]? = some p ∧
        (L.number ∈ p.onWriteClose ∨ job'.Finished L.number)) := by
  refine ⟨fun i hi => ?_, ?_⟩
  · obtain ⟨p, hp, hsound⟩ := h.pipes i hi
    obtain ⟨p', events, hp', hsound', -⟩ := hserves.pipes _ p hp
    exact ⟨p', hp', hsound' hsound⟩
  · obtain ⟨hlt, p, hp, hobserved⟩ := h.observed
    obtain ⟨p', events, hp', -, hpipe, -, hcall⟩ := hserves.pipes _ p hp
    refine ⟨by rw [hserves.progressSize]; exact hlt, p', hp', ?_⟩
    rcases hobserved with hwaits | hfinished
    · exact (hpipe.callbacks _ hwaits).imp_right fun hcalled => hcall _ hcalled hlt
    · exact .inr (hserves.finished _ hfinished)

/-- Somebody who is no stage serves all stages. -/
theorem Wired.serve (h : Wired L busy job task? incoming) (hserves : Job.Serves own mine job job')
    (hown : ∀ i, i + 1 < L.count → own (L.base + i) = none) (hmine : ∀ id, ¬ mine id) :
    Wired L busy job' task? incoming := by
  have hothers : ∀ i < L.count, ∀ t, task? (L.first + i) = some t →
      ∀ j, t.station.input = some j → own j = none := by
    intro i hi t ht j hj
    obtain ⟨before, rfl, rfl⟩ := (h.fit i hi t ht).input j hj
    exact hown before hi
  refine ⟨(h.pipes_serve hserves).1, ?_, h.apart, ?_, h.others, (h.pipes_serve hserves).2⟩
  · intro i hi t ht
    exact (h.fit i hi t ht).serve hserves (hothers i hi t ht) fun id _ => hmine id
  · intro i hi t ht
    rcases h.awake i hi t ht with hbusy | hready | hincoming | hawaits
    · exact .inl hbusy
    · exact .inr (.inl (hserves.ready hready))
    · exact .inr (.inr (.inl hincoming))
    · rcases hawaits.serve hserves (hothers i hi t ht) fun id _ => hmine id with hready | hawaits
      · exact .inr (.inl hready)
      · exact .inr (.inr (.inr hawaits))

/-- The stage at work serves the other stages, and takes the place of what it was before. -/
theorem Wired.replace {i : Nat} (h : Wired L (some i) job task? incoming) (hi : i < L.count)
    {t : Task} (ht : task? (L.first + i) = some t)
    (hserves : Job.Serves own mine job job')
    (hown : ∀ k, k + 1 ≠ i → own (L.base + k) = none) (hmine : ∀ id, mine id → id ∈ t.station.timers)
    (hsame : ∀ id, id ≠ L.first + i → task?' id = task? id)
    (hfit : ∀ t', task?' (L.first + i) = some t' → L.Fit job' i t')
    (htimers : ∀ t', task?' (L.first + i) = some t' → ∀ id ∈ t'.station.timers,
      id ∈ t.station.timers ∨ job.timers.size ≤ id)
    (hawake : ∀ t', task?' (L.first + i) = some t' → busy = some i ∨
      job'.Awaits (L.first + i) t'.station t'.behavior) :
    Wired L busy job' task?' incoming := by
  have hne : ∀ {k}, k ≠ i → task?' (L.first + k) = task? (L.first + k) :=
    fun hk => hsame _ (by omega)
  have hothers : ∀ k < L.count, k ≠ i → ∀ u, task? (L.first + k) = some u →
      (∀ j, u.station.input = some j → own j = none) ∧ ∀ id ∈ u.station.timers, ¬ mine id := by
    intro k hk hki u hu
    refine ⟨fun j hj => ?_, fun id hid hm => ?_⟩
    · obtain ⟨before, rfl, rfl⟩ := (h.fit k hk u hu).input j hj
      exact hown before hki
    · exact h.apart k hk i hi hki u t hu ht id hid (hmine id hm)
  -- a timer of another stage is older than those that the stage has just started
  have hold : ∀ k < L.count, k ≠ i → ∀ u, task? (L.first + k) = some u →
      ∀ t', task?' (L.first + i) = some t' → ∀ id ∈ u.station.timers, id ∉ t'.station.timers := by
    intro k hk hki u hu t' ht' id hid hid'
    rcases htimers t' ht' id hid' with hmem | hnew
    · exact h.apart k hk i hi hki u t hu ht id hid hmem
    · obtain ⟨timer, htimer, -⟩ := (h.fit k hk u hu).timers id hid
      exact absurd (Array.getElem?_eq_some_iff.mp htimer).1 (by omega)
  refine ⟨(h.pipes_serve hserves).1, ?_, ?_, ?_, ?_, (h.pipes_serve hserves).2⟩
  · intro k hk u hu
    by_cases hki : k = i
    · subst hki
      exact hfit u hu
    · rw [hne hki] at hu
      obtain ⟨howns, hmines⟩ := hothers k hk hki u hu
      exact (h.fit k hk u hu).serve hserves howns hmines
  · intro k hk l hl hkl u v hu hv
    by_cases hki : k = i
    · subst hki
      rw [hne (Ne.symm hkl)] at hv
      exact fun id hid hid' => hold l hl (Ne.symm hkl) v hv u hu id hid' hid
    · rw [hne hki] at hu
      by_cases hli : l = i
      · subst hli
        exact hold k hk hki u hu v hv
      · rw [hne hli] at hv
        exact h.apart k hk l hl hkl u v hu hv
  · intro k hk u hu
    by_cases hki : k = i
    · subst hki
      exact (hawake u hu).imp_right fun ha => .inr (.inr ha)
    · rw [hne hki] at hu
      obtain ⟨howns, hmines⟩ := hothers k hk hki u hu
      rcases h.awake k hk u hu with hbusy | hready | hincoming | hawaits
      · exact absurd (Option.some.inj hbusy).symm hki
      · exact .inr (.inl (hserves.ready hready))
      · exact .inr (.inr (.inl hincoming))
      · rcases hawaits.serve hserves howns hmines with hready | hawaits
        · exact .inr (.inl hready)
        · exact .inr (.inr (.inr hawaits))
  · intro id u hu hpool hno
    rw [hsame id (hno i hi)] at hu
    exact h.others id u hu hpool hno

end Others

end Pipework
