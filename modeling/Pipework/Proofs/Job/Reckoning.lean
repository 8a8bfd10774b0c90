import Pipework.Proofs.Job.Flowing
import Pipework.Proofs.Job.Polling
import Pipework.Proofs.Job.Waning

/-!
# What a line has still to do

Where it is known how many steps the stages of a line may still take, the polls that are still to come
are bounded: a step counts for more than all polls that it may cause (`Span.effort`). So a line comes to
its end when each poll of a stage takes a step or finds nothing to do (`Span.wanes`).

* `Machine.Hears` — the main future comes to its end when each turn that it has to wait for lowers a
  bound (`Machine.Hears.runUntil`);
* `Machine.Wanes.settle` — a pool comes to rest when nobody who is not ready is left in it.
-/

namespace Pipework

/-! ## Counting polls -/

namespace Span

variable (L : Span) {labor labor' : Nat} {m m' : Machine} {i : Nat}

/-- The stages among these tasks. -/
def among (ids : List Nat) : Finset Nat := (Finset.range L.count).filter fun i => L.first + i ∈ ids

/-- A bound for the polls that are still to come, where `labor` bounds the steps. -/
def effort (labor : Nat) (m : Machine) : Nat :=
  (L.count + 1) * labor + ((L.among m.job.ready).card + (L.among m.incoming).card)

theorem card_among (ids : List Nat) : (L.among ids).card ≤ L.count :=
  (Finset.card_filter_le _ _).trans (Finset.card_range _).le

theorem mem_among {ids : List Nat} : i ∈ L.among ids ↔ i < L.count ∧ L.first + i ∈ ids := by
  rw [among, Finset.mem_filter, Finset.mem_range]

/-- A step is worth more than all polls that it may cause. -/
theorem effort_step (hless : labor' < labor) (hincoming : m'.incoming = m.incoming) :
    L.effort labor' m' < L.effort labor m := by
  have hready := L.card_among m'.job.ready
  have hfactor := Nat.mul_le_mul_left (L.count + 1) (Nat.succ_le_of_lt hless)
  rw [Nat.mul_succ] at hfactor
  rw [effort, effort, hincoming]
  omega

/-- A poll that takes no step still takes a task off the ready list. -/
theorem effort_poll (hi : i < L.count) (hmem : L.first + i ∈ m.job.ready)
    (hready : m'.job.ready = m.job.ready.filter (· != L.first + i))
    (hincoming : m'.incoming = m.incoming) : L.effort labor m' < L.effort labor m := by
  have hless : (L.among m'.job.ready).card < (L.among m.job.ready).card := by
    refine Finset.card_lt_card (Finset.ssubset_iff_of_subset ?_ |>.mpr ⟨i, ?_, ?_⟩)
    · intro k hk
      obtain ⟨hcount, hk⟩ := L.mem_among.mp hk
      rw [hready] at hk
      exact L.mem_among.mpr ⟨hcount, List.mem_of_mem_filter hk⟩
    · exact L.mem_among.mpr ⟨hi, hmem⟩
    · intro hk
      have hstays := (L.mem_among.mp hk).2
      rw [hready] at hstays
      simpa using (List.mem_filter.mp hstays).2
  rw [effort, effort, hincoming]
  omega

/-- Putting new tasks on the ready list moves them there. -/
theorem effort_enqueue (labor : Nat) (m : Machine) (pool : Nat) :
    L.effort labor (m.enqueue pool) ≤ L.effort labor m := by
  set fresh := m.incoming.filter fun id => (m.poolTasks pool).any (·.1 == id) with hfresh
  set waiting := m.incoming.filter fun id => !fresh.contains id with hwaiting
  have hready : (L.among (m.job.ready ++ fresh)).card ≤
      (L.among m.job.ready).card + (L.among fresh).card := by
    refine (Finset.card_le_card ?_).trans (Finset.card_union_le _ _)
    intro k hk
    obtain ⟨hcount, hk⟩ := L.mem_among.mp hk
    refine Finset.mem_union.mpr ((List.mem_append.mp hk).imp ?_ ?_)
    · exact fun hk => L.mem_among.mpr ⟨hcount, hk⟩
    · exact fun hk => L.mem_among.mpr ⟨hcount, hk⟩
  -- whoever is put on the ready list is no longer about to be
  have hsplit : (L.among fresh).card + (L.among waiting).card ≤ (L.among m.incoming).card := by
    have hdisjoint : Disjoint (L.among fresh) (L.among waiting) := by
      refine Finset.disjoint_left.mpr fun k hk hk' => ?_
      have hnot := (List.mem_filter.mp (L.mem_among.mp hk').2).2
      have hmem := (L.mem_among.mp hk).2
      simp [hmem] at hnot
    rw [← Finset.card_union_of_disjoint hdisjoint]
    refine Finset.card_le_card (Finset.union_subset ?_ ?_)
    · intro k hk
      obtain ⟨hcount, hk⟩ := L.mem_among.mp hk
      exact L.mem_among.mpr ⟨hcount, List.mem_of_mem_filter hk⟩
    · intro k hk
      obtain ⟨hcount, hk⟩ := L.mem_among.mp hk
      exact L.mem_among.mpr ⟨hcount, List.mem_of_mem_filter hk⟩
  have hjob : (m.enqueue pool).job.ready = m.job.ready ++ fresh := rfl
  have hincoming : (m.enqueue pool).incoming = waiting := rfl
  rw [effort, effort, hjob, hincoming]
  omega

/-- On a pool of its own a line wanes if the polls of its stages lower the bound. -/
theorem wanes (hwatches : L.watches = []) {P : Nat → Machine → Prop}
    (hpoll : ∀ {k m i t}, P k m → i < L.count → m.task? (L.first + i) = some t →
      L.first + i ∈ m.job.ready → ∃ budget ended m',
        (∀ n ≥ budget, (m.unready (L.first + i)).pollTask n (L.first + i) t = (ended, m')) ∧
        m'.halt = m.halt ∧ ∃ k' < k, P k' m')
    (henqueue : ∀ {k m}, P k m → P k (m.enqueue L.pool)) :
    Machine.Wanes L.pool fun k m => Working L m ∧ P k m where
  poll := by
    rintro k m id t ⟨hworking, hm⟩ hhalt hready ht hpool
    obtain ⟨i, hi, rfl⟩ : ∃ i < L.count, id = L.first + i := by
      by_contra hstage
      have hno : ∀ i < L.count, id ≠ L.first + i := fun i hi heq => hstage ⟨i, hi, heq⟩
      have hwatch := (hworking.wired.others id t ht hpool hno).1
      rw [hwatches] at hwatch
      exact absurd hwatch List.not_mem_nil
    obtain ⟨budget, ended, m', hrun, hhalt', k', hless, hm'⟩ := hpoll hm hi ht hready
    have hgoes : ((m.unready (L.first + i)).pollTask budget (L.first + i) t).2.halt = none := by
      rw [hrun budget le_rfl]
      exact hhalt'.trans hhalt
    have hworking' := (keeps_working L).poll budget hworking hready ht hpool hgoes
    rw [hrun budget le_rfl] at hworking'
    exact ⟨budget, ended, m', hrun, hhalt'.trans hhalt, k', hless, hworking', hm'⟩
  enqueue h := ⟨h.1.works.enqueue, henqueue h.2⟩

/-- A line whose stages are all over leaves nobody in a pool of its own. -/
theorem nobody (hwatches : L.watches = []) (hworks : Works L m)
    (hover : ∀ i < L.count, m.task? (L.first + i) = none) : m.poolTasks L.pool = [] := by
  obtain ⟨⟨incoming, -, hwired⟩, hindexed⟩ := hworks
  refine List.filter_eq_nil_iff.mpr fun e he hpool => ?_
  have ht := hindexed e he (beq_iff_eq.mp hpool)
  have hwatch := (hwired.others e.1 e.2 ht (beq_iff_eq.mp hpool) fun i hi heq => ?_).1
  · rw [hwatches] at hwatch
    exact absurd hwatch List.not_mem_nil
  · rw [heq, hover i hi] at ht
    simp at ht

end Span

namespace Machine

variable {pool k : Nat} {m : Machine} {P : Nat → Machine → Prop}

/-! ## A line that settles -/

/-- A pool of nobody comes to rest at once, and tells nothing. -/
theorem wanes_nobody (pool : Nat) (start : Job) (signals : List (String × String)) :
    Wanes pool fun _ m => m.poolTasks pool = [] ∧ start.Tells m.job signals where
  poll := by
    rintro k m id t ⟨hnobody, -⟩ - - ht hpool
    have hmem := m.mem_poolTasks id ht
    rw [hpool, hnobody] at hmem
    exact absurd hmem List.not_mem_nil
  enqueue h := ⟨h.1, h.2.signals, h.2.errors⟩

/-- A pool settles when it has come so far that nobody is ready, if nobody is left then. -/
theorem Wanes.settle (h : Wanes pool P) (hm : P k (m.enqueue pool)) (hhalt : m.halt = none)
    (hnobody : ∀ {k m}, P k m → m.nextReady? pool = none → m.poolTasks pool = []) :
    ∃ enough m₁ m', (∀ fuel ≥ enough, m.settle fuel pool = m') ∧ m'.halt = none ∧
      m'.poolTasks pool = [] ∧ (∃ k₁ ≤ k, P k₁ m₁) ∧ m₁.nextReady? pool = none ∧
      m₁.job.Tells m'.job [] := by
  obtain ⟨enough, m₁, hstalls, hhalt₁, ⟨k₁, hless, hm₁⟩, hnext⟩ := h.runStalled hm hhalt
  have hover := hnobody hm₁ hnext
  obtain ⟨enough', m', hrest, hhalt', ⟨-, -, hnobody', htells⟩, -⟩ :=
    (wanes_nobody pool m₁.job []).runStalled (k := 0) (m := m₁.onJob (·.teardown))
      ⟨hover, Job.Tells.teardown.signals, Job.Tells.teardown.errors⟩ hhalt₁
  refine ⟨max enough enough', m₁, m', fun fuel hfuel => ?_, hhalt', hnobody', ⟨k₁, hless, hm₁⟩, hnext,
    htells⟩
  unfold Machine.settle
  simp only [hhalt, Option.isSome_none, Bool.false_eq_true, if_false, hstalls fuel (by omega), hhalt₁]
  exact hrest fuel (by omega)

/-! ## The main future -/

/-- A turn for which the main future waits lowers the bound, if it has been woken where nobody is ready:
the main future is polled again. -/
theorem Wanes.turn_wakes (h : Wanes pool P) (hm : P k (m.enqueue pool)) (hhalt : m.halt = none)
    (hbusy : (m.enqueue pool).nextReady? pool ≠ none)
    (hwoken : ∀ {k m}, P k m → m.nextReady? pool = none → m.job.mainWoken = true) :
    ∃ enough m', (∀ fuel ≥ enough, m.turn fuel pool = m') ∧ m'.halt = none ∧
      (m'.job.mainWoken || (m'.nextReady? pool).isSome) = true ∧ ∃ k' < k, P k' m' := by
  obtain ⟨enough, m', hturn, hhalt', hlower⟩ := h.turn hm hhalt
  rcases hlower with ⟨k', hless, hm'⟩ | ⟨rfl, hnext⟩
  · refine ⟨enough, m', hturn, hhalt', ?_, k', hless, hm'⟩
    by_contra hidle
    rw [Bool.not_eq_true, Bool.or_eq_false_iff, Option.isSome_eq_false_iff,
      Option.isNone_iff_eq_none] at hidle
    rw [hwoken hm' hidle.2] at hidle
    exact absurd hidle.1 (by simp)
  · exact absurd hnext hbusy

/-- A poll of the main future either ends it, with a machine of which `Q` holds, or it has to wait, and
the turn that follows lowers the bound. -/
structure Hears (pool : Nat) (P : Nat → Collector → Machine → Prop) (Q : List Value → Machine → Prop) :
    Prop where
  poll : ∀ {k : Nat} {c : Collector} {m : Machine}, P k c m → m.halt = none →
    ∃ budget done c' job', (∀ fuel ≥ budget,
        pollMain fuel c { m.job with mainWoken := false } = (done, c', job')) ∧
      (done = true → Q c'.items.reverse { m with job := job' }) ∧
      (done = false → ∃ enough m', (∀ fuel ≥ enough,
          ({ m with job := job' } : Machine).turn fuel pool = m') ∧
        m'.halt = none ∧ (m'.job.mainWoken || (m'.nextReady? pool).isSome) = true ∧
        ∃ k' < k, P k' c' m')

/-- The main future comes to its end. -/
theorem Hears.runUntil {P : Nat → Collector → Machine → Prop} {Q : List Value → Machine → Prop}
    (h : Hears pool P Q) {c : Collector} (hm : P k c m) (hhalt : m.halt = none) :
    ∃ enough items m', (∀ fuel ≥ enough, m.runUntil fuel pool c = (items, m')) ∧ m'.halt = none ∧
      Q items m' := by
  -- each turn for which the main future has to wait lowers the bound
  induction k using Nat.strong_induction_on generalizing c m with
  | _ k ih =>
    obtain ⟨budget, done, c', job', hpoll, hdone, hwaits⟩ := h.poll hm hhalt
    cases done with
    | true =>
      refine ⟨budget + 1, c'.items.reverse, { m with job := job' }, fun fuel hfuel => ?_, hhalt,
        hdone rfl⟩
      obtain ⟨fuel, rfl⟩ : ∃ n, fuel = n + 1 := ⟨fuel - 1, by omega⟩
      simp only [Machine.runUntil, hpoll (fuel + 1) (by omega), if_true]
    | false =>
      obtain ⟨enough, m₁, hturn, hhalt₁, hawake, k₁, hless, hm₁⟩ := hwaits rfl
      obtain ⟨enough', items, m', hrest, hover⟩ := ih k₁ hless hm₁ hhalt₁
      refine ⟨max budget (max enough enough') + 1, items, m', fun fuel hfuel => ?_, hover⟩
      obtain ⟨fuel, rfl⟩ : ∃ n, fuel = n + 1 := ⟨fuel - 1, by omega⟩
      simp only [Machine.runUntil, hpoll (fuel + 1) (by omega), Bool.false_eq_true, if_false,
        hturn (fuel + 1) (by omega), hhalt₁, Option.isSome_none, hawake, if_true]
      exact hrest fuel (by omega)

end Machine

end Pipework
