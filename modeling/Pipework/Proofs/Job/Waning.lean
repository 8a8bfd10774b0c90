import Pipework.Proofs.Job.Turns

/-!
# Turns that come to an end

A property of machines with a number, `P k m`, bounds what is still to be done on `m` by `k`. If every
poll of a ready task comes to its end in a sufficient number of steps, and lowers this bound
(`Machine.Wanes`), then turns come to an end: for all sufficient fuel they lead to one and the same
machine, which has not stopped, and which keeps the property.
-/

namespace Pipework

namespace Machine

/-- Every poll of a ready task comes to its end, and lowers the bound. -/
structure Wanes (pool : Nat) (P : Nat → Machine → Prop) : Prop where
  poll : ∀ {k : Nat} {m : Machine} {id : Nat} {t : Task}, P k m → m.halt = none →
    id ∈ m.job.ready → m.task? id = some t → t.pool = pool → ∃ budget ended m',
      (∀ n ≥ budget, (m.unready id).pollTask n id t = (ended, m')) ∧
      m'.halt = none ∧ ∃ k' < k, P k' m'
  enqueue : ∀ {k : Nat} {m : Machine}, P k m → P k (m.enqueue pool)

variable {pool : Nat} {P : Nat → Machine → Prop}

/-- A turn comes to its end. It has lowered the bound, or nobody was ready. -/
theorem Wanes.turnFrom (h : Wanes pool P) (tasks polled yielded : Nat) {k : Nat} {m : Machine}
    (hm : P k m) (hhalt : m.halt = none) :
    ∃ enough m', (∀ fuel ≥ enough, ∀ budget ≥ enough,
        m.turnFrom fuel budget pool tasks polled yielded = m') ∧ m'.halt = none ∧
      ((∃ k' < k, P k' m') ∨ m' = m ∧ m.nextReady? pool = none) := by
  induction k using Nat.strong_induction_on generalizing m tasks polled yielded with
  | _ k ih =>
    obtain hnext | ⟨⟨id, t⟩, hnext⟩ := Option.eq_none_or_eq_some (m.nextReady? pool)
    · refine ⟨1, m, fun fuel hfuel budget _ => ?_, hhalt, .inr ⟨rfl, hnext⟩⟩
      obtain ⟨fuel, rfl⟩ := Nat.exists_eq_add_of_le' hfuel
      simp only [Machine.turnFrom, hnext]
    obtain ⟨hready, ht, hpool⟩ := nextReady?_some hnext
    obtain ⟨budget₀, ended, m₁, hpoll, hhalt₁, k₁, hless, hm₁⟩ := h.poll hm hhalt hready ht hpool
    -- the rest of the turn starts from a lower bound, so it does not matter whether it polls anybody
    have hgoes : ∀ tasks polled yielded m₂, P k₁ m₂ → m₂.halt = none →
        ∃ enough m', (∀ fuel ≥ enough, ∀ budget ≥ enough,
          m₂.turnFrom fuel budget pool tasks polled yielded = m') ∧ m'.halt = none ∧
          ∃ k' < k, P k' m' := by
      intro tasks polled yielded m₂ hm₂ hhalt₂
      obtain ⟨enough, m', hturn, hhalt', hlower⟩ := ih k₁ hless tasks polled yielded hm₂ hhalt₂
      refine ⟨enough, m', hturn, hhalt', ?_⟩
      rcases hlower with ⟨k', hk', hm'⟩ | ⟨rfl, -⟩
      · exact ⟨k', hk'.trans hless, hm'⟩
      · exact ⟨k₁, hless, hm₂⟩
    -- what the turn makes of the machine after this poll
    have hrest : ∃ enough m', (∀ fuel ≥ enough, ∀ budget ≥ enough,
        (if ended then
          (m₁.enqueue pool).turnFrom fuel budget pool ((m₁.enqueue pool).poolTasks pool).length 0 0
        else
          let yielded := if m₁.job.ready.contains id then yielded + 1 else yielded
          if 2 ≤ yielded || polled + 1 == tasks then m₁
          else m₁.turnFrom fuel budget pool tasks (polled + 1) yielded) = m') ∧
        m'.halt = none ∧ ∃ k' < k, P k' m' := by
      cases ended with
      | true => exact hgoes _ 0 0 (m₁.enqueue pool) (h.enqueue hm₁) hhalt₁
      | false =>
        simp only [Bool.false_eq_true, if_false]
        generalize (if m₁.job.ready.contains id then yielded + 1 else yielded) = yielded'
        by_cases hover : (2 ≤ yielded' || polled + 1 == tasks) = true
        · exact ⟨0, m₁, fun _ _ _ _ => if_pos hover, hhalt₁, k₁, hless, hm₁⟩
        · obtain ⟨enough, m', hturn, hlower⟩ := hgoes tasks (polled + 1) yielded' m₁ hm₁ hhalt₁
          refine ⟨enough, m', fun fuel hfuel budget hbudget => ?_, hlower⟩
          rw [if_neg hover]
          exact hturn fuel hfuel budget hbudget
    obtain ⟨enough, m', hturn, hhalt', hlower⟩ := hrest
    refine ⟨max budget₀ enough + 1, m', fun fuel hfuel budget hbudget => ?_, hhalt', .inl hlower⟩
    obtain ⟨fuel, rfl⟩ : ∃ k, fuel = k + 1 := ⟨fuel - 1, by omega⟩
    rw [turnFrom_some hnext, hpoll budget (by omega)]
    dsimp only
    rw [if_neg (by simp [hhalt₁])]
    exact hturn fuel (by omega) budget (by omega)

/-- A turn of a pool comes to its end. It has lowered the bound, or nobody was ready. -/
theorem Wanes.turn (h : Wanes pool P) {k : Nat} {m : Machine} (hm : P k (m.enqueue pool))
    (hhalt : m.halt = none) :
    ∃ enough m', (∀ fuel ≥ enough, m.turn fuel pool = m') ∧ m'.halt = none ∧
      ((∃ k' < k, P k' m') ∨ m' = m.enqueue pool ∧ m'.nextReady? pool = none) := by
  obtain ⟨enough, m', hturn, hhalt', hlower⟩ :=
    h.turnFrom ((m.enqueue pool).poolTasks pool).length 0 0 hm hhalt
  refine ⟨enough, m', fun fuel hfuel => hturn fuel hfuel fuel hfuel, hhalt', ?_⟩
  exact hlower.imp_right fun ⟨hsame, hnext⟩ => ⟨hsame, hsame ▸ hnext⟩

/-- Turns come to an end, and then no task of the pool is ready. -/
theorem Wanes.runStalled (h : Wanes pool P) {k : Nat} {m : Machine} (hm : P k (m.enqueue pool))
    (hhalt : m.halt = none) :
    ∃ enough m', (∀ fuel ≥ enough, m.runStalled fuel pool = m') ∧ m'.halt = none ∧
      (∃ k' ≤ k, P k' m') ∧ m'.nextReady? pool = none := by
  induction k using Nat.strong_induction_on generalizing m with
  | _ k ih =>
    obtain ⟨enough, m₁, hturn, hhalt₁, hlower⟩ := h.turn hm hhalt
    by_cases hnext : m₁.nextReady? pool = none
    · have hkeeps : ∃ k' ≤ k, P k' m₁ := by
        rcases hlower with ⟨k', hk', hm₁⟩ | ⟨rfl, -⟩
        · exact ⟨k', hk'.le, hm₁⟩
        · exact ⟨k, Nat.le_refl k, hm⟩
      refine ⟨enough + 1, m₁, fun fuel hfuel => ?_, hhalt₁, hkeeps, hnext⟩
      obtain ⟨fuel, rfl⟩ : ∃ k, fuel = k + 1 := ⟨fuel - 1, by omega⟩
      simp only [Machine.runStalled, hturn (fuel + 1) (by omega), hnext, hhalt₁,
        Option.isSome_none, Option.isNone_none, Bool.or_true, if_true]
    · obtain ⟨k₁, hless, hm₁⟩ := hlower.resolve_right fun hidle => hnext hidle.2
      obtain ⟨enough', m', hrest, hhalt', ⟨k', hk', hm'⟩, hover⟩ :=
        ih k₁ hless (h.enqueue hm₁) hhalt₁
      refine ⟨max enough enough' + 1, m', fun fuel hfuel => ?_, hhalt',
        ⟨k', hk'.trans hless.le, hm'⟩, hover⟩
      obtain ⟨fuel, rfl⟩ : ∃ k, fuel = k + 1 := ⟨fuel - 1, by omega⟩
      have hgoes : (m₁.halt.isSome || (m₁.nextReady? pool).isNone) = false := by
        simpa [hhalt₁] using Option.isSome_iff_ne_none.mpr hnext
      simp only [Machine.runStalled, hturn (fuel + 1) (by omega), hgoes, Bool.false_eq_true, if_false]
      exact hrest fuel (by omega)

end Machine

end Pipework
