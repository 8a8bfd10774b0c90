import Mathlib
import Pipework.Job.Pipeline

/-!
# Turns of a machine

Whatever the tasks of a pool are, a turn polls them one after another. So a property that a poll of
a ready task preserves, and that does not mind tasks being put on the ready list
(`Machine.Keeps`), holds after a turn and after `runStalled`, unless the machine has stopped for
good. Besides that, `runStalled` leaves no task of the pool ready. For `runUntil` the property must
not mind a read of the main future and the passing of time either, and for `settle` the teardown.
-/

namespace Pipework

namespace Machine

/-! ## Tasks by number -/

section Tasks

variable (m : Machine) (id : Nat) (t : Task)

theorem find?_filter_ne (tasks : List (Nat × Task)) (id other : Nat) :
    (tasks.filter (·.1 != id)).find? (·.1 == other) =
      if other = id then none else tasks.find? (·.1 == other) := by
  rw [List.find?_filter]
  split
  · rename_i h
    subst h
    refine List.find?_eq_none.mpr fun e _ => ?_
    by_cases he : e.1 = other <;> simp [he]
  · rename_i h
    congr 1
    funext e
    by_cases he : e.1 = other
    · simp [he, h]
    · simp [he]

theorem task?_removeTask : (m.removeTask id).task? = Function.update m.task? id none := by
  funext other
  simp only [task?, removeTask, find?_filter_ne, Function.update_apply]
  split <;> rfl

theorem task?_setTask {t₀ : Task} (h : m.task? id = some t₀) :
    (m.setTask id t).task? = Function.update m.task? id (some t) := by
  have hset : ∀ (tasks : List (Nat × Task)) (other : Nat),
      (tasks.map fun e => if e.1 == id then (id, t) else e).find? (·.1 == other) =
        (tasks.find? (·.1 == other)).map fun e => if e.1 == id then (id, t) else e := by
    intro tasks other
    rw [List.find?_map]
    congr 2
    funext e
    by_cases he : e.1 = id <;> simp [he]
  funext other
  simp only [task?, setTask, hset, Function.update_apply] at h ⊢
  obtain ⟨⟨number, old⟩, hfound, -⟩ := Option.map_eq_some_iff.mp h
  split
  · rename_i hother
    subst hother
    have hnumber : number = other := by simpa using List.find?_some hfound
    simp [hfound, hnumber]
  · rename_i hother
    obtain hf | ⟨⟨number', t'⟩, hf⟩ := Option.eq_none_or_eq_some (m.tasks.find? (·.1 == other))
    · rw [hf]
      rfl
    · have hnumber : number' = other := by simpa using List.find?_some hf
      simp [hf, hnumber, hother]

theorem mem_poolTasks {t : Task} (h : m.task? id = some t) : (id, t) ∈ m.poolTasks t.pool := by
  obtain ⟨⟨number, t'⟩, hfound, rfl⟩ := Option.map_eq_some_iff.mp h
  have hnumber : number = id := by simpa using List.find?_some hfound
  subst hnumber
  exact List.mem_filter.mpr ⟨List.mem_of_find?_eq_some hfound, beq_self_eq_true _⟩

/-- Every task of the pool is found under its number. -/
def Indexed (pool : Nat) (m : Machine) : Prop :=
  ∀ e ∈ m.tasks, e.2.pool = pool → m.task? e.1 = some e.2

variable {m id t} {pool : Nat}

theorem Indexed.removeTask (h : m.Indexed pool) : (m.removeTask id).Indexed pool := by
  intro e he hpool
  obtain ⟨hmem, hne⟩ := List.mem_filter.mp he
  rw [task?_removeTask, Function.update_of_ne (by simpa using hne)]
  exact h e hmem hpool

theorem Indexed.setTask {t₀ : Task} (h : m.Indexed pool) (ht : m.task? id = some t₀) :
    (m.setTask id t).Indexed pool := by
  intro e he hpool
  rw [task?_setTask m id t ht]
  obtain ⟨old, hold, rfl⟩ := List.mem_map.mp he
  by_cases hid : old.1 = id
  · simp [hid]
  · simp only [hid, beq_iff_eq, if_false] at hpool ⊢
    rw [Function.update_of_ne hid]
    exact h old hold hpool

/-- A poll puts the task back or takes it away. -/
theorem Indexed.pollTask (h : m.Indexed pool) (ht : m.task? id = some t) (budget : Nat) :
    (m.pollTask budget id t).2.Indexed pool := by
  rcases hrun : t.station.run budget (.task id) m.job t.behavior with ⟨progress, st, job⟩
  cases progress <;> simp only [Machine.pollTask, hrun]
  case done a => exact Indexed.removeTask (m := { m with job := _ }) h
  case failed e => exact Indexed.removeTask (m := { m with job := _ }) h
  case waiting rest => exact Indexed.setTask (m := { m with job := _ }) h ht
  case crashed => exact h
  case unfinished rest => exact h

end Tasks

/-! ## The next ready task -/

theorem nextReady?_some {m : Machine} {pool id : Nat} {t : Task}
    (h : m.nextReady? pool = some (id, t)) :
    id ∈ m.job.ready ∧ m.task? id = some t ∧ t.pool = pool := by
  obtain ⟨other, hother, h⟩ := List.exists_of_findSome?_eq_some h
  obtain ⟨u, hu, h⟩ := Option.bind_eq_some_iff.mp h
  by_cases hpool : u.pool = pool
  · simp only [hpool, beq_self_eq_true, if_true, Option.some.injEq, Prod.mk.injEq] at h
    obtain ⟨rfl, rfl⟩ := h
    exact ⟨hother, hu, hpool⟩
  · simp [hpool] at h

/-- If nobody of the pool is next, nobody of the pool is ready. -/
theorem nextReady?_none {m : Machine} {pool id : Nat} {t : Task} (h : m.nextReady? pool = none)
    (ht : m.task? id = some t) (hpool : t.pool = pool) : id ∉ m.job.ready := by
  intro hready
  have hnone := List.findSome?_eq_none_iff.mp h id hready
  simp [ht, hpool] at hnone

/-! ## Properties that turns keep -/

/-- The machine when a ready task is about to be polled. -/
def unready (id : Nat) (m : Machine) : Machine :=
  m.onJob fun job => { job with ready := job.ready.filter (· != id) }

theorem turnFrom_some {m : Machine} {pool id : Nat} {t : Task}
    (h : m.nextReady? pool = some (id, t)) (fuel budget size polled yielded : Nat) :
    m.turnFrom (fuel + 1) budget pool size polled yielded =
      match (m.unready id).pollTask budget id t with
      | (ended, m) =>
        if m.halt.isSome then m
        else if ended then
          (m.enqueue pool).turnFrom fuel budget pool ((m.enqueue pool).poolTasks pool).length 0 0
        else
          let yielded := if m.job.ready.contains id then yielded + 1 else yielded
          if 2 ≤ yielded || polled + 1 == size then m
          else m.turnFrom fuel budget pool size (polled + 1) yielded := by
  simp only [turnFrom, h]
  rfl

/-- What a poll of a ready task of the pool keeps, and putting new tasks on the ready list. -/
structure Keeps (pool : Nat) (P : Machine → Prop) : Prop where
  poll : ∀ {m : Machine} {id : Nat} {t : Task} (budget : Nat), P m → id ∈ m.job.ready →
    m.task? id = some t → t.pool = pool → ((m.unready id).pollTask budget id t).2.halt = none →
    P ((m.unready id).pollTask budget id t).2
  enqueue : ∀ {m : Machine}, P m → P (m.enqueue pool)

variable {pool : Nat} {P : Machine → Prop}

/-- A turn keeps what polls keep. -/
theorem Keeps.turnFrom (h : Keeps pool P) (fuel budget size polled yielded : Nat) {m : Machine}
    (hm : P m) (hhalt : (m.turnFrom fuel budget pool size polled yielded).halt = none) :
    P (m.turnFrom fuel budget pool size polled yielded) := by
  induction fuel generalizing m size polled yielded with
  | zero => simp [Machine.turnFrom] at hhalt
  | succ fuel ih =>
    obtain hnext | ⟨⟨id, t⟩, hnext⟩ := Option.eq_none_or_eq_some (m.nextReady? pool)
    · simp only [Machine.turnFrom, hnext] at hhalt ⊢
      exact hm
    · obtain ⟨hready, ht, hpool⟩ := nextReady?_some hnext
      have hpoll := h.poll budget hm hready ht hpool
      rw [turnFrom_some hnext] at hhalt ⊢
      generalize (m.unready id).pollTask budget id t = polledTask at hpoll hhalt ⊢
      obtain ⟨ended, m'⟩ := polledTask
      dsimp only at hpoll hhalt ⊢
      by_cases hstopped : m'.halt.isSome
      · rw [if_pos hstopped] at hhalt
        simp [hhalt] at hstopped
      · have hm' : P m' := hpoll (by simpa using hstopped)
        rw [if_neg hstopped] at hhalt ⊢
        cases ended with
        | true => exact ih _ _ _ (h.enqueue hm') hhalt
        | false =>
          simp only [Bool.false_eq_true, if_false] at hhalt ⊢
          generalize (if m'.job.ready.contains id then yielded + 1 else yielded) = yielded' at hhalt ⊢
          split at hhalt <;> rename_i hover
          · rw [if_pos hover]
            exact hm'
          · rw [if_neg hover]
            exact ih _ _ _ hm' hhalt

theorem Keeps.turn (h : Keeps pool P) (fuel : Nat) {m : Machine} (hm : P (m.enqueue pool))
    (hhalt : (m.turn fuel pool).halt = none) : P (m.turn fuel pool) :=
  h.turnFrom fuel fuel _ 0 0 hm hhalt

/-- Turns until no task is ready keep what polls keep, and then no task is ready. -/
theorem Keeps.runStalled (h : Keeps pool P) (fuel : Nat) {m : Machine} (hm : P (m.enqueue pool))
    (hhalt : (m.runStalled fuel pool).halt = none) :
    P (m.runStalled fuel pool) ∧ (m.runStalled fuel pool).nextReady? pool = none := by
  induction fuel generalizing m with
  | zero => simp [Machine.runStalled] at hhalt
  | succ fuel ih =>
    unfold Machine.runStalled at hhalt ⊢
    dsimp only at hhalt ⊢
    have hturn := h.turn (fuel + 1) hm
    split at hhalt <;> rename_i hover
    · rw [if_pos hover]
      have hnext : ((m.turn (fuel + 1) pool).nextReady? pool).isNone := by
        rw [hhalt] at hover
        simpa using hover
      exact ⟨hturn hhalt, Option.isNone_iff_eq_none.mp hnext⟩
    · rw [if_neg hover]
      simp only [Bool.or_eq_true, not_or, Bool.not_eq_true, Option.isSome_eq_false_iff] at hover
      exact ih (h.enqueue (hturn (Option.isNone_iff_eq_none.mp hover.1))) hhalt

theorem pipe_pollMain (fuel : Nat) (c : Collector) (job : Job) :
    (pollMain fuel c job).2.1.pipe = c.pipe := by
  induction fuel generalizing c job with
  | zero => rfl
  | succ fuel ih =>
    unfold pollMain
    split
    · rfl
    · dsimp only
      split
      · rfl
      · rfl
      · exact ih _ _

/-- Running until the main future is done keeps what polls keep, and reads, and time. -/
theorem Keeps.runUntil (h : Keeps pool P) {pipe : Nat}
    (hread : ∀ {m : Machine} (fuel : Nat) {c : Collector}, c.pipe = pipe → P m →
      P { m with job := (pollMain fuel c { m.job with mainWoken := false }).2.2 })
    (htime : ∀ {m : Machine}, P m → P (m.passTime pool)) (fuel : Nat) {m : Machine}
    {c : Collector} (hc : c.pipe = pipe) (hm : P m)
    (hhalt : (m.runUntil fuel pool c).2.halt = none) : P (m.runUntil fuel pool c).2 := by
  induction fuel generalizing m c with
  | zero => simp [Machine.runUntil] at hhalt
  | succ fuel ih =>
    have hpolled := hread (fuel + 1) hc hm
    have hpipe := (pipe_pollMain (fuel + 1) c { m.job with mainWoken := false }).trans hc
    unfold Machine.runUntil at hhalt ⊢
    dsimp only at hhalt ⊢
    generalize pollMain (fuel + 1) c { m.job with mainWoken := false } = read at *
    obtain ⟨ended, c', job⟩ := read
    dsimp only at hpolled hpipe hhalt ⊢
    cases ended with
    | true => exact hpolled
    | false =>
      simp only [Bool.false_eq_true, if_false] at hhalt ⊢
      have hturn := h.turn (fuel + 1) (h.enqueue hpolled)
      generalize Machine.turn (fuel + 1) pool { m with job := job } = m' at *
      split at hhalt <;> rename_i hstopped
      · rw [if_pos hstopped]
        exact hturn hhalt
      · rw [if_neg hstopped]
        have hm' := hturn (by simpa using hstopped)
        split at hhalt <;> rename_i hwoken
        · rw [if_pos hwoken]
          exact ih hpipe hm' hhalt
        · rw [if_neg hwoken]
          split at hhalt <;> rename_i hdead
          · rw [if_pos hdead]
            exact htime hm'
          · rw [if_neg hdead]
            exact ih hpipe (htime hm') hhalt

/-- A machine that has come to rest has not stopped before. -/
theorem halt_of_settle {m : Machine} {fuel : Nat} (h : (m.settle fuel pool).halt = none) :
    m.halt = none := by
  unfold Machine.settle at h
  split at h <;> rename_i hstopped
  · exact h
  · simpa using hstopped

/-- Letting a pool come to rest keeps what polls keep before the teardown and after it, and then no
task is ready. -/
theorem Keeps.settle {Q : Machine → Prop} (h : Keeps pool P) (h' : Keeps pool Q)
    (hteardown : ∀ {m : Machine}, P m → m.nextReady? pool = none → Q (m.onJob (·.teardown)))
    {m : Machine} (hm : P (m.enqueue pool)) (fuel : Nat)
    (hhalt : (m.settle fuel pool).halt = none) :
    Q (m.settle fuel pool) ∧ (m.settle fuel pool).nextReady? pool = none := by
  have hrunning := halt_of_settle hhalt
  unfold Machine.settle at hhalt ⊢
  rw [if_neg (by simp [hrunning])] at hhalt ⊢
  dsimp only at hhalt ⊢
  have hrest := h.runStalled fuel hm
  generalize m.runStalled fuel pool = m' at hhalt hrest ⊢
  split at hhalt <;> rename_i hstopped
  · simp [hhalt] at hstopped
  · rw [if_neg hstopped]
    obtain ⟨hm', hnext⟩ := hrest (by simpa using hstopped)
    exact h'.runStalled fuel (h'.enqueue (hteardown hm' hnext)) hhalt

end Machine

end Pipework
