import Pipework.Job.Pipeline
import Pipework.Proofs.Job.Core
import Pipework.Proofs.Job.Turns

/-!
# What lasts over a line

A property of a machine *lasts* if a poll of a ready task keeps it and if it reads nothing but the
tasks, the shell and the interrupt level (`Machine.Lasts`). Whatever else happens between the start
of the stages and the end of a line leaves these three alone: reads of the main future, the passing
of time, and the teardown. So a property that lasts holds after a run to the end of the main future
(`Machine.Lasts.runUntil`) and after the pool has come to rest (`Machine.Lasts.settle`).
-/

namespace Pipework

namespace Machine

theorem core_pollMain (fuel : Nat) (c : Collector) (job : Job) :
    (pollMain fuel c job).2.2.core = job.core := by
  induction fuel generalizing c job with
  | zero => rfl
  | succ fuel ih =>
    unfold pollMain
    split
    · rfl
    · dsimp only
      set st : Station := { input := some c.pipe, reading := c.reading }
      have hread := st.core_tryRead job .main
      rcases hst : st.tryRead .main job with ⟨_ | _ | v, st', job'⟩ <;> rw [hst] at hread
      · exact hread
      · exact hread
      · exact (ih _ job').trans hread

/-- Time passes for the job, and tasks are woken. -/
theorem core_advance (moment : Nat) (m : Machine) :
    (m.advance moment).job.core = { m.job with now := max m.job.now moment }.core :=
  Job.core_foldl _ (fun job _ => job.core_wake _) _

/-- A property of tasks, shell and interrupt level that polls keep. -/
structure Lasts (pool : Nat) (P : Machine → Prop) : Prop where
  poll : ∀ {m : Machine} {id : Nat} {t : Task} (budget : Nat), P m → id ∈ m.job.ready →
    m.task? id = some t → t.pool = pool → ((m.unready id).pollTask budget id t).2.halt = none →
    P ((m.unready id).pollTask budget id t).2
  of_eq : ∀ {m m' : Machine}, P m → m'.tasks = m.tasks → m'.job.shell = m.job.shell →
    m'.job.level = m.job.level → P m'

namespace Lasts

variable {pool : Nat} {P : Machine → Prop} {m : Machine}

theorem keeps (h : Lasts pool P) : Keeps pool P where
  poll := h.poll
  enqueue hm := h.of_eq hm rfl rfl rfl

theorem of_core (h : Lasts pool P) (hm : P m) {job : Job} (hcore : job.core = m.job.core) :
    P { m with job := job } :=
  h.of_eq hm rfl (congrArg (·.1) hcore) (congrArg (·.2.1) hcore)

/-- What lasts holds when the main future is done. -/
theorem runUntil (h : Lasts pool P) (hm : P m) (fuel : Nat) (c : Collector)
    (hhalt : (m.runUntil fuel pool c).2.halt = none) : P (m.runUntil fuel pool c).2 := by
  refine h.keeps.runUntil (fun fuel c _ hm => ?_) (fun {m} hm => ?_) fuel (rfl : c.pipe = c.pipe)
    hm hhalt
  · exact h.of_core hm (core_pollMain fuel c _)
  · unfold passTime
    split
    · exact h.of_eq hm rfl rfl rfl
    · rename_i deadline _
      have hcore := core_advance deadline m
      exact h.of_eq hm rfl (congrArg (·.1) hcore) (congrArg (·.2.1) hcore)

/-- What lasts holds when the pool has come to rest. -/
theorem settle (h : Lasts pool P) (hm : P m) (fuel : Nat)
    (hhalt : (m.settle fuel pool).halt = none) : P (m.settle fuel pool) :=
  (h.keeps.settle h.keeps (fun hm _ => h.of_core hm (Job.core_teardown _)) (h.keeps.enqueue hm) fuel
    hhalt).1

end Lasts

end Machine

end Pipework
