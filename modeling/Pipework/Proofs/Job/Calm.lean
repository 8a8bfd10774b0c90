import Pipework.Proofs.Command.Mortal
import Pipework.Proofs.Job.Lasting
import Pipework.Proofs.Job.Starting

/-!
# Lines that nobody interrupts

No command interrupts the line that it is part of. So on a machine without watches the interrupt
level stays at zero from the start of a line to its end (`Machine.Calm`): the stages are started
calm, being calm lasts over a run (`Machine.lasts_calm`), and a line is read calm
(`Machine.Calm.readPipeline`).
-/

namespace Pipework

/-- A behavior that interrupts nobody leaves the level as it is, and goes on to interrupt nobody. -/
theorem Station.run_meek {α : Type} {b : Behavior α} (hb : b.Obeys .meek) {fuel : Nat}
    {st st' : Station} {who : Waker} {job job' : Job} {progress : Progress α}
    (hrun : st.run fuel who job b = (progress, st', job')) :
    job'.level = job.level ∧ ∀ rest, progress = .waiting rest → rest.Obeys .meek := by
  induction fuel generalizing st job b with
  | zero =>
    simp only [run, Prod.mk.injEq] at hrun
    obtain ⟨rfl, rfl, rfl⟩ := hrun
    exact ⟨rfl, by simp⟩
  | succ fuel ih =>
    cases b with
    | result a =>
      simp only [run, Prod.mk.injEq] at hrun
      obtain ⟨rfl, rfl, rfl⟩ := hrun
      exact ⟨rfl, by simp⟩
    | fail e =>
      simp only [run, Prod.mk.injEq] at hrun
      obtain ⟨rfl, rfl, rfl⟩ := hrun
      exact ⟨rfl, by simp⟩
    | crash =>
      simp only [run, Prod.mk.injEq] at hrun
      obtain ⟨rfl, rfl, rfl⟩ := hrun
      exact ⟨rfl, by simp⟩
    | loop s body next => exact ih hb.unfold hrun
    | act action next =>
      have hlevel : (st.attempt who action job).2.2.level = job.level :=
        congrArg Prod.fst (st.standing_attempt job who hb.1)
      rcases ha : st.attempt who action job with ⟨_ | answer, st₁, job₁⟩ <;> rw [ha] at hlevel <;>
        simp only [run, ha] at hrun
      · simp only [Prod.mk.injEq] at hrun
        obtain ⟨rfl, rfl, rfl⟩ := hrun
        refine ⟨hlevel, ?_⟩
        rintro _ ⟨⟩
        exact hb
      · obtain ⟨hlevel', hrest⟩ := ih (hb.2 answer trivial) hrun
        exact ⟨hlevel'.trans hlevel, hrest⟩

namespace Machine

/-- Nobody has interrupted the line, and no task will. -/
structure Calm (m : Machine) : Prop where
  level : m.job.level = 0
  tasks : ∀ e ∈ m.tasks, e.2.behavior.Obeys .meek

variable {m : Machine}

theorem Calm.pollTask (h : m.Calm) {id : Nat} {t : Task} (ht : t.behavior.Obeys .meek)
    (budget : Nat) : (m.pollTask budget id t).2.Calm := by
  rcases hrun : t.station.run budget (.task id) m.job t.behavior with ⟨progress, st, job⟩
  obtain ⟨hlevel, hrest⟩ := Station.run_meek ht hrun
  have hend : ∀ outcome, (m.endTask id t.name st outcome job).Calm := by
    intro outcome
    have hcore : (logEnd t.name outcome (st.release job)).core = job.core := by
      rw [core_logEnd, st.core_release]
    refine ⟨?_, fun e he => h.tasks e (List.mem_of_mem_filter he)⟩
    exact (congrArg (·.2.1) hcore).trans (hlevel.trans h.level)
  cases progress <;> simp only [Machine.pollTask, hrun]
  case done a => exact hend _
  case failed e => exact hend _
  case waiting rest =>
    refine ⟨hlevel.trans h.level, fun e he => ?_⟩
    obtain ⟨old, hold, rfl⟩ := List.mem_map.mp he
    split
    · exact hrest rest rfl
    · exact h.tasks old hold
  case crashed => exact ⟨hlevel.trans h.level, h.tasks⟩
  case unfinished rest => exact ⟨hlevel.trans h.level, h.tasks⟩

/-- Being calm lasts. -/
theorem lasts_calm (pool : Nat) : Lasts pool Calm where
  poll {m id t} budget hm _ ht _ _ := by
    obtain ⟨e, hfound, rfl⟩ := Option.map_eq_some_iff.mp ht
    have hunready : (m.unready id).Calm := ⟨hm.level, hm.tasks⟩
    exact hunready.pollTask (hm.tasks e (List.mem_of_find?_eq_some hfound)) budget
  of_eq hm htasks _ hlevel := ⟨hlevel.trans hm.level, htasks ▸ hm.tasks⟩

end Machine

namespace Pipeline

open Behavior

/-- No stage interrupts anybody. -/
theorem meek_stageBehavior (spec : CommandSpec) (hasInput : Bool) (args : Option String) :
    (stageBehavior Command.program? spec hasInput args).Obeys .meek := by
  refine Obeys.bind (.perform trivial) fun _ => ?_
  split
  · rename_i program hprogram
    exact Command.meek_program hprogram hasInput args
  · exact (Obeys.forAll quiet_read quiet_write).timeless.meek

/-- The stages of a line are started calm. -/
theorem calm_startStages {m : Machine} (hm : m.Calm) (hprograms : m.programs = Command.program?)
    (pool : Nat) (stages : List Stage) (previous : Option Nat) :
    (startStages (some pool) stages previous m).2.Calm := by
  induction stages generalizing m previous with
  | nil => exact hm
  | cons stage stages ih =>
    cases hspec : m.job.shell.command? stage.command with
    | none =>
      simp only [startStages, hspec]
      cases previous with
      | none => exact hm
      | some i => exact (Machine.lasts_calm pool).of_core hm (Job.core_query ..)
    | some spec =>
      rw [startStages_cons hspec]
      obtain ⟨name, records, hjob⟩ := createPipe_linked spec.name m.job
      refine ih (m := addStage pool spec stage.args previous m) ⟨?_, fun e he => ?_⟩ hprograms _
      · exact (congrArg (·.level) hjob).trans hm.level
      · rcases List.mem_append.mp he with he | he
        · exact hm.tasks e he
        · obtain rfl := List.mem_singleton.mp he
          rw [hprograms]
          exact meek_stageBehavior spec _ _

end Pipeline

/-- A validated line is read calm. -/
theorem Machine.Calm.readPipeline {m : Machine} (hm : m.Calm)
    (hprograms : m.programs = Command.program?) {p : Pipeline}
    (hstate : p.state m.job = .validated) (fuel pool : Nat)
    (hhalt : (m.readPipeline fuel pool p).2.halt = none) : (m.readPipeline fuel pool p).2.Calm := by
  have hlasts := Machine.lasts_calm pool
  have hannounced : (p.announce m).Calm := ⟨hm.level, hm.tasks⟩
  have hstarted := Pipeline.calm_startStages hannounced hprograms pool p.line.stages none
  rw [Pipeline.readPipeline_validated hstate] at hhalt ⊢
  rcases hstart : Pipeline.startStages (some pool) p.line.stages none (p.announce m)
    with ⟨_ | _ | last, m'⟩ <;> rw [hstart] at hstarted <;> simp only [hstart] at hhalt ⊢
  · exact hstarted
  · exact ⟨hstarted.level, hstarted.tasks⟩
  · have hran := hlasts.runUntil (hlasts.of_core hstarted (Job.core_change ..)) fuel
      { pipe := last } hhalt
    exact hlasts.of_core hran (Job.core_query ..)

end Pipework
