import Pipework.Proofs.Command.Providing
import Pipework.Proofs.Job.Interrupted

/-!
# Interrupts and missing arguments

An interrupt that is only to be noticed cuts short whatever takes items, also from the argument text
of a stage. A stage that has been polled at rest, before any interrupt, has what it requires:

* `Machine.Provided` — a stage that lacks nothing, if it is polled now;
* `Machine.Assured` — a stage that lacks nothing any more, whatever happens to the line.

`begun_never_lacks` says so of every stage whose own argument text holds what its command requires.
A stage that the interrupt reaches before its first poll is told instead that it has no arguments,
whatever its text holds (`unbegun_lacks`).
-/

namespace Pipework

/-! ## The interrupt level only rises -/

theorem Station.level_attempt {β : Type} (who : Waker) (action : Action β) (st : Station) (job : Job) :
    job.level ≤ (st.attempt who action job).2.2.level := by
  by_cases hmeek : action.Meek
  · exact (congrArg Prod.fst (st.standing_attempt job who hmeek)).ge
  · cases action with
    | interrupt hard =>
      cases hard with
      | true => exact (Nat.le_succ _).trans (Nat.le_max_left _ _)
      | false => exact Nat.le_succ _
    | _ => exact absurd trivial hmeek

theorem Station.level_run {α : Type} {fuel : Nat} {who : Waker} {st st' : Station} {job job' : Job}
    {b : Behavior α} {progress : Progress α} (hrun : st.run fuel who job b = (progress, st', job')) :
    job.level ≤ job'.level := by
  induction fuel generalizing st job b with
  | zero =>
    obtain rfl : job = job' := congrArg (·.2.2) hrun
    exact Nat.le_refl _
  | succ fuel ih =>
    cases b with
    | loop s body next => exact ih hrun
    | act action next =>
      have hlevel := st.level_attempt who action job
      rcases ha : st.attempt who action job with ⟨_ | answer, st₁, job₁⟩ <;>
        rw [ha] at hlevel <;> simp only [Station.run, ha] at hrun
      · obtain rfl : job₁ = job' := congrArg (·.2.2) hrun
        exact hlevel
      · exact hlevel.trans (ih hrun)
    | _ =>
      obtain rfl : job = job' := congrArg (·.2.2) hrun
      exact Nat.le_refl _

namespace Machine

variable {m m' : Machine} {pool pipe id : Nat} {t : Task}

theorem level_pollTask (m : Machine) (budget id : Nat) (t : Task) :
    m.job.level ≤ (m.pollTask budget id t).2.job.level := by
  rcases hrun : t.station.run budget (.task id) m.job t.behavior with ⟨progress, st, job⟩
  have hlevel := Station.level_run hrun
  have hend : ∀ outcome, m.job.level ≤ (logEnd t.name outcome (st.release job)).level := fun outcome =>
    hlevel.trans (congrArg Prod.fst (Job.standing_eq ((core_logEnd ..).trans (st.core_release job)))).ge
  cases progress <;> simp only [pollTask, hrun]
  case done a => exact hend (.ok ())
  case failed e => exact hend (.error e)
  case waiting rest => exact hlevel
  case crashed => exact hlevel
  case unfinished rest => exact hlevel

/-- No move takes an interrupt back. -/
theorem Move.level (h : Move pool pipe m m') : m.job.level ≤ m'.job.level := by
  cases h with
  | @poll id t budget ht hpool hhalt => exact level_pollTask (m.unready id) budget id t
  | enqueue => exact Nat.le_refl _
  | read fuel c hpipe =>
    refine pollMain_keeps (P := fun job => m.job.level ≤ job.level) (fun reading job hjob => ?_)
      fuel rfl (Nat.le_refl _)
    set st : Station := { input := some c.pipe, reading := reading }
    exact hjob.trans (congrArg Prod.fst (Job.standing_eq (st.core_tryRead job .main))).ge
  | leave => exact (congrArg Prod.fst (Job.standing_eq (Job.core_query ..))).ge
  | advance moment => exact (m.level_advance moment).ge
  | pass => exact (m.level_passTime pool).ge
  | interrupt => exact Nat.le_succ _
  | interruptHard => exact (Nat.le_succ _).trans (Nat.le_max_left _ _)
  | teardown => exact (congrArg Prod.fst (Job.standing_eq m.job.core_teardown)).ge

/-- A poll changes no other task, and what it leaves of this one is parked. -/
theorem task?_pollTask (ht : m.task? id = some t) {budget : Nat}
    (hhalt : (m.pollTask budget id t).2.halt = none) :
    ∃ t', (m.pollTask budget id t).2.task? = Function.update m.task? id t' ∧
      ∀ u, t' = some u → ∃ job, t.station.run budget (.task id) m.job t.behavior =
        (.waiting u.behavior, u.station, job) := by
  rcases hrun : t.station.run budget (.task id) m.job t.behavior with ⟨progress, st, job⟩
  cases progress <;> simp only [pollTask, hrun] at hhalt ⊢
  case done a => exact ⟨none, task?_removeTask _ id, by simp⟩
  case failed e => exact ⟨none, task?_removeTask _ id, by simp⟩
  case waiting rest =>
    refine ⟨_, task?_setTask _ id _ ht, ?_⟩
    rintro u ⟨⟩
    exact ⟨job, rfl⟩
  case crashed => simp at hhalt
  case unfinished rest => simp at hhalt

/-- A move changes a task only by polling it. -/
theorem Move.task (h : Move pool pipe m m') (id : Nat) :
    m'.task? id = m.task? id ∨ ∃ t budget, m.task? id = some t ∧
      ((m.unready id).pollTask budget id t).2.halt = none ∧
      m' = ((m.unready id).pollTask budget id t).2 := by
  cases h with
  | @poll other t budget ht hpool hhalt =>
    by_cases heq : other = id
    · subst heq
      exact .inr ⟨t, budget, ht, hhalt, rfl⟩
    · obtain ⟨t', htasks, -⟩ := task?_pollTask (m := m.unready other) ht hhalt
      rw [htasks, Function.update_of_ne (Ne.symm heq)]
      exact .inl rfl
  | pass =>
    left
    unfold task?
    rw [tasks_passTime]
  | _ => exact .inl rfl

/-! ## Stages that lack nothing -/

/-- The next poll of the task may fail for lack of arguments. -/
def Lacks (m : Machine) (id : Nat) : Prop :=
  ∃ t budget e st job, m.task? id = some t ∧ e.IsMissing ∧
    t.station.run budget (.task id) (m.unready id).job t.behavior = (.failed e, st, job)

/-- If the task is polled now it has what it requires. -/
def Provided (m : Machine) (id : Nat) : Prop :=
  ∀ t, m.task? id = some t → ∃ known, t.behavior.Provided (fun _ _ => True) known ∧
    t.station.Knows m.job known

/-- The task has all it requires, whatever happens to the line. -/
def Assured (m : Machine) (id : Nat) : Prop :=
  ∀ t, m.task? id = some t → t.behavior.Provided (fun _ _ => True) none

theorem Assured.provided (h : m.Assured id) : m.Provided id :=
  fun t ht => ⟨none, h t ht, fun a ha => absurd ha (Option.not_mem_none a)⟩

theorem Provided.not_lacks (h : m.Provided id) : ¬ m.Lacks id := by
  rintro ⟨t, budget, e, st, job, ht, hmissing, hrun⟩
  obtain ⟨known, hprovided, hknows⟩ := h t ht
  have hknows : t.station.Knows (m.unready id).job known := hknows
  exact (Station.run_provided hprovided hknows hrun).1 e rfl hmissing

/-- A poll that the task is provided for assures it. -/
theorem Provided.pollTask (h : m.Provided id) (ht : m.task? id = some t) {budget : Nat}
    (hhalt : ((m.unready id).pollTask budget id t).2.halt = none) :
    ((m.unready id).pollTask budget id t).2.Assured id := by
  obtain ⟨known, hprovided, hknows⟩ := h t ht
  have hknows : t.station.Knows (m.unready id).job known := hknows
  obtain ⟨t', htasks, hparked⟩ := task?_pollTask (m := m.unready id) ht hhalt
  intro u hu
  rw [htasks, Function.update_self] at hu
  obtain ⟨job, hrun⟩ := hparked u hu
  exact (Station.run_provided hprovided hknows hrun).2 _ rfl

theorem Assured.move (h : m.Assured id) (hmove : Move pool pipe m m') : m'.Assured id := by
  obtain hsame | ⟨t, budget, ht, hhalt, rfl⟩ := hmove.task id
  · exact fun t ht => h t (hsame ▸ ht)
  · exact h.provided.pollTask ht hhalt

theorem Assured.reaches (h : m.Assured id) (hreaches : m.Reaches pool pipe m') : m'.Assured id := by
  induction hreaches with
  | refl => exact h
  | tail _ hmove ih => exact ih.move hmove

/-- As long as nobody interrupts the line, the task stays provided. -/
theorem Provided.move (h : m.Provided id) (hmove : Move pool pipe m m') (hcalm : m'.job.level = 0) :
    m'.Provided id := by
  obtain hsame | ⟨t, budget, ht, hhalt, rfl⟩ := hmove.task id
  · intro t ht
    obtain ⟨known, hprovided, hknows⟩ := h t (hsame ▸ ht)
    exact ⟨known, hprovided, fun a ha => ⟨hcalm, (hknows a ha).2⟩⟩
  · exact (h.pollTask ht hhalt).provided

theorem Provided.reaches (h : m.Provided id) (hreaches : m.Reaches pool pipe m')
    (hcalm : m'.job.level = 0) : m'.Provided id := by
  induction hreaches with
  | refl => exact h
  | tail _ hmove ih => exact (ih (Nat.le_zero.mp (hcalm ▸ hmove.level))).move hmove hcalm

end Machine

/-! ## Lines -/

/-- A stage whose argument text holds what its command requires is provided when it begins at rest. -/
theorem Pipeline.provided_stageBehavior {spec : CommandSpec} {args : Option String}
    (hargs : Command.Supplied spec.name args) (hasInput : Bool) (a : Arguments) :
    (stageBehavior Command.program? spec hasInput args).Provided (fun _ _ => True) (some a) := by
  rintro ⟨⟩ _ rfl
  obtain hnone | ⟨program, hprogram⟩ := Option.eq_none_or_eq_some (Command.program? spec.name)
  · simp only [hnone]
    exact Behavior.trait_blameless.forAll Behavior.trait_blameless.read trivial
      Behavior.trait_blameless.write _
  · simp only [hprogram]
    exact Command.provided_program hprogram hargs a

/-- A stage that begins after an interrupt lacks what its command requires. -/
theorem Pipeline.lacks_stageBehavior {spec : CommandSpec} {o : Input}
    (hrequires : Command.requiring? spec.name = some o) (st : Station) {job : Job} (who : Waker)
    (hlevel : 1 ≤ job.level) (hasInput : Bool) (args : Option String) :
    ∃ fuel e st' job', e.IsMissing ∧
      st.run fuel who job (stageBehavior Command.program? spec hasInput args) = (.failed e, st', job') := by
  set noted := job.log .debug "exec" s!"start {spec.name} args={argsText args}"
  obtain ⟨program, hprogram, fuel, e, st', job', hmissing, hrun⟩ :=
    Command.lacks_program hrequires st noted who hlevel hasInput args
  refine ⟨fuel + 1, e, st', job', hmissing, ?_⟩
  unfold stageBehavior
  rw [hprogram]
  exact hrun

section Started

variable {line : String} {m m₀ m₁ : Machine} {p : Pipeline}

/-- A validated line can be started, and then it has a task for each stage. -/
theorem Pipeline.execute_validated (hregistry : m.job.shell.registry.Named)
    (hnumbered : ∀ e ∈ m.tasks, e.1 < m.nextTask)
    (hvalid : (create line m).1.validate (create line m).2 = (.ok (), p, m₀)) (pool : Nat) :
    ∃ last m₁, p.execute (some pool) m₀ = (.ok last, p, m₁) ∧ Executed pool p m₀ m₁ := by
  obtain ⟨-, -, -, hm₀⟩ := validate_create hvalid
  have hnumbered₀ : ∀ e ∈ m₀.tasks, e.1 < m₀.nextTask := by rw [hm₀]; exact hnumbered
  obtain ⟨m₁, hexecute, hexecuted⟩ := p.execute_ready pool (ready_create hregistry hvalid) hnumbered₀
  exact ⟨_, m₁, hexecute, hexecuted⟩

theorem Pipeline.stage_started {pool last : Nat} (hregistry : m.job.shell.registry.Named)
    (hprograms : m.programs = Command.program?) (hnumbered : ∀ e ∈ m.tasks, e.1 < m.nextTask)
    (hvalid : (create line m).1.validate (create line m).2 = (.ok (), p, m₀))
    (hexecute : p.execute (some pool) m₀ = (.ok last, p, m₁)) {i : Nat} {stage : Stage}
    (hstage : p.line.stages[i]? = some stage) :
    ∃ spec input output, spec.name = stage.command ∧ m₁.task? (m₀.nextTask + i) =
      some (stageTask Command.program? pool spec stage.args input output) := by
  obtain ⟨last', m', hexecute', hexecuted⟩ := execute_validated hregistry hnumbered hvalid pool
  obtain ⟨-, rfl⟩ : last = last' ∧ m₁ = m' := by simpa using hexecute.symm.trans hexecute'
  obtain ⟨-, -, -, hm₀⟩ := validate_create hvalid
  have hprograms₀ : m₀.programs = Command.program? := by rw [hm₀]; exact hprograms
  obtain ⟨spec, hspec, htask⟩ := hexecuted.task i stage hstage
  exact ⟨spec, _, _, name_of_stage hregistry hvalid (List.mem_of_getElem? hstage) hspec,
    hprograms₀ ▸ htask⟩

end Started

/-- **Who has begun at rest lacks nothing.** In a line at work take a stage whose own argument text
holds what its command requires. As long as nobody has interrupted the line, no poll of the stage
fails for lack of arguments; and once the stage has been polled then, no later poll does, wherever the
line goes from there and whoever interrupts it. -/
theorem begun_never_lacks {line : String} {m m₀ m₁ m₂ : Machine} {p : Pipeline} {pool last : Nat}
    (hregistry : m.job.shell.registry.Named) (hprograms : m.programs = Command.program?)
    (hnumbered : ∀ e ∈ m.tasks, e.1 < m.nextTask)
    (hvalid : (Pipeline.create line m).1.validate (Pipeline.create line m).2 = (.ok (), p, m₀))
    (hexecute : p.execute (some pool) m₀ = (.ok last, p, m₁)) {i : Nat} {stage : Stage}
    (hstage : p.line.stages[i]? = some stage) (hargs : Command.Supplied stage.command stage.args)
    (hreaches : m₁.Reaches pool last m₂) (hcalm : m₂.job.level = 0) :
    ¬ m₂.Lacks (m₀.nextTask + i) ∧ ∀ t budget, m₂.task? (m₀.nextTask + i) = some t →
      let m₃ := ((m₂.unready (m₀.nextTask + i)).pollTask budget (m₀.nextTask + i) t).2
      m₃.halt = none → ∀ m₄, m₃.Reaches pool last m₄ → ¬ m₄.Lacks (m₀.nextTask + i) := by
  have hlevel : m₁.job.level = 0 :=
    Nat.le_zero.mp (hcalm ▸ Relation.ReflTransGen.head_induction_on hreaches (Nat.le_refl _)
      fun hmove _ ih => hmove.level.trans ih)
  obtain ⟨spec, input, output, hname, htask⟩ :=
    Pipeline.stage_started hregistry hprograms hnumbered hvalid hexecute hstage
  have hbegins : m₁.Provided (m₀.nextTask + i) := by
    intro t ht
    obtain rfl := Option.some.inj (ht.symm.trans htask)
    exact ⟨some {}, Pipeline.provided_stageBehavior (hname ▸ hargs) _ _,
      fun a ha => ⟨hlevel, Option.some.inj ha⟩⟩
  have hprovided := hbegins.reaches hreaches hcalm
  exact ⟨hprovided.not_lacks, fun t budget ht hhalt m₄ hafter =>
    ((hprovided.pollTask ht hhalt).reaches hafter).provided.not_lacks⟩

/-- A `grep` that waits for its input when the line is interrupted. -/
theorem begun_never_lacks_parked :
    let m : Machine := { job := { shell := {} }, programs := Command.program? }
    let line := "yes 20 b | grep -v a | sort"
    let validated := (Pipeline.create line m).1.validate (Pipeline.create line m).2
    let executed := validated.2.1.execute (some 0) validated.2.2
    let parked := match executed.2.2.task? 1 with
      | some t => ((executed.2.2.unready 1).pollTask 40 1 t).2
      | none => executed.2.2
    let interrupted := parked.onJob (·.interrupt)
    interrupted.job.level = 1 ∧ (interrupted.task? 1).isSome = true ∧ ¬ interrupted.Lacks 1 := by
  intro m line validated executed parked interrupted
  have hok : validated.1 = .ok () := by decide +kernel
  have hvalid : validated = (.ok (), validated.2.1, validated.2.2) := Prod.ext hok rfl
  have hnumbered : ∀ e ∈ m.tasks, e.1 < m.nextTask := fun e he => absurd he List.not_mem_nil
  obtain ⟨last, m', hexecute, -⟩ :=
    Pipeline.execute_validated Registry.named_builtin hnumbered hvalid 0
  have hstarted : executed.2.2 = m' := by rw [show executed = _ from hexecute]
  have hstage : validated.2.1.line.stages[1]? = some ⟨"grep", some "-v a"⟩ := by decide +kernel
  have hnext : validated.2.2.nextTask = 0 := by decide +kernel
  have hlasts := (begun_never_lacks Registry.named_builtin rfl hnumbered hvalid hexecute hstage
    (by decide +kernel) .refl (by rw [← hstarted]; decide +kernel)).2
  rw [hnext, Nat.zero_add, ← hstarted] at hlasts
  refine ⟨by decide +kernel, by decide +kernel, ?_⟩
  obtain ⟨t, ht⟩ := Option.isSome_iff_exists.mp
    (show (executed.2.2.task? 1).isSome = true by decide +kernel)
  have hparked : parked = ((executed.2.2.unready 1).pollTask 40 1 t).2 := by
    simp only [parked, ht]
  have hhalt : parked.halt = none := by decide +kernel
  refine hlasts t 40 ht (hparked ▸ hhalt) interrupted ?_
  rw [← hparked]
  exact .single (.interrupt parked)

/-- A stage that an interrupt reaches before its first poll lacks what its command requires, whatever
its argument text holds. -/
theorem unbegun_lacks {line : String} {m m₀ m₁ m₂ : Machine} {p : Pipeline} {pool last : Nat}
    (hregistry : m.job.shell.registry.Named) (hprograms : m.programs = Command.program?)
    (hnumbered : ∀ e ∈ m.tasks, e.1 < m.nextTask)
    (hvalid : (Pipeline.create line m).1.validate (Pipeline.create line m).2 = (.ok (), p, m₀))
    (hexecute : p.execute (some pool) m₀ = (.ok last, p, m₁)) {i : Nat} {stage : Stage}
    (hstage : p.line.stages[i]? = some stage) {o : Input}
    (hrequires : Command.requiring? stage.command = some o)
    (hunbegun : m₂.task? (m₀.nextTask + i) = m₁.task? (m₀.nextTask + i)) (hlevel : 1 ≤ m₂.job.level) :
    m₂.Lacks (m₀.nextTask + i) := by
  obtain ⟨spec, input, output, hname, htask⟩ :=
    Pipeline.stage_started hregistry hprograms hnumbered hvalid hexecute hstage
  have hlevel : 1 ≤ (m₂.unready (m₀.nextTask + i)).job.level := hlevel
  obtain ⟨fuel, e, st, job, hmissing, hrun⟩ := Pipeline.lacks_stageBehavior (hname ▸ hrequires)
    { input := input, output := some output } (.task (m₀.nextTask + i)) hlevel input.isSome stage.args
  exact ⟨_, fuel, e, st, job, hunbegun.trans htask, hmissing, hrun⟩

/-- A `grep` with a pattern that is interrupted before its first poll, and reports that there is none. -/
theorem unbegun_lacks_grep :
    let m : Machine := { job := { shell := {} }, programs := Command.program? }
    let validated := (Pipeline.create "grep x" m).1.validate (Pipeline.create "grep x" m).2
    let executed := validated.2.1.execute (some 0) validated.2.2
    let interrupted := executed.2.2.onJob (·.interrupt)
    Command.Supplied "grep" (some "x") ∧ validated.2.1.line.stages = [⟨"grep", some "x"⟩] ∧
      interrupted.Lacks 0 ∧
      (interrupted.runStalled 60 0).job.errors = ["grep: expected 1 argument(s), got 0"] := by
  intro m validated executed interrupted
  have hok : validated.1 = .ok () := by decide +kernel
  have hvalid : validated = (.ok (), validated.2.1, validated.2.2) := Prod.ext hok rfl
  have hnumbered : ∀ e ∈ m.tasks, e.1 < m.nextTask := fun e he => absurd he List.not_mem_nil
  have hstages : validated.2.1.line.stages = [⟨"grep", some "x"⟩] := by decide +kernel
  have hstage : validated.2.1.line.stages[0]? = some ⟨"grep", some "x"⟩ := by rw [hstages]; rfl
  obtain ⟨last, m', hexecute, -⟩ :=
    Pipeline.execute_validated Registry.named_builtin hnumbered hvalid 0
  have hstarted : executed.2.2 = m' := by rw [show executed = _ from hexecute]
  have hnext : validated.2.2.nextTask = 0 := by decide +kernel
  have hsame : ∀ (m : Machine) id, (m.onJob (·.interrupt)).task? id = m.task? id := fun _ _ => rfl
  have hlacks : interrupted.Lacks (validated.2.2.nextTask + 0) :=
    unbegun_lacks Registry.named_builtin rfl hnumbered hvalid hexecute hstage rfl
      ((hsame _ _).trans (by rw [hstarted])) (by decide +kernel)
  rw [hnext] at hlacks
  exact ⟨by decide +kernel, hstages, hlacks, by decide +kernel⟩

end Pipework
