import Pipework.Proofs.Command.Respecting
import Pipework.Proofs.Job.Settling

/-!
# What submitting a line comes to

Submitting a line comes to one of four things (`Session.Submits`): a blank line does nothing, a line
that does not validate is recorded with its errors, a line that stops the machine for good is not
recorded, and any other is recorded with its output.

From this follows what every line keeps. A promise about the shell that the watches and the stages of
the line guard, and that does not mind what is recorded, holds after the line
(`Session.guarded_submit`), and so after any number of lines (`Session.Runs.guarded`).
-/

namespace Pipework

/-! ## A line that runs -/

section Line

variable {p : Pipeline} {pool : Nat} {m m' : Machine}

/-- What holds of the tasks that were there and of every stage holds of all tasks. -/
theorem Pipeline.Executed.forall_tasks (h : p.Executed pool m m')
    (hids : ∀ e ∈ m.tasks, e.1 < m.nextTask) {T : Task → Prop} (hold : ∀ e ∈ m.tasks, T e.2)
    (hnew : ∀ i stage spec, p.line.stages[i]? = some stage →
      m.job.shell.command? stage.command = some spec →
      T (stageTask m.programs pool spec stage.args (feed none m.job.pipes.size i)
        (m.job.pipes.size + i))) : ∀ e ∈ m'.tasks, T e.2 := by
  intro e he
  by_cases hid : e.1 < m.nextTask
  · have hno : ∀ i < p.line.stages.length, e.1 ≠ m.nextTask + i := by omega
    exact hold e (h.old hids he hno).1
  · have hfound := h.indexed hids he (Nat.le_of_not_lt hid)
    obtain ⟨new, htasks, hnumbers⟩ := h.tasks
    obtain ⟨i, hi, hnumber⟩ : ∃ i < p.line.stages.length, e.1 = m.nextTask + i := by
      rw [htasks] at he
      have hmem := (List.mem_append.mp he).resolve_left fun hin => hid (hids e hin)
      have hrange : e.1 ∈ new.map (·.1) := List.mem_map_of_mem hmem
      rw [hnumbers] at hrange
      obtain ⟨i, hi, heq⟩ := List.mem_range'.mp hrange
      exact ⟨i, hi, by omega⟩
    have hstage := List.getElem?_eq_getElem hi
    obtain ⟨spec, hspec, htask⟩ := h.task i _ hstage
    rw [hnumber, htask] at hfound
    rw [← Option.some.inj hfound]
    exact hnew i _ spec hstage hspec

/-- A stage that has been validated is one that was typed, under its canonical name. -/
theorem Pipeline.validate_stage {line : String} (hnamed : m.job.shell.registry.Named)
    (hvalid : (create line m).1.validate (create line m).2 = (.ok (), p, m')) {i : Nat}
    {stage : Stage} {spec : CommandSpec} (hstage : p.line.stages[i]? = some stage)
    (hspec : m.job.shell.command? stage.command = some spec) :
    ∃ typed, (Stage.parseLine line)[i]? = some typed ∧
      m.job.shell.command? typed.command = some spec ∧ stage.args = typed.args := by
  obtain ⟨hcommands, hstages, -, -⟩ := validate_create hvalid
  rw [hstages, List.getElem?_map, Option.map_eq_some_iff] at hstage
  obtain ⟨typed, htyped, rfl⟩ := hstage
  obtain ⟨spec', hspec'⟩ := hcommands typed (List.mem_of_getElem? htyped)
  have hname : m.job.shell.resolve? typed.command = some spec'.name := by
    rw [Shell.resolve?, hspec', Option.map_some]
  have hresolved : CommandLine.resolveStage m.job.shell.resolve? typed =
      { typed with command := spec'.name } := by simp only [CommandLine.resolveStage, hname]
  rw [hresolved] at hspec
  obtain rfl : spec' = spec :=
    Option.some.inj ((Shell.command?_canonical hnamed hspec').symm.trans hspec)
  exact ⟨typed, htyped, hspec', by rw [hresolved]⟩

/-- A line that has been executed is read to its end, and the pool comes to rest. -/
theorem Session.run_executed {p' : Pipeline} {m₁ : Machine} {last : Nat}
    (h : p.execute (some pool) m = (.ok last, p', m₁)) (fuel : Nat) :
    (Session.run fuel pool p m).2 =
      ((m₁.runUntil fuel pool { pipe := last }).2.onJob fun job => (job.closeRead last).2).settle
        fuel pool := by
  simp only [Session.run, Machine.readPipeline, h]
  rfl

/-- What lasts from the start of the stages on holds when the line has run to its end. -/
theorem Machine.Lasts.run {P : Machine → Prop} (h : Machine.Lasts pool P) (fuel : Nat)
    (hready : p.Ready m) (hids : ∀ e ∈ m.tasks, e.1 < m.nextTask)
    (hstart : ∀ m', p.Executed pool m m' → P m')
    (hhalt : (Session.run fuel pool p m).2.halt = none) : P (Session.run fuel pool p m).2 := by
  obtain ⟨m₁, hexecute, hexecuted⟩ := p.execute_ready pool hready hids
  rw [Session.run_executed hexecute] at hhalt ⊢
  have hrested := Machine.halt_of_settle hhalt
  have hran := h.runUntil (hstart m₁ hexecuted) fuel _ hrested
  exact h.settle (h.of_core hran (Job.core_query ..)) fuel hhalt

end Line

/-- A stage that has just been started guards a promise if its program does. -/
theorem Pipeline.guards_stageTask {programs : Programs} {pool output : Nat} {spec : CommandSpec}
    {args : Option String} {input : Option Nat} {I : Shell → Prop}
    (h : ∀ program, programs spec.name = some program → ∀ s : View, I s.shell →
      (program input.isSome args).Guards input.isSome I (fun _ s => I s.shell) s) :
    (stageTask programs pool spec args input output).Guards I := by
  refine ⟨input.isSome, Option.isSome_eq_false_iff.trans Option.isNone_iff_eq_none |>.mp, fun shell hs => ?_⟩
  refine Behavior.guards_perform id ?_
  rintro _ s rfl
  split
  · rename_i program hprogram
    exact h program hprogram _ hs
  · have hquiet : (Behavior.forAll .read .write).Obeys .quiet :=
      .forAll quiet_read quiet_write
    exact hquiet.respecting.guards hs fun _ _ => id

/-- A watch does not touch the shell. -/
theorem Watch.guards_task (w : Watch) (pool : Nat) (I : Shell → Prop) : (w.task pool).Guards I := by
  refine ⟨true, by simp, fun shell hs => ?_⟩
  have hobeys : w.behavior.Obeys (.respecting I) := by
    refine w.obeys_behavior.mono (fun action => ?_) fun _ _ _ => trivial
    cases action with
    | setShell s => exact False.elim
    | _ => exact fun _ => trivial
  exact hobeys.guards hs fun _ _ => id

namespace Session

variable {s s' : Session} {programs : Programs} {fuel : Nat} {time line : String}

/-! ## The machine for a line -/

/-- The watches join the job for a line as it is. -/
theorem job_machine (programs : Programs) (s : Session) : (s.machine programs).2.job =
    { shell := s.shell, now := s.now, presses := s.presses, records := s.records } := by
  refine machine_induction (P := (·.job = _)) programs s rfl fun w _ m hm => ?_
  obtain ⟨incoming, hadd⟩ := w.join_eq (s.machine programs).1 m
  exact (congrArg (·.job) hadd).trans hm

theorem shell_machine (programs : Programs) (s : Session) :
    (s.machine programs).2.job.shell = s.shell ∧ (s.machine programs).2.programs = programs := by
  refine ⟨congrArg (·.shell) (s.job_machine programs), ?_⟩
  refine machine_induction (P := (·.programs = _)) programs s rfl fun w _ m hm => ?_
  obtain ⟨incoming, hadd⟩ := w.join_eq (s.machine programs).1 m
  exact (congrArg (·.programs) hadd).trans hm

/-- The tasks of the machine are the watches. -/
theorem tasks_machine (programs : Programs) (s : Session) :
    ∀ e ∈ (s.machine programs).2.tasks, ∃ w ∈ s.watches,
      e.2 = w.task (s.machine programs).1 := by
  refine machine_induction (P := fun m => ∀ e ∈ m.tasks, ∃ w ∈ s.watches,
    e.2 = w.task (s.machine programs).1) programs s (fun e he => absurd he List.not_mem_nil) ?_
  intro w hw m hm e he
  obtain ⟨incoming, hadd⟩ := w.join_eq (s.machine programs).1 m
  rw [hadd] at he
  rcases List.mem_append.mp he with hold | hnew
  · exact hm e hold
  · obtain rfl := List.mem_singleton.mp hnew
    exact ⟨w, hw, rfl⟩

/-! ## The four ends of a line -/

/-- The session that has taken note of a line. -/
def noted (line : String) (s : Session) : Session := s.log .info ("submit: " ++ trimmed line)

/-- A line that has not been validated, on the machine for it. -/
def prepared (programs : Programs) (line : String) (s : Session) : Pipeline × Machine :=
  Pipeline.create (trimmed line) ((s.noted line).machine programs).2

/-- A line that validates may be executed on the machine for it. -/
theorem ready_prepared {p : Pipeline} {m : Machine} (hnamed : s.shell.registry.Named)
    (hvalid : (s.prepared programs line).1.validate (s.prepared programs line).2 = (.ok (), p, m)) :
    p.Ready m ∧ ∀ e ∈ m.tasks, e.1 < m.nextTask := by
  have hshell : ((s.noted line).machine programs).2.job.shell = s.shell :=
    ((s.noted line).shell_machine programs).1
  refine ⟨Pipeline.ready_create (hshell ▸ hnamed) hvalid, ?_⟩
  obtain ⟨-, -, -, hm⟩ := Pipeline.validate_create hvalid
  rw [hm]
  exact (Session.free_machine programs (s.noted line)).numbered

/-- What submitting a line comes to. -/
inductive Submits (programs : Programs) (fuel : Nat) (time line : String) (s : Session) :
    Except Halt Outcome × Session → Prop
  | blank (hline : trimmed line = "") : Submits programs fuel time line s (.ok {}, s)
  | invalid {errors : List ShellError} {p : Pipeline} {m : Machine} (hline : trimmed line ≠ "")
      (hvalid : (s.prepared programs line).1.validate (s.prepared programs line).2 =
        (.error errors, p, m)) :
      Submits programs fuel time line s (.ok { errors := errors.map (·.message) },
        ((s.noted line).after m).record time (trimmed line) none
          (errors.map fun e => "Error: " ++ e.message))
  | halted {p : Pipeline} {m m' : Machine} {lines : List String} {halt : Halt}
      (hline : trimmed line ≠ "")
      (hvalid : (s.prepared programs line).1.validate (s.prepared programs line).2 = (.ok (), p, m))
      (hrun : run fuel ((s.noted line).machine programs).1 p m = (lines, m'))
      (hhalt : m'.halt = some halt) :
      Submits programs fuel time line s (.error halt, (s.noted line).after m')
  | ended {p : Pipeline} {m m' : Machine} {lines : List String} (hline : trimmed line ≠ "")
      (hvalid : (s.prepared programs line).1.validate (s.prepared programs line).2 = (.ok (), p, m))
      (hrun : run fuel ((s.noted line).machine programs).1 p m = (lines, m'))
      (hhalt : m'.halt = none) :
      Submits programs fuel time line s
        (.ok { lines := if 0 < m'.job.level then lines ++ [interruptMark] else lines,
               errors := m'.job.errors, interrupted := decide (0 < m'.job.level),
               clears := m'.job.clears },
          ((s.noted line).after m').record time (trimmed line) p.line.head? lines)

theorem submits (programs : Programs) (fuel : Nat) (time line : String) (s : Session) :
    s.Submits programs fuel time line (s.submit programs fuel time line) := by
  unfold submit
  dsimp only
  split
  · rename_i hline
    exact .blank (String.isEmpty_iff.mp hline)
  · rename_i hline
    replace hline : trimmed line ≠ "" := fun h => hline (String.isEmpty_iff.mpr h)
    rcases hvalid : (s.prepared programs line).1.validate (s.prepared programs line).2
      with ⟨errors | _, p, m⟩
    · have hinvalid : s.Submits programs fuel time line _ := .invalid hline hvalid
      unfold prepared noted at hvalid
      simp only [hvalid, List.map_map]
      exact hinvalid
    · rcases hrun : run fuel ((s.noted line).machine programs).1 p m with ⟨lines, m'⟩
      have hvalid' := hvalid
      have hrun' := hrun
      unfold prepared noted at hvalid'
      unfold noted at hrun'
      simp only [hvalid', hrun']
      cases hhalt : m'.halt with
      | some halt => exact .halted hline hvalid hrun hhalt
      | none => exact .ended hline hvalid hrun hhalt

/-- Recording a line changes nothing but the history and the log. -/
theorem record_eq (time line : String) (head : Option String) (output : List String)
    (s : Session) : ∃ history records, s.record time line head output =
      { s with shell := { s.shell with history := history }, records := records } := by
  unfold record
  split
  · exact ⟨_, _, rfl⟩
  · dsimp only
    split
    · exact ⟨_, _, rfl⟩
    · exact ⟨_, _, rfl⟩

/-- A line that is not skipped is pushed to the history, and nothing else in the shell changes. -/
theorem shell_record (time line : String) (head : Option String) (output : List String)
    (s : Session) : (s.record time line head output).shell =
      if skips s.shell.config ((wordsOf line).headD "") head then s.shell
      else { s.shell with history := (s.shell.history.push ⟨line, output, time⟩).2 } := by
  unfold record
  split
  · rfl
  · dsimp only
    split
    · rfl
    · rfl

section Guarding

variable {I : Shell → Prop} (hnamed : s.shell.registry.Named)
  (hstages : ∀ i stage spec, (Stage.parseLine (trimmed line))[i]? = some stage →
    s.shell.command? stage.command = some spec → ∀ pool input output, input.isSome = (i != 0) →
    (Pipeline.stageTask programs pool spec stage.args input output).Guards I)

include hnamed hstages

/-- Where the stages of a valid line start, every task guards the promise: the watches do not touch
the shell, and a stage is one of those that were typed. -/
theorem guarded_executed {p : Pipeline} {m m₁ : Machine}
    (hvalid : (s.prepared programs line).1.validate (s.prepared programs line).2 = (.ok (), p, m))
    (hids : ∀ e ∈ m.tasks, e.1 < m.nextTask)
    (hexecuted : p.Executed ((s.noted line).machine programs).1 m m₁) (hI : I s.shell) :
    m₁.Guarded I := by
  obtain ⟨hshell, hprograms⟩ := (s.noted line).shell_machine programs
  replace hshell : ((s.noted line).machine programs).2.job.shell = s.shell := hshell
  obtain ⟨-, -, -, hm⟩ := Pipeline.validate_create hvalid
  have hshell' : m.job.shell = s.shell := by
    rw [hm]
    exact hshell
  have hprograms' : m.programs = programs := by
    rw [hm]
    exact hprograms
  refine ⟨?_, hexecuted.forall_tasks hids (fun e he => ?_) fun i stage spec hstage hspec => ?_⟩
  · obtain ⟨records, hjob⟩ := hexecuted.job
    rw [hjob]
    exact hshell' ▸ hI
  · rw [hm] at he
    obtain ⟨w, -, htask⟩ := (s.noted line).tasks_machine programs e he
    exact htask ▸ w.guards_task _ I
  · rw [hshell', ← hshell] at hspec
    obtain ⟨typed, htyped, htypedSpec, hargs⟩ :=
      Pipeline.validate_stage (hshell ▸ hnamed) hvalid hstage hspec
    rw [hprograms', hargs]
    exact hstages i typed spec htyped (hshell ▸ htypedSpec) _ _ _ (Pipeline.isSome_feed _ i)

/-- A promise that the stages of a line guard holds after the line, unless the line has stopped the
machine for good. -/
theorem guarded_submit
    (hrecorded : ∀ shell e, I shell → I { shell with history := (shell.history.push e).2 })
    (hI : I s.shell) {outcome : Outcome}
    (h : s.submit programs fuel time line = (.ok outcome, s')) : I s'.shell := by
  have hsubmits := s.submits programs fuel time line
  rw [h] at hsubmits
  obtain ⟨hshell, -⟩ := (s.noted line).shell_machine programs
  replace hshell : ((s.noted line).machine programs).2.job.shell = s.shell := hshell
  have hkept : ∀ (s' : Session) head output, I s'.shell →
      I (s'.record time (trimmed line) head output).shell := by
    intro s' head output hs'
    rw [shell_record]
    split
    · exact hs'
    · exact hrecorded _ _ hs'
  cases hsubmits with
  | blank hline => exact hI
  | @invalid errors p m hline hvalid =>
    refine hkept _ _ _ ?_
    have hsame : m.job.shell = s.shell := by
      rw [← hshell, ← congrArg (·.2.2.job.shell) hvalid]
      rfl
    show I m.job.shell
    rw [hsame]
    exact hI
  | @ended p m m' lines hline hvalid hrun hhalt =>
    refine hkept _ _ _ ?_
    obtain ⟨hready, hids⟩ := ready_prepared hnamed hvalid
    have hguarded := (Machine.lasts_guarded ((s.noted line).machine programs).1 I).run fuel hready
      hids (fun m₁ hexecuted => guarded_executed hnamed hstages hvalid hids hexecuted hI)
      (by rw [hrun]; exact hhalt)
    rw [hrun] at hguarded
    exact hguarded.shell

end Guarding

/-! ## One line after another -/

/-- What comes of a session when lines are submitted to it that are allowed where they are, each to
its end. Between the lines watches may be set up and keys pressed. -/
inductive Runs (programs : Programs) (allowed : Session → String → Prop) (s₀ : Session) :
    Session → Prop
  | start : Runs programs allowed s₀ s₀
  | submit (fuel : Nat) (time line : String) {s s' : Session} {outcome : Outcome} :
      Runs programs allowed s₀ s → allowed s line →
      s.submit programs fuel time line = (.ok outcome, s') → Runs programs allowed s₀ s'
  | watch (period : Nat) {s : Session} : Runs programs allowed s₀ s →
      Runs programs allowed s₀ (s.watch period)
  | press (presses : Nat) {s : Session} : Runs programs allowed s₀ s →
      Runs programs allowed s₀ { s with presses := presses }

/-- A promise that the stages of all allowed lines guard holds after any number of them. -/
theorem Runs.guarded {allowed : Session → String → Prop} {I : Shell → Prop}
    (hnamed : ∀ shell, I shell → shell.registry.Named)
    (hrecorded : ∀ shell e, I shell → I { shell with history := (shell.history.push e).2 })
    (hstages : ∀ s line, I s.shell → allowed s line → ∀ i stage spec,
      (Stage.parseLine (trimmed line))[i]? = some stage →
      s.shell.command? stage.command = some spec → ∀ pool input output, input.isSome = (i != 0) →
      (Pipeline.stageTask programs pool spec stage.args input output).Guards I)
    {s₀ : Session} (h : s₀.Runs programs allowed s) (hI : I s₀.shell) : I s.shell := by
  induction h with
  | start => exact hI
  | @submit fuel time line s s' outcome _ hallowed hsubmit ih =>
    exact guarded_submit (hnamed _ ih) (hstages s line ih hallowed) hrecorded ih hsubmit
  | watch period _ ih => exact ih
  | press presses _ ih => exact ih

end Session

end Pipework
