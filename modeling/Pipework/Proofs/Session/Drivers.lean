import Pipework.Proofs.History
import Pipework.Proofs.Job.Alike
import Pipework.Proofs.Job.Calm
import Pipework.Proofs.Job.Validating
import Pipework.Proofs.Session.Submitting
import Pipework.Proofs.Text.Segments

/-!
# Two ways to run a line

A line can be run alone, which keeps all of its output (`Machine.runLine`), or be submitted to a
session, which keeps the end of the output in a window that slides while items still arrive
(`Session.keepLine`). Without watches both do the same (`drivers_agree`):

* the machines on which they run the stages are alike, so they stay alike to the end of the line
  (`Session.alike_run`);
* nobody interrupts the line (`Session.calm_run`);
* what is left in the window is the end of all output (`Session.foldl_keepLine`).
-/

namespace Pipework

namespace Session

/-! ## The window -/

/-- An item more moves the window on by one. -/
theorem keepLine_eq {limit : Nat} {lines : List String} (h : lines.length ≤ limit) (v : Value) :
    keepLine limit lines v = (lines ++ [v.display]).rtake limit := by
  unfold keepLine List.rtake
  dsimp only
  rw [List.length_append, List.length_singleton]
  split
  · -- the window was full, so the oldest line goes
    rw [show lines.length + 1 - limit = 1 by omega]
  · rw [show lines.length + 1 - limit = 0 by omega, List.drop_zero]

/-- The window shows the end of what has arrived. -/
theorem foldl_keepLine (limit : Nat) (items : List Value) :
    items.foldl (keepLine limit) [] = (items.map (·.display)).rtake limit := by
  -- by induction on the items, whatever lines the window shows before them
  have hfold : ∀ (items : List Value) (lines : List String), lines.length ≤ limit →
      items.foldl (keepLine limit) lines = (lines ++ items.map (·.display)).rtake limit := by
    intro items
    induction items with
    | nil =>
      intro lines hlines
      rw [List.foldl_nil, List.map_nil, List.append_nil, List.rtake, Nat.sub_eq_zero_of_le hlines,
        List.drop_zero]
    | cons v items ih =>
      intro lines hlines
      have hnext : (keepLine limit lines v).length ≤ limit := by
        rw [keepLine_eq hlines]
        exact length_rtake_le _ _
      rw [List.foldl_cons, ih _ hnext, keepLine_eq hlines, rtake_append_rtake, List.map_cons,
        List.append_assoc]
      rfl
  exact hfold items [] (Nat.zero_le _)

/-! ## The stages -/

variable {p q : Pipeline} {a b : Machine}

/-- What a session makes of a line is what reading and settling makes of it, but for the window. -/
theorem alike_run (h : a.Alike b) (hpq : p.SameStages q) (hstate : p.state a.job = .validated)
    (fuel pool : Nat) :
    (run fuel pool q b).1 = (((a.readPipeline fuel pool p).1.toOption.getD []).map
      (·.display)).rtake a.job.shell.config.maxBuffer ∧
    ((a.readPipeline fuel pool p).2.settle fuel pool).Alike (run fuel pool q b).2 := by
  have hlimit : b.job.shell.config.maxBuffer = a.job.shell.config.maxBuffer :=
    h.field (f := (·.shell.config.maxBuffer)) fun _ _ => rfl
  have hread := Pipeline.alike_readPipeline h hpq hstate fuel pool
  unfold run
  rw [hlimit]
  generalize a.readPipeline fuel pool p = x at hread ⊢
  generalize b.readPipeline fuel pool q = y at hread ⊢
  obtain ⟨answer, hread⟩ := hread
  cases answer with
  | ok items => exact ⟨foldl_keepLine _ items, hread.settle fuel pool⟩
  | error e =>
    -- the session warns of what was not started, which only the log shows
    refine ⟨?_, Machine.Alike.settle ?_ fuel pool⟩
    · simp [List.rtake, Except.toOption]
    · obtain ⟨_, ⟨records, rfl⟩, rfl⟩ := hread
      exact ⟨_, ⟨_, rfl⟩, rfl⟩

/-- A line that nobody interrupts is run to its end at level zero. -/
theorem calm_run {m : Machine} (hm : m.Calm) (hprograms : m.programs = Command.program?)
    (hstate : p.state m.job = .validated) (fuel pool : Nat)
    (hhalt : ((m.readPipeline fuel pool p).2.settle fuel pool).halt = none) :
    ((m.readPipeline fuel pool p).2.settle fuel pool).job.level = 0 := by
  have hread := Machine.halt_of_settle hhalt
  exact ((Machine.lasts_calm pool).settle (hm.readPipeline hprograms hstate fuel pool hread) fuel
    hhalt).level

/-! ## The line -/

/-- Lines with the same stages are validated alike. -/
theorem alike_validate (h : a.Alike b) {line line' : String}
    (hstages : Stage.parseLine line' = Stage.parseLine line) {answer : Except (List ShellError) Unit}
    {a' : Machine}
    (hvalid : (Pipeline.create line a).1.validate (Pipeline.create line a).2 = (answer, p, a')) :
    ∃ q b', (Pipeline.create line' b).1.validate (Pipeline.create line' b).2 = (answer, q, b') ∧
      p.SameStages q ∧ a'.Alike b' ∧ (answer = .ok () → p.state a'.job = .validated) := by
  have hshell : b.job.shell = a.job.shell := h.field (f := (·.shell)) fun _ _ => rfl
  have hsize : b.job.progress.size = a.job.progress.size :=
    h.field (f := (·.progress.size)) fun _ _ => rfl
  have hnew := Pipeline.validate_new line a
  have hnew' := Pipeline.validate_new line' b
  rw [hshell, CommandLine.validate_congr hstages, hsize] at hnew'
  rcases hvalidate : CommandLine.validate a.job.shell.resolve? { line := line } with ⟨valid, c⟩
  rw [hvalidate] at hnew hnew'
  simp only [hvalid, Prod.mk.injEq] at hnew
  obtain ⟨rfl, rfl, rfl⟩ := hnew
  refine ⟨_, _, hnew', ⟨rfl, rfl⟩, ?_, ?_⟩
  · exact h.onJob fun h => by
      obtain ⟨_, rfl⟩ := h
      exact ⟨_, rfl⟩
  · intro hanswer
    have hstate : c.state = .validated := (Pipeline.line_of_valid (hanswer ▸ hvalid)).1
    simp [Pipeline.state, Machine.onJob, hstate]

/-- The machine on which a line is run alone, in the state of the session. -/
def alone (records : List Record) (s : Session) : Machine :=
  { job := { shell := s.shell, now := s.now, presses := s.presses, records := records }
    programs := Command.program? }

/-- A line that was run alone and the same line submitted to a session have come to the same. -/
structure Agrees (s : Session) (records : List Record) (line : String)
    (ran : List Value × List String × Machine) (told : Except Halt Outcome × Session) : Prop where
  /-- Either both return, or both are stopped, and by the same. -/
  halted : ∀ halt, ran.2.2.halt = some halt → told.1 = .error halt
  /-- The session shows the end of the output, as many lines as its settings said when the line was
  submitted. The error lines are the same. -/
  outcome : ran.2.2.halt = none → told.1 = .ok
    { lines := (ran.1.map (·.display)).rtake s.shell.config.maxBuffer
      errors := ran.2.1
      clears := ran.2.2.job.clears }
  /-- Settings, aliases and filter are the same afterwards; only a session records lines. -/
  shell : ∃ history, told.2.shell = { ran.2.2.job.shell with history := history }
  /-- It is the same time. -/
  time : told.2.now = ran.2.2.job.now
  /-- A line with unknown commands has their errors and starts nothing. -/
  unknown : (∃ stage ∈ Stage.parseLine line, s.shell.resolve? stage.command = none) →
    ran = ([], ((Stage.parseLine line).filter fun stage =>
        (s.shell.resolve? stage.command).isNone).map fun stage =>
          (ShellError.unknownCommand stage.command).message,
      (s.alone records).onJob fun job => { job with progress := #[.parsed] }) ∧
    told.2.now = s.now ∧ ∃ history, told.2.shell = { s.shell with history := history }

variable {s : Session} {line : String}

/-- A line with unknown commands starts nothing when it is run alone. -/
theorem runLine_unknown (h : ∃ stage ∈ Stage.parseLine line, s.shell.resolve? stage.command = none)
    (fuel : Nat) (records : List Record) :
    (s.alone records).runLine fuel line =
      ([], ((Stage.parseLine line).filter fun stage =>
          (s.shell.resolve? stage.command).isNone).map fun stage =>
            (ShellError.unknownCommand stage.command).message,
        (s.alone records).onJob fun job => { job with progress := #[.parsed] }) := by
  obtain ⟨p, hunknown⟩ := Pipeline.validate_unknown (m := s.alone records) h
  simp only [Machine.runLine, hunknown, List.map_map]
  rfl

/-- Nor when it is submitted. -/
theorem submit_unknown (hwatches : s.watches = [])
    (h : ∃ stage ∈ Stage.parseLine line, s.shell.resolve? stage.command = none)
    (programs : Programs) (fuel : Nat) (time : String) :
    (s.submit programs fuel time line).2.now = s.now ∧
      ∃ history, (s.submit programs fuel time line).2.shell = { s.shell with history := history } := by
  have hsubmits := s.submits programs fuel time line
  have hmachine : ((s.noted line).machine programs).2.job.now = s.now ∧
      ((s.noted line).machine programs).2.job.shell = s.shell := by
    simp only [machine, noted, log, hwatches, List.foldl_nil]
    exact ⟨rfl, rfl⟩
  have htrimmed : ∃ stage ∈ Stage.parseLine (trimmed line),
      ((s.noted line).machine programs).2.job.shell.resolve? stage.command = none := by
    rwa [hmachine.2, Stage.parseLine_trimmed]
  obtain ⟨p, hunknown⟩ := Pipeline.validate_unknown htrimmed
  generalize s.submit programs fuel time line = told at hsubmits ⊢
  cases hsubmits with
  | blank hline => exact ⟨rfl, _, rfl⟩
  | @invalid errors q m _ hvalid =>
    obtain ⟨history, records, hrecord⟩ := record_eq time (trimmed line) none
      (errors.map fun e => "Error: " ++ e.message) ((s.noted line).after m)
    have hm : m = _ := (congrArg (·.2.2) (hunknown.symm.trans hvalid)).symm
    rw [hrecord, hm]
    exact ⟨hmachine.1, history, by rw [← hmachine.2]; rfl⟩
  | @halted q m m' lines halt _ hvalid hrun hhalt =>
    exact absurd (congrArg (·.1) (hunknown.symm.trans hvalid)) (by simp)
  | @ended q m m' lines _ hvalid hrun hhalt =>
    exact absurd (congrArg (·.1) (hunknown.symm.trans hvalid)) (by simp)

end Session

theorem Machine.core_closePool (pool : Nat) (m : Machine) :
    (m.closePool pool).job.core = m.job.core := by
  unfold closePool
  generalize m.poolTasks pool = tasks
  induction tasks generalizing m with
  | nil => rfl
  | cons e tasks ih => exact (ih _).trans (Station.core_release ..)

/-- A valid line that is run alone tells what has come of its stages when its pool is at rest. -/
theorem Machine.runLine_valid {line : String} {m m' : Machine} {p : Pipeline}
    (hvalid : (Pipeline.create line m).1.validate (Pipeline.create line m).2 = (.ok (), p, m'))
    (fuel : Nat) :
    let read := m'.openPool.2.readPipeline fuel m'.nextPool p
    let settled := read.2.settle fuel m'.nextPool
    (m.runLine fuel line).1 = read.1.toOption.getD [] ∧
      (m.runLine fuel line).2.1 = settled.job.errors ∧
      (m.runLine fuel line).2.2.halt = settled.halt ∧
      (m.runLine fuel line).2.2.job.core = settled.job.core := by
  have hrun : m.runLine fuel line =
      ((m'.openPool.2.readPipeline fuel m'.nextPool p).1.toOption.getD [],
        ((m'.openPool.2.readPipeline fuel m'.nextPool p).2.settle fuel m'.nextPool).job.errors,
        (((m'.openPool.2.readPipeline fuel m'.nextPool p).2.settle fuel
          m'.nextPool).takeErrors.2).closePool m'.nextPool) := by
    simp only [runLine, hvalid]
    rfl
  rw [hrun]
  exact ⟨rfl, rfl, halt_closePool _ _, core_closePool _ _⟩

/-- Opening a pool does not matter to what validation makes of a line. -/
theorem Pipeline.validate_openPool {line : String} {m m' : Machine} {p : Pipeline}
    {answer : Except (List ShellError) Unit}
    (h : (create line m).1.validate (create line m).2 = (answer, p, m')) :
    (create line m.openPool.2).1.validate (create line m.openPool.2).2 = (answer, p, m'.openPool.2) := by
  have hnew := validate_new line m
  simp only [h, Prod.mk.injEq] at hnew
  obtain ⟨rfl, rfl, rfl⟩ := hnew
  exact validate_new line m.openPool.2

/-- A valid line comes to the same both ways, up to the end of its stages. -/
theorem Session.agree_valid {s : Session} {line : String} {records : List Record} {p q : Pipeline}
    {a b : Machine}
    (hran : (Pipeline.create line (s.alone records)).1.validate
      (Pipeline.create line (s.alone records)).2 = (.ok (), p, a))
    (hpq : p.SameStages q) (halike : a.openPool.2.Alike b)
    (hstate : p.state a.openPool.2.job = .validated) (fuel : Nat) :
    let ran := (s.alone records).runLine fuel line
    let told := Session.run fuel 0 q b
    ran.2.2.halt = told.2.halt ∧
      told.1 = (ran.1.map (·.display)).rtake s.shell.config.maxBuffer ∧
      ran.2.1 = told.2.job.errors ∧
      ran.2.2.job.core = told.2.job.core ∧
      (told.2.halt = none → told.2.job.level = 0) := by
  intro ran told
  obtain ⟨-, -, -, rfl⟩ := Pipeline.validate_create hran
  obtain ⟨houtput, herrors, hhalt, hcore⟩ := Machine.runLine_valid hran fuel
  obtain ⟨hlines, hsettled⟩ := Session.alike_run halike hpq hstate fuel 0
  have hfield : ∀ {α : Type} {f : Job → α}, (∀ job records, f { job with records := records } = f job) →
      f told.2.job = f _ := fun hf => hsettled.field hf
  refine ⟨?_, ?_, ?_, ?_, ?_⟩
  · exact hhalt.trans hsettled.halt.symm
  · exact hlines.trans (congrArg (fun items : List Value => (items.map (·.display)).rtake _)
      houtput.symm)
  · exact herrors.trans (hfield (f := (·.errors)) fun _ _ => rfl).symm
  · exact hcore.trans (hfield (f := (·.core)) fun _ _ => rfl).symm
  · intro hnone
    refine (hfield (f := (·.level)) fun _ _ => rfl).trans ?_
    exact Session.calm_run ⟨rfl, fun _ h => absurd h List.not_mem_nil⟩ rfl hstate fuel 0
      (hsettled.halt.symm.trans hnone)

/-- **The two ways to run a line agree.** A line that is not blank, run alone or submitted to a
session without watches in the same state, comes to the same: both return or neither does, with the
same errors and the same settings, aliases and filter in the end; and the session shows the end of
the output. -/
theorem drivers_agree {s : Session} (hwatches : s.watches = []) {line : String}
    (hline : trimmed line ≠ "") (fuel : Nat) (time : String) (records : List Record) :
    s.Agrees records line ((s.alone records).runLine fuel line)
      (s.submit Command.program? fuel time line) := by
  have hsubmits := s.submits Command.program? fuel time line
  have hopen : (s.alone records).openPool.2.Alike ((s.noted line).machine Command.program?).2 := by
    simp only [Session.machine, Session.noted, Session.log, hwatches, List.foldl_nil]
    exact ⟨_, ⟨_, rfl⟩, rfl⟩
  -- what a line with unknown commands comes to does not take the machines apart
  have hunknown := fun h : ∃ stage ∈ Stage.parseLine line,
      s.shell.resolve? stage.command = none => And.intro (Session.runLine_unknown (s := s) h fuel records)
    (Session.submit_unknown hwatches h Command.program? fuel time)
  rcases hran : (Pipeline.create line (s.alone records)).1.validate
    (Pipeline.create line (s.alone records)).2 with ⟨answer, p, a⟩
  obtain ⟨q, b, htold, hpq, halike, hstate⟩ := Session.alike_validate hopen
    (Stage.parseLine_trimmed line) (Pipeline.validate_openPool hran)
  generalize s.submit Command.program? fuel time line = told at hsubmits hunknown ⊢
  cases hsubmits with
  | blank hblank => exact absurd hblank hline
  | @invalid errors q' b' _ hvalid =>
    obtain ⟨rfl, -, rfl⟩ : answer = .error errors ∧ q = q' ∧ b = b' := by
      simpa only [Prod.mk.injEq] using htold.symm.trans hvalid
    obtain ⟨history, records', hrecord⟩ := Session.record_eq time (trimmed line) none
      (errors.map fun e => "Error: " ++ e.message) ((s.noted line).after b)
    have hrun : (s.alone records).runLine fuel line = ([], errors.map (·.message), a) := by
      simp only [Machine.runLine, hran]
    -- validating has changed nothing but the mark of the pipeline
    have hnew := Pipeline.validate_new line (s.alone records)
    simp only [hran, Prod.mk.injEq] at hnew
    obtain ⟨-, -, rfl⟩ := hnew
    have hshell : b.job.shell = s.shell := halike.field (f := (·.shell)) fun _ _ => rfl
    have hnow : b.job.now = s.now := halike.field (f := (·.now)) fun _ _ => rfl
    rw [hrun] at hunknown ⊢
    refine ⟨?_, ?_, ?_, ?_, hunknown⟩
    · intro halt hhalt
      exact absurd hhalt (by simp [Session.alone, Machine.onJob])
    · intro _
      simp [List.rtake, Session.alone, Machine.onJob]
    · rw [hrecord]
      exact ⟨history, congrArg ({ · with history := history }) hshell⟩
    · rw [hrecord]
      exact hnow
  | @halted q' b' m' lines halt _ hvalid hrun hhalt =>
    obtain ⟨rfl, rfl, rfl⟩ : answer = .ok () ∧ q = q' ∧ b = b' := by
      simpa only [Prod.mk.injEq] using htold.symm.trans hvalid
    have hagree := Session.agree_valid hran hpq halike (hstate rfl) fuel
    rw [show Session.run fuel 0 q b = (lines, m') from hrun] at hagree
    obtain ⟨hstopped, -, -, hcore, -⟩ := hagree
    -- nothing is shown, and nothing is recorded
    have hhalted := hstopped.trans hhalt
    refine ⟨?_, ?_, ?_, ?_, hunknown⟩
    · intro halt' hhalt'
      rw [hhalted] at hhalt'
      exact congrArg Except.error (Option.some.inj hhalt')
    · intro hnone
      exact absurd (hhalted.symm.trans hnone) (by simp)
    · exact ⟨_, (congrArg (·.1) hcore).symm⟩
    · exact (congrArg (·.2.2.1) hcore).symm
  | @ended q' b' m' lines _ hvalid hrun hhalt =>
    obtain ⟨rfl, rfl, rfl⟩ : answer = .ok () ∧ q = q' ∧ b = b' := by
      simpa only [Prod.mk.injEq] using htold.symm.trans hvalid
    have hagree := Session.agree_valid hran hpq halike (hstate rfl) fuel
    rw [show Session.run fuel 0 q b = (lines, m') from hrun] at hagree
    obtain ⟨hstopped, hlines, herrors, hcore, hlevel⟩ := hagree
    obtain ⟨history, records', hrecord⟩ := Session.record_eq time (trimmed line) q.line.head? lines
      ((s.noted line).after m')
    have hcalm : m'.job.level = 0 := hlevel hhalt
    refine ⟨?_, ?_, ?_, ?_, hunknown⟩
    · intro halt' hhalt'
      exact absurd (hhalt'.symm.trans (hstopped.trans hhalt)) (by simp)
    · intro _
      have hclears : m'.job.clears = ((s.alone records).runLine fuel line).2.2.job.clears :=
        (congrArg (·.2.2.2.2) hcore).symm
      rw [← hlines, herrors, ← hclears, hcalm]
      rfl
    · rw [hrecord]
      exact ⟨history, congrArg (fun core => { core.1 with history := history }) hcore.symm⟩
    · rw [hrecord]
      exact (congrArg (·.2.2.1) hcore).symm

/-- A line that makes the window smaller: its own window stays at two of the three lines. -/
theorem drivers_agree_window :
    let s : Session := { shell := { config := { Config.standard with capacity := 2, maxBuffer := 2 } } }
    let line := " settings output.max_buffer:1 | yes a | head 3"
    let ran := (s.alone []).runLine 60 line
    let told := s.submit Command.program? 60 "" line
    s.watches = [] ∧ trimmed line ≠ "" ∧ ran.1.length = 3 ∧
      told.2.shell.config.maxBuffer = 1 ∧ told.1 = .ok { lines := ["a", "a"] } ∧ s.Agrees [] line ran told := by
  intro s line ran told
  have hline : trimmed line ≠ "" := by decide +kernel
  exact ⟨rfl, hline, by decide +kernel, by decide +kernel, by decide +kernel,
    drivers_agree rfl hline 60 "" []⟩

end Pipework
