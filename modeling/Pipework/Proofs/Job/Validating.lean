import Pipework.Proofs.Job.Starting
import Pipework.Proofs.Text.Keyed

/-!
# What validation promises

Validating a line resolves each of its commands by itself. It finds one error for every command that
does not resolve, in the order of the stages, and touches nothing of the machine but the mark of how
far the pipeline has come (`Pipeline.validate_new`). What resolves stays resolved: a canonical name
stands for itself (`Shell.resolve?_canonical`), so validating a line again changes nothing.

A line that has been validated can be executed on any machine with the same table of commands,
whatever has become of the aliases since: all its stages start, each with a pipe of its own
(`Pipeline.Laid`), unless the pool takes no tasks. The results are put together in
`validation_decides`.
-/

namespace Pipework

/-! ## Resolving -/

/-- A canonical name stands for itself. -/
theorem Shell.resolve?_canonical {s : Shell} (h : s.registry.Named) {name canonical : String}
    (hname : s.resolve? name = some canonical) : s.resolve? canonical = some canonical := by
  obtain ⟨spec, hspec, rfl⟩ := Option.map_eq_some_iff.mp hname
  rw [Shell.resolve?, Shell.command?_canonical h hspec, Option.map_some]

namespace CommandLine

variable {resolve : String → Option String}

/-- Resolving fails for the same stages when it is done again. -/
theorem stageError?_resolveStage (hresolve : ∀ name canonical, resolve name = some canonical →
    resolve canonical = some canonical) (stage : Stage) :
    stageError? resolve (resolveStage resolve stage) = stageError? resolve stage := by
  cases hstage : resolve stage.command with
  | none => simp only [resolveStage, hstage]
  | some canonical =>
    have hagain := hresolve _ _ hstage
    simp only [resolveStage, stageError?, hstage, hagain]

theorem resolveStage_resolveStage (hresolve : ∀ name canonical, resolve name = some canonical →
    resolve canonical = some canonical) (stage : Stage) :
    resolveStage resolve (resolveStage resolve stage) = resolveStage resolve stage := by
  cases hstage : resolve stage.command with
  | none => simp only [resolveStage, hstage]
  | some canonical =>
    have hagain := hresolve _ _ hstage
    simp only [resolveStage, hstage, hagain]

/-- A line that has been validated is left as it is when that is done again. -/
theorem validate_validate (hresolve : ∀ name canonical, resolve name = some canonical →
    resolve canonical = some canonical) (c : CommandLine) (hc : c.state = .unparsed) :
    validate resolve (validate resolve c).2 = validate resolve c := by
  have herrors : ∀ stages : List Stage,
      (stages.map (resolveStage resolve)).filterMap (stageError? resolve) =
        stages.filterMap (stageError? resolve) := by
    intro stages
    rw [List.filterMap_map]
    exact List.filterMap_congr fun stage _ => stageError?_resolveStage hresolve stage
  have hstages : ∀ stages : List Stage,
      (stages.map (resolveStage resolve)).map (resolveStage resolve) =
        stages.map (resolveStage resolve) := by
    intro stages
    rw [List.map_map]
    exact List.map_congr_left fun stage _ => resolveStage_resolveStage hresolve stage
  by_cases hvalid : ((Stage.parseLine c.line).filterMap (stageError? resolve)).isEmpty
  · simp [validate, parse, hc, hvalid]
  · simp [validate, parse, hc, hvalid, herrors, hstages]

/-- Lines with the same stages are validated alike. -/
theorem validate_congr {line line' : String} (h : Stage.parseLine line' = Stage.parseLine line) :
    validate resolve { line := line' } = ((validate resolve { line := line }).1,
      { (validate resolve { line := line }).2 with line := line' }) := by
  simp [validate, parse, h]

/-- The errors are those of the commands that do not resolve. -/
theorem filterMap_stageError? (resolve : String → Option String) (stages : List Stage) :
    stages.filterMap (stageError? resolve) =
      (stages.filter fun stage => (resolve stage.command).isNone).map fun stage =>
        .unknownCommand stage.command := by
  induction stages with
  | nil => rfl
  | cons stage stages ih =>
    cases hstage : resolve stage.command with
    | none => simp [stageError?, hstage, ih]
    | some canonical => simp [stageError?, hstage, ih]

end CommandLine

namespace Pipeline

/-! ## Validating -/

/-- What validating a line comes to. -/
structure Validated (p : Pipeline) (line : String) (m : Machine)
    (answer : Except (List ShellError) Unit) (m' : Machine) : Prop where
  /-- The line is valid if every command resolves. -/
  valid : answer = .ok () ↔
    ∀ stage ∈ Stage.parseLine line, ∃ canonical, m.job.shell.resolve? stage.command = some canonical
  /-- Otherwise there is one error for each command that does not, in the order of the stages. -/
  errors : ∀ errors, answer = .error errors → errors =
    ((Stage.parseLine line).filter fun stage => (m.job.shell.resolve? stage.command).isNone).map
      fun stage => .unknownCommand stage.command
  /-- There are as many stages as the line has. -/
  length : p.line.stages.length = (Stage.parseLine line).length
  /-- Nothing happens but that the pipeline is numbered and marked. -/
  untouched : m' = m.onJob fun job => { job with progress := job.progress.push p.line.state }
  /-- Validating again changes nothing. -/
  again : p.validate m' = (answer, p, m')

/-- What validation makes of a new pipeline. -/
theorem validate_new (line : String) (m : Machine) :
    let (valid, c) := CommandLine.validate m.job.shell.resolve? { line := line }
    (create line m).1.validate (create line m).2 =
      (if valid then .ok () else .error c.errors, ⟨c, m.job.progress.size⟩,
        m.onJob fun job => { job with progress := job.progress.push c.state }) := by
  simp only [create, validate, Machine.onJob, setState, set_push_last]
  rfl

/-- Validation does with a line what is to be expected of it. -/
theorem validated (line : String) {m m' : Machine} (hnamed : m.job.shell.registry.Named)
    {answer : Except (List ShellError) Unit} {p : Pipeline}
    (h : (create line m).1.validate (create line m).2 = (answer, p, m')) :
    p.Validated line m answer m' := by
  have hresolve : ∀ name canonical, m.job.shell.resolve? name = some canonical →
      m.job.shell.resolve? canonical = some canonical :=
    fun _ _ => Shell.resolve?_canonical hnamed
  have hagain := CommandLine.validate_validate hresolve { line := line } rfl
  have hunknown := CommandLine.filterMap_stageError? m.job.shell.resolve? (Stage.parseLine line)
  have hnew := validate_new line m
  rcases hvalidate : CommandLine.validate m.job.shell.resolve? { line := line } with ⟨valid, c⟩
  rw [hvalidate] at hnew hagain
  simp only [hnew, Prod.mk.injEq] at h
  obtain ⟨rfl, rfl, rfl⟩ := h
  set marked := m.onJob fun job => { job with progress := job.progress.push c.state } with hmarked
  have hstay : marked.onJob (setState ⟨c, m.job.progress.size⟩ c.state) = marked := by
    simp only [hmarked, Machine.onJob, setState, set_push_last]
  have hsecond : validate ⟨c, m.job.progress.size⟩ marked =
      (if valid then .ok () else .error c.errors, ⟨c, m.job.progress.size⟩, marked) := by
    have hshell : marked.job.shell = m.job.shell := rfl
    simp only [validate, hshell, hagain, hstay]
  simp only [CommandLine.validate, CommandLine.parse, if_true, ne_eq, not_true_eq_false, if_false,
    Prod.mk.injEq, hunknown] at hvalidate
  obtain ⟨hvalid, hc⟩ := hvalidate
  refine ⟨?_, ?_, ?_, rfl, hsecond⟩
  · rw [← hvalid]
    simp [List.filter_eq_nil_iff, ← ne_eq, Option.ne_none_iff_exists']
  · intro errors herrors
    cases valid with
    | true => simp at herrors
    | false => rw [← Except.error.inj herrors, ← hc]
  · rw [← hc]
    exact List.length_map _

/-- A line with a command that does not resolve has its errors, and is marked as one that has been
read. -/
theorem validate_unknown {line : String} {m : Machine}
    (h : ∃ stage ∈ Stage.parseLine line, m.job.shell.resolve? stage.command = none) :
    ∃ p, (create line m).1.validate (create line m).2 =
      (.error (((Stage.parseLine line).filter fun stage =>
          (m.job.shell.resolve? stage.command).isNone).map fun stage => .unknownCommand stage.command),
        p, m.onJob fun job => { job with progress := job.progress.push .parsed }) := by
  have hnew := validate_new line m
  have hunknown := CommandLine.filterMap_stageError? m.job.shell.resolve? (Stage.parseLine line)
  obtain ⟨stage, hstage, hnone⟩ := h
  set errors : List ShellError := ((Stage.parseLine line).filter fun stage =>
    (m.job.shell.resolve? stage.command).isNone).map fun stage => .unknownCommand stage.command
  have herrors : errors.isEmpty = false := by
    rw [List.isEmpty_eq_false_iff]
    refine List.ne_nil_of_mem (List.mem_map_of_mem (List.mem_filter.mpr ⟨hstage, ?_⟩))
    rw [hnone]
    rfl
  simp only [CommandLine.validate, CommandLine.parse, if_true, ne_eq, not_true_eq_false, if_false,
    hunknown, herrors, Bool.false_eq_true] at hnew
  exact ⟨_, hnew⟩

/-- A line with errors has a command that does not resolve. -/
theorem unknown_of_error {line : String} {m m' : Machine} {p : Pipeline} {errors : List ShellError}
    (h : (create line m).1.validate (create line m).2 = (.error errors, p, m')) :
    ∃ stage ∈ Stage.parseLine line, m.job.shell.resolve? stage.command = none := by
  by_contra! hall
  have hcommands : ∀ stage ∈ Stage.parseLine line, ∃ spec,
      m.job.shell.command? stage.command = some spec := by
    intro stage hstage
    refine Option.ne_none_iff_exists'.mp fun hnone => hall stage hstage ?_
    rw [Shell.resolve?, hnone, Option.map_none]
  obtain ⟨p', m', hok⟩ := validate_ok hcommands
  rw [hok] at h
  simp at h

/-- In a valid line every command resolves, and the first one is told by its canonical name. -/
theorem head_of_valid {line : String} {m m' : Machine} {p : Pipeline}
    (h : (create line m).1.validate (create line m).2 = (.ok (), p, m')) :
    (∀ stage ∈ Stage.parseLine line, m.job.shell.resolve? stage.command ≠ none) ∧
      ∃ first rest, Stage.parseLine line = first :: rest ∧
        p.line.head? = m.job.shell.resolve? first.command := by
  obtain ⟨hcommands, hstages, -, -⟩ := validate_create h
  have hall : ∀ stage ∈ Stage.parseLine line, m.job.shell.resolve? stage.command ≠ none := by
    intro stage hstage
    obtain ⟨spec, hspec⟩ := hcommands stage hstage
    simp [Shell.resolve?, hspec]
  obtain ⟨first, rest, hline⟩ := List.exists_cons_of_ne_nil (parseLine_ne_nil line)
  obtain ⟨name, hname⟩ := Option.ne_none_iff_exists'.mp (hall first (by simp [hline]))
  refine ⟨hall, first, rest, hline, ?_⟩
  rw [CommandLine.head?, hstages, hline, List.map_cons, List.head?_cons, Option.map_some,
    CommandLine.resolveStage, hname]

/-- A line that is valid is marked so, and has no errors. -/
theorem line_of_valid {line : String} {m m' : Machine} {p : Pipeline}
    (h : (create line m).1.validate (create line m).2 = (.ok (), p, m')) :
    p.line.state = .validated ∧ p.line.errors = [] := by
  have hnew := validate_new line m
  rcases hvalidate : CommandLine.validate m.job.shell.resolve? { line := line } with ⟨valid, c⟩
  simp only [hvalidate, h, Prod.mk.injEq] at hnew
  obtain ⟨hanswer, rfl, -⟩ := hnew
  cases valid with
  | false => simp at hanswer
  | true =>
    simp only [CommandLine.validate, CommandLine.parse, if_true, ne_eq, not_true_eq_false, if_false,
      Prod.mk.injEq] at hvalidate
    obtain ⟨hvalid, rfl⟩ := hvalidate
    exact ⟨if_pos hvalid, List.isEmpty_iff.mp hvalid⟩

/-! ## Executing -/

/-- The machine with more tasks, started before its own. -/
def behind (tasks : List (Nat × Task)) (m : Machine) : Machine :=
  { m with tasks := tasks ++ m.tasks }

/-- Tasks that are there do not matter to the start of the stages. -/
theorem startStages_behind (tasks : List (Nat × Task)) (pool : Nat) (stages : List Stage)
    (previous : Option Nat) (m : Machine) :
    startStages (some pool) stages previous (behind tasks m) =
      ((startStages (some pool) stages previous m).1,
        behind tasks (startStages (some pool) stages previous m).2) := by
  induction stages generalizing previous m with
  | nil => rfl
  | cons stage stages ih =>
    cases hspec : m.job.shell.command? stage.command with
    | none =>
      have hspec' : (behind tasks m).job.shell.command? stage.command = none := hspec
      simp only [startStages, hspec, hspec']
      rfl
    | some spec =>
      have hadd : addStage pool spec stage.args previous (behind tasks m) =
          behind tasks (addStage pool spec stage.args previous m) := by
        simp only [addStage, behind, List.append_assoc]
      rw [startStages_cons hspec, startStages_cons (m := behind tasks m) hspec, hadd]
      exact ih _ _

/-- A line that has been validated is only marked so. -/
theorem validate_valid {p : Pipeline} (hline : p.line.state = .validated) (herrors : p.line.errors = [])
    (m : Machine) : p.validate m = (.ok (), p, m.onJob (p.setState .validated)) := by
  simp [validate, CommandLine.validate, CommandLine.parse, hline, herrors]

/-- A pipeline whose line has been validated starts its stages, whatever mark it bears. -/
theorem execute_valid {p : Pipeline} (hline : p.line.state = .validated) (herrors : p.line.errors = [])
    (pool : Option Nat) (m : Machine) :
    p.execute pool m =
      match startStages pool p.line.stages none (p.announce m) with
      | (.error e, m) => (.error e, p, m)
      | (.ok none, m) =>
        (.error (.invalidArgument "empty pipeline"), p, m.onJob (p.setState .finished))
      | (.ok (some last), m) =>
        (.ok last, p, m.onJob (·.change last (·.addWriteCallback p.number))) := by
  by_cases hstate : p.state m.job = .validated
  · simp only [execute, hstate, if_true]
    rfl
  · -- it is validated once more, which only marks it
    have hannounce : p.announce (m.onJob (p.setState .validated)) = p.announce m := by
      simp [announce, Machine.onJob, setState, Job.log, Array.setIfInBounds_setIfInBounds]
    rw [← hannounce]
    simp only [execute, hstate, if_false, validate_valid hline herrors m]
    rfl

/-- What executing a pipeline lays out: one pipe for each stage, with one writer and one reader, and
the tasks of the stages between them. The last pipe is read from outside. -/
structure Laid (p : Pipeline) (m : Machine) (last : Nat) (m' : Machine) : Prop where
  /-- The last pipe is the answer. -/
  last : last + 1 = m.job.pipes.size + p.line.stages.length
  /-- The pipes that were there are left alone. -/
  old : ∀ k < m.job.pipes.size, m'.job.pipes[k]? = m.job.pipes[k]?
  /-- There is one pipe more for each stage. -/
  size : m'.job.pipes.size = m.job.pipes.size + p.line.stages.length
  /-- Each of them is open for one writer and one reader. -/
  pipe : ∀ i < p.line.stages.length, ∃ pipe, m'.job.pipes[m.job.pipes.size + i]? = some pipe ∧
    pipe.writers = 1 ∧ pipe.readers = 1 ∧ pipe.writeClosed = false ∧ pipe.readClosed = false
  /-- There is one task more for each stage; stage `i` writes to pipe `i` and reads pipe `i - 1`. -/
  tasks : ∃ new, m'.tasks = m.tasks ++ new ∧ new.length = p.line.stages.length ∧
    ∀ i id t, new[i]? = some (id, t) → id = m.nextTask + i ∧
      t.station.output = some (m.job.pipes.size + i) ∧
      t.station.input = feed none m.job.pipes.size i

section Started

variable {pool : Nat} {stages : List Stage} {previous : Option Nat} {m m' : Machine}

/-- The tasks that have been started are listed in their order. -/
theorem Started.listed (h : Started pool stages previous m m') (halone : m.tasks = [])
    {i id : Nat} {t : Task} (ht : m'.tasks[i]? = some (id, t)) :
    id = m.nextTask + i ∧ m'.task? id = some t := by
  obtain ⟨new, htasks, hnumbers⟩ := h.tasks
  rw [halone, List.nil_append] at htasks
  rw [htasks] at ht
  have hid : id = m.nextTask + i := by
    have hget : (new.map (·.1))[i]? = some id := by simp [ht]
    rw [hnumbers] at hget
    obtain ⟨hi, hrange⟩ := List.getElem?_eq_some_iff.mp hget
    simpa using hrange.symm
  have hnodup : (new.map (·.1)).Nodup := hnumbers ▸ List.nodup_range'
  refine ⟨hid, ?_⟩
  rw [Machine.task?, htasks, Keyed.find?_numbered hnodup (List.mem_of_getElem? ht)]
  rfl

theorem Started.count (h : Started pool stages previous m m') (halone : m.tasks = []) :
    m'.tasks.length = stages.length := by
  obtain ⟨new, htasks, hnumbers⟩ := h.tasks
  have hlength := congrArg List.length hnumbers
  rw [List.length_map, List.length_range'] at hlength
  rw [htasks, halone, List.nil_append, hlength]

/-- The tasks that have been started are the stages, each between its two pipes. -/
theorem Started.wired (h : Started pool stages previous m m') (halone : m.tasks = [])
    {i id : Nat} {t : Task} (ht : m'.tasks[i]? = some (id, t)) : id = m.nextTask + i ∧
      t.station.output = some (m.job.pipes.size + i) ∧
      t.station.input = feed previous m.job.pipes.size i := by
  obtain ⟨rfl, hfound⟩ := h.listed halone ht
  have hi : i < stages.length := h.count halone ▸ (List.getElem?_eq_some_iff.mp ht).1
  obtain ⟨spec, -, htask⟩ := h.task i _ (List.getElem?_eq_getElem hi)
  obtain rfl := Option.some.inj (hfound.symm.trans htask)
  exact ⟨rfl, rfl, rfl⟩

end Started

/-- A valid pipeline is laid out on a pool that takes tasks. -/
theorem execute_laid {p : Pipeline} (hline : p.line.state = .validated) (herrors : p.line.errors = [])
    (hstages : p.line.stages ≠ []) {m : Machine}
    (hcommands : ∀ stage ∈ p.line.stages, ∃ spec, m.job.shell.command? stage.command = some spec)
    (pool : Nat) : ∃ last m', p.execute (some pool) m = (.ok last, p, m') ∧ p.Laid m last m' := by
  set base := m.job.pipes.size with hbase
  have hlength : 0 < p.line.stages.length := List.length_pos_iff.mpr hstages
  obtain ⟨last, hlast⟩ : ∃ last, last + 1 = base + p.line.stages.length :=
    ⟨base + p.line.stages.length - 1, by omega⟩
  -- the stages are started as if nobody else were at work
  set alone : Machine := { p.announce m with tasks := [] }
  obtain ⟨m₁, hstart, hstarted⟩ :=
    startStages_started pool none (m := alone) hcommands fun e he => absurd he List.not_mem_nil
  have hbehind : behind m.tasks alone = p.announce m := by
    simp only [behind, alone, List.append_nil]
    rfl
  have hfeed : feed none base p.line.stages.length = some last := by
    obtain ⟨k, hk⟩ := Nat.exists_eq_succ_of_ne_zero hlength.ne'
    rw [hk]
    exact congrArg some (by omega)
  set laid := (behind m.tasks m₁).onJob (·.change last (·.addWriteCallback p.number)) with hlaid
  have hexecute : p.execute (some pool) m = (.ok last, p, laid) := by
    have halone : startStages (some pool) p.line.stages none alone = (.ok (some last), m₁) :=
      hstart.trans (congrArg (fun last => (Except.ok last, m₁)) hfeed)
    rw [execute_valid hline herrors, ← hbehind, startStages_behind, halone]
  have hmade : ∀ i < p.line.stages.length, ∃ name,
      m₁.job.pipes[base + i]? = some (linked name m.job.shell.config.capacity) := hstarted.pipe
  obtain ⟨name, hpipe⟩ := hmade (p.line.stages.length - 1) (by omega)
  rw [show base + (p.line.stages.length - 1) = last by omega] at hpipe
  have hpipes : laid.job.pipes = m₁.job.pipes.setIfInBounds last
      ((linked name m.job.shell.config.capacity).addWriteCallback p.number).1 := by
    show (m₁.job.change last (·.addWriteCallback p.number)).pipes = _
    rw [Job.change_eq hpipe, Job.pipes_store]
  refine ⟨last, laid, hexecute, ⟨hlast, ?_, ?_, ?_, ?_⟩⟩
  · intro k hk
    rw [hpipes, Array.getElem?_setIfInBounds_ne (by omega)]
    exact hstarted.old k hk
  · rw [hpipes, Array.size_setIfInBounds]
    exact hstarted.size
  · intro i hi
    by_cases hi' : base + i = last
    · -- the callback is all that sets the last pipe apart
      have hsize : last < m₁.job.pipes.size := (Array.getElem?_eq_some_iff.mp hpipe).1
      refine ⟨((linked name m.job.shell.config.capacity).addWriteCallback p.number).1, ?_,
        rfl, rfl, rfl, rfl⟩
      rw [hpipes, hi', Array.getElem?_setIfInBounds_self_of_lt hsize]
    · obtain ⟨name', hpipe'⟩ := hmade i hi
      refine ⟨linked name' m.job.shell.config.capacity, ?_, rfl, rfl, rfl, rfl⟩
      rw [hpipes, Array.getElem?_setIfInBounds_ne (Ne.symm hi')]
      exact hpipe'
  · exact ⟨m₁.tasks, rfl, hstarted.count rfl, fun i id t ht => hstarted.wired rfl ht⟩

/-- What has been validated resolves wherever the table of commands is the same. -/
theorem commands_validated {line : String} {m m' m₁ : Machine} {p : Pipeline}
    (hnamed : m.job.shell.registry.Named)
    (h : (create line m).1.validate (create line m).2 = (.ok (), p, m'))
    (hsame : m₁.job.shell.registry = m.job.shell.registry) :
    ∀ stage ∈ p.line.stages, ∃ spec, m₁.job.shell.command? stage.command = some spec := by
  obtain ⟨hcommands, hstages, -, -⟩ := validate_create h
  intro stage hstage
  rw [hstages] at hstage
  obtain ⟨typed, htyped, rfl⟩ := List.mem_map.mp hstage
  obtain ⟨spec, hspec⟩ := hcommands typed htyped
  have hname : m.job.shell.resolve? typed.command = some spec.name := by
    rw [Shell.resolve?, hspec, Option.map_some]
  -- the canonical name is in the table itself, so no alias is asked for it
  have hlookup := Shell.lookup?_canonical hnamed hspec
  refine ⟨spec, ?_⟩
  simp only [CommandLine.resolveStage, hname]
  rw [Shell.command?, hsame, hlookup, Option.some_or]

/-- A pool that takes no tasks fails the first stage. -/
theorem execute_shutdown {p : Pipeline} (hline : p.line.state = .validated)
    (herrors : p.line.errors = []) (hstages : p.line.stages ≠ []) {m : Machine}
    (hcommands : ∀ stage ∈ p.line.stages, ∃ spec, m.job.shell.command? stage.command = some spec) :
    (p.execute none m).1 = .error (.spawn "Executor is shutdown") := by
  obtain ⟨stage, stages, hcons⟩ := List.exists_cons_of_ne_nil hstages
  obtain ⟨spec, hspec⟩ := hcommands stage (hcons ▸ List.mem_cons_self)
  have hannounced : (p.announce m).job.shell.command? stage.command = some spec := hspec
  rw [execute_valid hline herrors, hcons]
  simp only [startStages, hannounced]

end Pipeline

/-- **What validation decides.** A canonical name stands for itself. A line is valid if all its
commands resolve; otherwise it has one error for each that does not, in the order of the stages, and
nothing has been started. Validating it again changes nothing. A line that was valid can be executed
wherever the table of commands is the same, whatever the aliases of the user are by then: a pool that
takes tasks lays out one pipe for each stage, and one that takes none is the only reason to fail. -/
theorem validation_decides {specs : List CommandSpec} {m : Machine}
    (hregistry : m.job.shell.registry = .ofSpecs specs) (line : String) :
    (∀ name canonical, m.job.shell.resolve? name = some canonical →
      m.job.shell.resolve? canonical = some canonical) ∧
    let (answer, p, m') :=
      (Pipeline.create line m).1.validate (Pipeline.create line m).2
    p.Validated line m answer m' ∧
    (answer = .ok () → ∀ m₁ : Machine, m₁.job.shell.registry = .ofSpecs specs →
      (∀ pool, ∃ last m₂, p.execute (some pool) m₁ = (.ok last, p, m₂) ∧ p.Laid m₁ last m₂) ∧
      (p.execute none m₁).1 = .error (.spawn "Executor is shutdown")) := by
  have hnamed : m.job.shell.registry.Named := hregistry ▸ Registry.named_ofSpecs specs
  refine ⟨fun _ _ => Shell.resolve?_canonical hnamed, ?_⟩
  rcases h : (Pipeline.create line m).1.validate (Pipeline.create line m).2 with ⟨answer, p, m'⟩
  have hvalidated := Pipeline.validated line hnamed h
  refine ⟨hvalidated, ?_⟩
  rintro rfl m₁ hregistry₁
  have hcommands := Pipeline.commands_validated hnamed h (hregistry₁.trans hregistry.symm)
  obtain ⟨hline, herrors⟩ := Pipeline.line_of_valid h
  have hstages : p.line.stages ≠ [] := by
    rw [← List.length_pos_iff, hvalidated.length, List.length_pos_iff]
    exact Pipeline.parseLine_ne_nil line
  exact ⟨fun pool => Pipeline.execute_laid hline herrors hstages hcommands pool,
    Pipeline.execute_shutdown hline herrors hstages hcommands⟩

/-- A table of two commands, one of them with an alias of its own and one of the user's. -/
theorem validation_decides_aliased :
    let specs : List CommandSpec := [{ name := "upper", aliases := ["up"] }, { name := "lower" }]
    let config : Config := { Config.standard with aliases := [("u", "upper")] }
    let m : Machine :=
      { job := { shell := { registry := .ofSpecs specs, config := config } }, programs := fun _ => none }
    let (answer, p, m') :=
      (Pipeline.create "u 1|up|lower" m).1.validate (Pipeline.create "u 1|up|lower" m).2
    m.job.shell.registry = .ofSpecs specs ∧ answer = .ok () ∧
      ∃ last m₂, p.execute (some 0) m' = (.ok last, p, m₂) ∧ p.Laid m' last m₂ := by
  intro specs config m
  rcases h : (Pipeline.create "u 1|up|lower" m).1.validate (Pipeline.create "u 1|up|lower" m).2
    with ⟨answer, p, m'⟩
  have hanswer : answer = .ok () := by
    have hvalid : ((Pipeline.create "u 1|up|lower" m).1.validate
      (Pipeline.create "u 1|up|lower" m).2).1 = .ok () := by decide +kernel
    rwa [h] at hvalid
  have hdecides := (validation_decides (m := m) rfl "u 1|up|lower").2
  rw [h] at hdecides
  have hregistry : m'.job.shell.registry = .ofSpecs specs := by
    rw [hdecides.1.untouched]
    rfl
  exact ⟨rfl, hanswer, (hdecides.2 hanswer m' hregistry).1 0⟩

end Pipework
