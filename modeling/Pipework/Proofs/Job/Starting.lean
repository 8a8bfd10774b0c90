import Pipework.Proofs.Command.Registry
import Pipework.Proofs.Job.Frame
import Pipework.Proofs.Job.Turns
import Pipework.Proofs.Text.Pieces
import Pipework.Job.Pipeline

/-!
# What starting a pipeline makes of a machine

Starting the stages of a line adds one pipe and one task for each (`Pipeline.Started`): stage `i`
writes to pipe `i` and reads pipe `i - 1`, and each pipe has one writer and one reader. Nothing else
changes but the log. A line all of whose commands resolve always starts
(`Pipeline.startStages_started`), and a line that has been validated is such a line
(`Pipeline.execute_validated`).
-/

namespace Pipework

theorem set_push_last {α : Type} (a : Array α) (x y : α) :
    (a.push x).setIfInBounds a.size y = a.push y := by
  refine Array.ext (by simp) fun i hi hi' => ?_
  rw [Array.getElem_setIfInBounds (by simpa using hi'), Array.getElem_push, Array.getElem_push]
  have hi : i < a.size + 1 := by simpa using hi'
  split <;> split <;> first | rfl | omega

namespace Pipeline

/-- A pipe between two stages. -/
def linked (name : String) (capacity : Nat) : Pipe Value :=
  { (Pipe.create name capacity).1 with readers := 1, writers := 1 }

/-- The pipe that stage `i` reads: the first stage what there was before, any other the pipe of the
stage before. -/
def feed (previous : Option Nat) (base : Nat) : Nat → Option Nat
  | 0 => previous
  | i + 1 => some (base + i)

/-- The task of a stage that has just been started. -/
def stageTask (programs : Programs) (pool : Nat) (spec : CommandSpec) (args : Option String)
    (input : Option Nat) (output : Nat) : Task :=
  { pool := pool, name := spec.name, station := { input := input, output := some output },
    behavior := stageBehavior programs spec input.isSome args }

/-! ## One stage -/

/-- An operation on the last pipe that is only noted. -/
theorem change_last (job : Job) (pipes : Array (Pipe Value)) (p : Pipe Value) (records : List Record)
    {f : Pipe Value → Pipe Value × List Pipe.Event} {note : String} (hf : (f p).2 = [.note note]) :
    ∃ records', ({ job with pipes := pipes.push p, records := records } : Job).change pipes.size f =
      { job with pipes := pipes.push (f p).1, records := records' } := by
  rw [Job.change_eq (p := p) (by simp), hf]
  simp only [Job.store, set_push_last]
  exact ⟨_, rfl⟩

/-- The pipe of a new stage. -/
theorem createPipe_linked (label : String) (job : Job) :
    ∃ name records, ((job.createPipe label).2.openWrite job.pipes.size).openRead job.pipes.size =
      { job with
        pipes := job.pipes.push (linked name job.shell.config.capacity), records := records } := by
  set name := s!"pipe<{label}.{job.pipes.size + 1}>"
  set p : Pipe Value := (Pipe.create name job.shell.config.capacity).1
  obtain ⟨records, hwrite⟩ :=
    change_last job job.pipes p (job.createPipe label).2.records (f := Pipe.openWrite) rfl
  obtain ⟨records', hread⟩ :=
    change_last job job.pipes p.openWrite.1 records (f := Pipe.openRead) rfl
  refine ⟨name, records', ?_⟩
  calc ((job.createPipe label).2.openWrite job.pipes.size).openRead job.pipes.size
      = Job.openRead job.pipes.size
          { job with pipes := job.pipes.push p.openWrite.1, records := records } :=
        congrArg (Job.openRead job.pipes.size) hwrite
    _ = _ := hread

/-- The machine when one stage more has been started. -/
def addStage (pool : Nat) (spec : CommandSpec) (args : Option String) (previous : Option Nat)
    (m : Machine) : Machine :=
  { m with
    job := ((m.job.createPipe spec.name).2.openWrite m.job.pipes.size).openRead m.job.pipes.size
    tasks := m.tasks ++
      [(m.nextTask, stageTask m.programs pool spec args previous m.job.pipes.size)]
    incoming := m.incoming ++ [m.nextTask]
    nextTask := m.nextTask + 1 }

theorem startStages_cons {m : Machine} {stage : Stage} {spec : CommandSpec}
    (h : m.job.shell.command? stage.command = some spec) (pool : Nat) (stages : List Stage)
    (previous : Option Nat) :
    startStages (some pool) (stage :: stages) previous m =
      startStages (some pool) stages (some m.job.pipes.size)
        (addStage pool spec stage.args previous m) := by
  simp only [startStages, h]
  rfl

/-! ## All stages -/

/-- What starting stages has made of a machine. -/
structure Started (pool : Nat) (stages : List Stage) (previous : Option Nat) (m m' : Machine) :
    Prop where
  /-- The pipes that were there are left alone. -/
  old : ∀ k < m.job.pipes.size, m'.job.pipes[k]? = m.job.pipes[k]?
  /-- Each stage has a pipe. -/
  pipe : ∀ i < stages.length, ∃ name,
    m'.job.pipes[m.job.pipes.size + i]? = some (linked name m.job.shell.config.capacity)
  /-- No other pipe has come. -/
  size : m'.job.pipes.size = m.job.pipes.size + stages.length
  /-- Each stage has a task. -/
  task : ∀ i stage, stages[i]? = some stage → ∃ spec,
    m.job.shell.command? stage.command = some spec ∧
    m'.task? (m.nextTask + i) = some (stageTask m.programs pool spec stage.args
      (feed previous m.job.pipes.size i) (m.job.pipes.size + i))
  /-- The tasks that were there are left alone. -/
  others : ∀ id < m.nextTask, m'.task? id = m.task? id
  /-- No other task has come. -/
  tasks : ∃ new, m'.tasks = m.tasks ++ new ∧
    new.map (·.1) = List.range' m.nextTask stages.length
  /-- The tasks are about to be put on the ready list. -/
  incoming : m'.incoming = m.incoming ++ List.range' m.nextTask stages.length
  /-- Nothing else has happened. -/
  job : ∃ records, m'.job = { m.job with pipes := m'.job.pipes, records := records }
  nextTask : m'.nextTask = m.nextTask + stages.length
  halt : m'.halt = m.halt

theorem started_nil (pool : Nat) (previous : Option Nat) (m : Machine) :
    Started pool [] previous m m where
  old _ _ := rfl
  pipe i hi := absurd hi (by simp)
  size := rfl
  task i stage h := by simp at h
  others _ _ := rfl
  tasks := ⟨[], by simp, rfl⟩
  incoming := by simp
  job := ⟨m.job.records, rfl⟩
  nextTask := rfl
  halt := rfl

/-- A new task is found under its number, and hides no other. -/
theorem task?_append {m : Machine} {t : Task} (hids : ∀ e ∈ m.tasks, e.1 < m.nextTask) (id : Nat) :
    ({ m with tasks := m.tasks ++ [(m.nextTask, t)] } : Machine).task? id =
      if id = m.nextTask then some t else m.task? id := by
  simp only [Machine.task?, List.find?_append]
  split
  · rename_i hid
    subst hid
    have hnone : m.tasks.find? (·.1 == m.nextTask) = none :=
      List.find?_eq_none.mpr fun e he => by simpa using (hids e he).ne
    simp [hnone]
  · rename_i hid
    have hnone : [(m.nextTask, t)].find? (·.1 == id) = none := by simp [Ne.symm hid]
    rw [hnone, Option.or_none]

theorem started_cons {pool : Nat} {stage : Stage} {stages : List Stage} {spec : CommandSpec}
    {previous : Option Nat} {m m' : Machine}
    (hspec : m.job.shell.command? stage.command = some spec)
    (hids : ∀ e ∈ m.tasks, e.1 < m.nextTask)
    (h : Started pool stages (some m.job.pipes.size) (addStage pool spec stage.args previous m) m') :
    Started pool (stage :: stages) previous m m' := by
  obtain ⟨name, records, hjob⟩ := createPipe_linked spec.name m.job
  have hadd : (addStage pool spec stage.args previous m).job = { m.job with
      pipes := m.job.pipes.push (linked name m.job.shell.config.capacity), records := records } := hjob
  have hsize : (addStage pool spec stage.args previous m).job.pipes.size = m.job.pipes.size + 1 := by
    rw [hadd, Array.size_push]
  have hshell : (addStage pool spec stage.args previous m).job.shell = m.job.shell := by rw [hadd]
  have hfound : ∀ id, (addStage pool spec stage.args previous m).task? id =
      if id = m.nextTask then some (stageTask m.programs pool spec stage.args previous m.job.pipes.size)
      else m.task? id := task?_append hids
  have hnext : (addStage pool spec stage.args previous m).nextTask = m.nextTask + 1 := rfl
  constructor
  · intro k hk
    rw [h.old k (by omega), hadd]
    simp [Array.getElem?_push, hk.ne]
  · intro i hi
    cases i with
    | zero =>
      refine ⟨name, ?_⟩
      rw [Nat.add_zero, h.old _ (by omega), hadd]
      simp
    | succ i =>
      obtain ⟨name', hpipe⟩ := h.pipe i (by simpa using hi)
      rw [hsize, hshell] at hpipe
      exact ⟨name', by rw [← hpipe]; congr 1; omega⟩
  · rw [h.size, hsize, List.length_cons]
    omega
  · intro i stage' hstage
    cases i with
    | zero =>
      obtain rfl : stage = stage' := by simpa using hstage
      refine ⟨spec, hspec, ?_⟩
      rw [Nat.add_zero, h.others _ (by omega), hfound, if_pos rfl]
      rfl
    | succ i =>
      obtain ⟨spec', hspec', htask⟩ := h.task i stage' (by simpa using hstage)
      rw [hshell] at hspec'
      refine ⟨spec', hspec', ?_⟩
      rw [hsize, hnext] at htask
      rw [show m.nextTask + (i + 1) = m.nextTask + 1 + i by omega, htask,
        show m.job.pipes.size + (i + 1) = m.job.pipes.size + 1 + i by omega]
      cases i with
      | zero => rfl
      | succ i => simp only [feed]; congr 2; congr 1; omega
  · intro id hid
    rw [h.others id (by omega), hfound, if_neg (by omega)]
  · obtain ⟨new, htasks, hnew⟩ := h.tasks
    refine ⟨(m.nextTask, stageTask m.programs pool spec stage.args previous m.job.pipes.size) :: new,
      ?_, ?_⟩
    · rw [htasks]
      exact List.append_assoc ..
    · rw [List.map_cons, hnew, hnext]
      rfl
  · rw [h.incoming]
    exact List.append_assoc ..
  · obtain ⟨records', hrest⟩ := h.job
    exact ⟨records', by rw [hrest, hadd]⟩
  · rw [h.nextTask, hnext, List.length_cons]
    omega
  · exact h.halt

/-- A line all of whose commands resolve starts. -/
theorem startStages_started (pool : Nat) {stages : List Stage} (previous : Option Nat) {m : Machine}
    (hcommands : ∀ stage ∈ stages, ∃ spec, m.job.shell.command? stage.command = some spec)
    (hids : ∀ e ∈ m.tasks, e.1 < m.nextTask) :
    ∃ m', startStages (some pool) stages previous m =
      (.ok (feed previous m.job.pipes.size stages.length), m') ∧
      Started pool stages previous m m' := by
  induction stages generalizing previous m with
  | nil => exact ⟨m, rfl, started_nil pool previous m⟩
  | cons stage stages ih =>
    obtain ⟨spec, hspec⟩ := hcommands stage List.mem_cons_self
    obtain ⟨name, records, hjob⟩ := createPipe_linked spec.name m.job
    have hadd : (addStage pool spec stage.args previous m).job = { m.job with
        pipes := m.job.pipes.push (linked name m.job.shell.config.capacity), records := records } :=
      hjob
    obtain ⟨m', hstart, hstarted⟩ :=
      ih (m := addStage pool spec stage.args previous m) (some m.job.pipes.size)
        (fun other hother => by
          rw [hadd]
          exact hcommands other (List.mem_cons_of_mem _ hother))
        (fun e he => by
          rcases List.mem_append.mp he with he | he
          · exact Nat.lt_succ_of_lt (hids e he)
          · obtain rfl := List.mem_singleton.mp he
            exact Nat.lt_succ_self _)
    refine ⟨m', ?_, started_cons hspec hids hstarted⟩
    rw [startStages_cons hspec, hstart, hadd, Array.size_push]
    cases stages with
    | nil => rfl
    | cons _ _ => simp only [List.length_cons, feed, Prod.mk.injEq, and_true]; congr 2; omega

/-! ## Validated lines -/

/-- The line has been validated and may be executed. -/
structure Ready (p : Pipeline) (m : Machine) : Prop where
  number : p.number < m.job.progress.size
  state : p.state m.job = .validated
  stages : p.line.stages ≠ []
  commands : ∀ stage ∈ p.line.stages, ∃ spec, m.job.shell.command? stage.command = some spec

theorem parseLine_ne_nil (line : String) : Stage.parseLine line ≠ [] := by
  simpa [Stage.parseLine] using Text.pieces_ne_nil _ _

/-- What validation makes of a new pipeline: every command resolves, and has its canonical name. -/
theorem validate_create {line : String} {m m' : Machine} {p' : Pipeline}
    (h : (create line m).1.validate (create line m).2 = (.ok (), p', m')) :
    (∀ stage ∈ Stage.parseLine line, ∃ spec, m.job.shell.command? stage.command = some spec) ∧
    p'.line.stages =
      (Stage.parseLine line).map (CommandLine.resolveStage m.job.shell.resolve?) ∧
    p'.number = m.job.progress.size ∧
    m' = m.onJob fun job => { job with progress := job.progress.push .validated } := by
  simp only [create, validate, CommandLine.validate, CommandLine.parse, if_true, ne_eq,
    not_true_eq_false, if_false, Machine.onJob] at h
  split at h <;> rename_i hvalid
  · simp only [Prod.mk.injEq, true_and] at h
    obtain ⟨rfl, rfl⟩ := h
    have hnone := List.isEmpty_iff.mp hvalid
    refine ⟨fun stage hstage => ?_, rfl, rfl, ?_⟩
    · have herror := List.filterMap_eq_nil_iff.mp hnone stage hstage
      simp only [CommandLine.stageError?] at herror
      split at herror
      · rename_i name hname
        obtain ⟨spec, hspec, -⟩ := Option.map_eq_some_iff.mp hname
        exact ⟨spec, hspec⟩
      · simp at herror
    · simp only [Machine.onJob, setState, set_push_last]
  · simp at h

/-- A new pipeline validates if all its commands resolve. -/
theorem validate_ok {line : String} {m : Machine}
    (h : ∀ stage ∈ Stage.parseLine line, ∃ spec, m.job.shell.command? stage.command = some spec) :
    ∃ p' m', (create line m).1.validate (create line m).2 = (.ok (), p', m') := by
  have hnone : (Stage.parseLine line).filterMap (CommandLine.stageError? m.job.shell.resolve?) = [] := by
    refine List.filterMap_eq_nil_iff.mpr fun stage hstage => ?_
    obtain ⟨spec, hspec⟩ := h stage hstage
    rw [CommandLine.stageError?, Shell.resolve?, hspec, Option.map_some]
  simp only [create, validate, CommandLine.validate, CommandLine.parse, if_true, ne_eq,
    not_true_eq_false, if_false, Machine.onJob, hnone, List.isEmpty_nil]
  exact ⟨_, _, rfl⟩

/-- A line whose commands have their canonical names keeps its stages as they are. -/
theorem validate_canonical {line : String} {m : Machine}
    (h : ∀ stage ∈ Stage.parseLine line, ∃ spec,
      m.job.shell.command? stage.command = some spec ∧ spec.name = stage.command) :
    ∃ p' m', (create line m).1.validate (create line m).2 = (.ok (), p', m') ∧
      p'.line.stages = Stage.parseLine line := by
  obtain ⟨p', m', hvalid⟩ := validate_ok fun stage hstage => (h stage hstage).imp fun _ => And.left
  obtain ⟨-, hstages, -, -⟩ := validate_create hvalid
  refine ⟨p', m', hvalid, ?_⟩
  have hkept : ∀ stage ∈ Stage.parseLine line,
      CommandLine.resolveStage m.job.shell.resolve? stage = stage := by
    intro stage hstage
    obtain ⟨spec, hspec, hname⟩ := h stage hstage
    rw [CommandLine.resolveStage, Shell.resolve?, hspec, Option.map_some, hname]
  rw [hstages, List.map_congr_left hkept, List.map_id']

/-- A new pipeline that validates may be executed. -/
theorem ready_create {line : String} {m m' : Machine} {p' : Pipeline}
    (hregistry : m.job.shell.registry.Named)
    (h : (create line m).1.validate (create line m).2 = (.ok (), p', m')) : p'.Ready m' := by
  obtain ⟨hcommands, hstages, hnumber, rfl⟩ := validate_create h
  refine ⟨?_, ?_, ?_, fun stage hstage => ?_⟩
  · simp [hnumber, Machine.onJob]
  · simp [state, hnumber, Machine.onJob]
  · rw [hstages]
    simpa using parseLine_ne_nil line
  · rw [hstages] at hstage
    obtain ⟨typed, htyped, rfl⟩ := List.mem_map.mp hstage
    obtain ⟨spec, hspec⟩ := hcommands typed htyped
    refine ⟨spec, ?_⟩
    have hname : m.job.shell.resolve? typed.command = some spec.name := by
      rw [Shell.resolve?, hspec, Option.map_some]
    change m.job.shell.command? (CommandLine.resolveStage _ typed).command = some spec
    simp only [CommandLine.resolveStage, hname]
    exact Shell.command?_canonical hregistry hspec

/-- The machine on which the stages of a pipeline are started. -/
def announce (p : Pipeline) (m : Machine) : Machine :=
  m.onJob fun job => p.setState .running <|
    job.log .debug "exec" s!"executing {p.line.stages.length} stage(s): {p.line.line}"

/-- A validated pipeline is read on a machine on which its stages have been started. -/
theorem readPipeline_validated {p : Pipeline} {m : Machine} (hstate : p.state m.job = .validated)
    (fuel pool : Nat) :
    m.readPipeline fuel pool p =
      match startStages (some pool) p.line.stages none (p.announce m) with
      | (.error e, m) => (.error e, m)
      | (.ok none, m) =>
        (.error (.invalidArgument "empty pipeline"), m.onJob (p.setState .finished))
      | (.ok (some last), m) =>
        let (items, m) :=
          (m.onJob (·.change last (·.addWriteCallback p.number))).runUntil fuel pool { pipe := last }
        (.ok items, m.onJob fun job => (job.closeRead last).2) := by
  unfold Machine.readPipeline execute announce
  simp only [hstate, if_true]
  rcases startStages (some pool) p.line.stages none _ with ⟨_ | _ | last, m'⟩ <;> rfl

/-- The pipe of stage `i` of a pipeline; the close of the last one is observed. -/
def stagePipe (p : Pipeline) (i : Nat) (name : String) (capacity : Nat) : Pipe Value :=
  { linked name capacity with
    onWriteClose := if i + 1 = p.line.stages.length then [p.number] else [] }

/-- What executing a pipeline has made of a machine. -/
structure Executed (pool : Nat) (p : Pipeline) (m m' : Machine) : Prop where
  /-- The pipes that were there are left alone. -/
  oldPipes : ∀ k < m.job.pipes.size, m'.job.pipes[k]? = m.job.pipes[k]?
  /-- No other pipe has come. -/
  size : m'.job.pipes.size = m.job.pipes.size + p.line.stages.length
  /-- Each stage has a pipe. -/
  pipe : ∀ i < p.line.stages.length, ∃ name, m'.job.pipes[m.job.pipes.size + i]? =
    some (p.stagePipe i name m.job.shell.config.capacity)
  /-- Each stage has a task. -/
  task : ∀ i stage, p.line.stages[i]? = some stage → ∃ spec,
    m.job.shell.command? stage.command = some spec ∧
    m'.task? (m.nextTask + i) = some (stageTask m.programs pool spec stage.args
      (feed none m.job.pipes.size i) (m.job.pipes.size + i))
  /-- The tasks that were there are left alone. -/
  others : ∀ id < m.nextTask, m'.task? id = m.task? id
  /-- No other task has come. -/
  tasks : ∃ new, m'.tasks = m.tasks ++ new ∧
    new.map (·.1) = List.range' m.nextTask p.line.stages.length
  /-- The tasks are about to be put on the ready list. -/
  incoming : m'.incoming = m.incoming ++ List.range' m.nextTask p.line.stages.length
  /-- Nothing else has happened. -/
  job : ∃ records, m'.job = { m.job with
    pipes := m'.job.pipes
    progress := m.job.progress.setIfInBounds p.number .running
    records := records }
  halt : m'.halt = m.halt

/-- A pipeline that is ready is executed; the answer is the pipe of its last stage. -/
theorem execute_ready {p : Pipeline} {m : Machine} (pool : Nat) (h : p.Ready m)
    (hids : ∀ e ∈ m.tasks, e.1 < m.nextTask) :
    ∃ m', p.execute (some pool) m =
      (.ok (m.job.pipes.size + (p.line.stages.length - 1)), p, m') ∧ Executed pool p m m' := by
  obtain ⟨m₁, hstart, hstarted⟩ :=
    startStages_started pool none (m := p.announce m) h.commands hids
  have hlength : 0 < p.line.stages.length := List.length_pos_iff.mpr h.stages
  set last := m.job.pipes.size + (p.line.stages.length - 1) with hlastdef
  have hlast : feed none m.job.pipes.size p.line.stages.length = some last := by
    obtain ⟨k, hk⟩ := Nat.exists_eq_succ_of_ne_zero hlength.ne'
    rw [hlastdef, hk]
    rfl
  replace hstart : startStages (some pool) p.line.stages none (p.announce m) =
      (.ok (some last), m₁) := hstart.trans (congrArg (fun last => (Except.ok last, m₁)) hlast)
  refine ⟨m₁.onJob (·.change last (·.addWriteCallback p.number)), ?_, ?_⟩
  · unfold announce at hstart
    simp only [execute, h.state, if_true, hstart]
  obtain ⟨name, hpipe⟩ := hstarted.pipe (p.line.stages.length - 1) (by omega)
  replace hpipe : m₁.job.pipes[last]? = some (linked name m.job.shell.config.capacity) := hpipe
  have hjob : m₁.job.change last (·.addWriteCallback p.number) = { m₁.job with
      pipes := m₁.job.pipes.setIfInBounds last
        (p.stagePipe (p.line.stages.length - 1) name m.job.shell.config.capacity) } := by
    rw [Job.change_eq hpipe, stagePipe, if_pos (by omega)]
    rfl
  have hsize : last < m₁.job.pipes.size := (Array.getElem?_eq_some_iff.mp hpipe).1
  simp only [Machine.onJob, hjob]
  constructor
  · intro k hk
    rw [Array.getElem?_setIfInBounds_ne (by omega)]
    exact hstarted.old k hk
  · rw [Array.size_setIfInBounds]
    exact hstarted.size
  · intro i hi
    by_cases hi' : i = p.line.stages.length - 1
    · subst hi'
      exact ⟨name, by simp [← hlastdef, hsize]⟩
    · obtain ⟨name', hpipe'⟩ := hstarted.pipe i hi
      refine ⟨name', ?_⟩
      rw [Array.getElem?_setIfInBounds_ne (by omega), stagePipe, if_neg (by omega)]
      exact hpipe'
  · exact hstarted.task
  · exact hstarted.others
  · exact hstarted.tasks
  · exact hstarted.incoming
  · obtain ⟨records, hrest⟩ := hstarted.job
    exact ⟨records, by rw [hrest]; rfl⟩
  · exact hstarted.halt

end Pipeline

end Pipework
