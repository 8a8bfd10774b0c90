import Pipework.Proofs.Job.Lasting
import Pipework.Proofs.Job.Launching
import Pipework.Proofs.Job.Solo

/-!
# Running a line of a single stage

What the only stage of a line does in a room of its own is what the line does on a machine where nobody
has been interrupted, in all sufficient fuel: the output is what the stage writes, what is reported is
its failure, and the shell is left as the stage leaves it (`Machine.runLine_solo`). If the stage ends
the program before it has written anything, the machine stops (`Machine.runLine_crashed`).
-/

namespace Pipework

/-! ## A pool of nobody -/

/-- Where nobody is at work the shell stays as it is. -/
theorem Machine.lasts_nobody (pool : Nat) (s : Shell) :
    Machine.Lasts pool fun m => m.poolTasks pool = [] ∧ m.job.shell = s where
  poll := by
    rintro m id t budget ⟨hnobody, -⟩ - ht hpool
    have hmem := m.mem_poolTasks id ht
    rw [hpool, hnobody] at hmem
    exact absurd hmem List.not_mem_nil
  of_eq h htasks hshell _ := ⟨by rw [Machine.poolTasks, htasks]; exact h.1, hshell.trans h.2⟩

/-- Where nobody is at work a pool comes to rest, and reports nothing. -/
theorem Machine.settle_nobody {m : Machine} {pool : Nat} (hnobody : m.poolTasks pool = [])
    (hhalt : m.halt = none) :
    ∃ enough m', (∀ fuel ≥ enough, m.settle fuel pool = m') ∧ m'.halt = none ∧
      m'.poolTasks pool = [] ∧ m'.job.shell = m.job.shell ∧ m'.job.errors = m.job.errors := by
  obtain ⟨enough, m₁, m', hsettle, hhalt', hnobody', ⟨-, -, -, htells₁⟩, -, htells⟩ :=
    (Machine.wanes_nobody pool m.job []).settle (k := 0) (m := m)
      ⟨hnobody, (Job.Tells.of_eq rfl rfl).signals, rfl⟩ hhalt fun h _ => h.1
  have hlast := (Machine.lasts_nobody pool m.job.shell).settle ⟨hnobody, rfl⟩ enough
    (by rw [hsettle _ le_rfl]; exact hhalt')
  rw [hsettle _ le_rfl] at hlast
  exact ⟨enough, m', hsettle, hhalt', hnobody', hlast.2, htells.errors.trans htells₁.errors⟩

/-- A read of a pipe that is still empty has to wait. -/
theorem Machine.pollMain_waits {job : Job} {pipe room : Nat} {name : String} {p : Pipe Value}
    (hp : job.pipes[pipe]? = some p) (hchannel : p.Channel name room (some .fresh) true)
    (hstock : p.stock = []) :
    ∃ reading job', job'.core = job.core ∧ ∀ fuel, Machine.pollMain (fuel + 1) { pipe := pipe } job =
      (false, { pipe := pipe, reading := reading }, job') := by
  have hread := @Station.tryRead_eq { input := some pipe } job .main pipe p rfl hp
  rcases hchannel.pollRead .main with
    ⟨ticket, p', hpoll, -⟩ | ⟨v, p', events, -, -, hhead, -⟩ | ⟨p', events, -, -, -, -, hgone, -⟩
  · rw [show ({ input := some pipe } : Station).reading = .fresh from rfl, hpoll] at hread
    refine ⟨.parked ticket, job.store pipe p' [], Job.core_store .., fun fuel => ?_⟩
    simp only [Machine.pollMain, hread]
    rfl
  · rw [hstock] at hhead
    simp at hhead
  · simp at hgone

/-! ## A stage that has just been started -/

/-- A line of a single stage that has just been executed, of which nobody else is in the pool. -/
structure Pipeline.Lone (p : Pipeline) (pool : Nat) (stage : Stage) (spec : CommandSpec) (m : Machine) :
    Prop where
  ready : p.Ready m
  stages : p.line.stages = [stage]
  spec : m.job.shell.command? stage.command = some spec
  free : m.Free pool
  alone : m.poolTasks pool = []
  programs : m.programs = Command.program?
  level : m.job.level = 0
  halt : m.halt = none

namespace Pipeline.Lone

variable {p : Pipeline} {pool last : Nat} {stage : Stage} {spec : CommandSpec} {m m₁ : Machine}

theorem count_eq (h : p.Lone pool stage spec m) : (p.span pool m).count = 1 :=
  congrArg List.length h.stages

theorem watches_eq (h : p.Lone pool stage spec m) : (p.span pool m).watches = [] := by
  simp [Pipeline.span, h.alone]

/-- The task that has been started. -/
theorem task (h : p.Lone pool stage spec m) (hexecuted : p.Executed pool m m₁) :
    m₁.task? m.nextTask = some (stageTask Command.program? pool spec stage.args none m.job.pipes.size) := by
  obtain ⟨other, hother, htask⟩ := hexecuted.task 0 stage (by rw [h.stages]; rfl)
  obtain rfl := Option.some.inj (hother.symm.trans h.spec)
  rw [← h.programs]
  exact htask

/-- Its pipe is new. -/
theorem pipe (h : p.Lone pool stage spec m) (hexecuted : p.Executed pool m m₁) :
    ∃ name q, m₁.job.pipes[m.job.pipes.size]? = some q ∧ q.stock = [] ∧
      q.Channel name (max m.job.shell.config.capacity 1) (some .fresh) true := by
  obtain ⟨name, hpipe⟩ := hexecuted.pipe 0 (by rw [h.stages]; exact Nat.one_pos)
  exact ⟨name, _, hpipe, p.stock_stagePipe 0 _ _, p.channel_stagePipe 0 _ _⟩

/-- What the job is like when the stage has been started. -/
theorem job (h : p.Lone pool stage spec m) (hexecuted : p.Executed pool m m₁) :
    m₁.job.shell = m.job.shell ∧ m₁.job.level = 0 ∧ m₁.job.errors = m.job.errors := by
  obtain ⟨records, hjob⟩ := hexecuted.job
  rw [hjob]
  exact ⟨rfl, h.level, rfl⟩

/-- The stage plays, and the line comes to its end. -/
theorem run (h : p.Lone pool stage spec m) {out : List Value} {result : Except ShellError Unit}
    {left : Room}
    (hplays : (stageBehavior Command.program? spec false stage.args).Plays ⟨{}, m.job.shell⟩ out
      (.ofExcept result, left)) :
    ∃ enough m₂ m₃, (∀ fuel ≥ enough, m.readPipeline fuel pool p = (.ok out, m₂) ∧
        m₂.settle fuel pool = m₃) ∧
      m₃.halt = none ∧ m₃.poolTasks pool = [] ∧ m₃.job.shell = left.shell ∧
      m₃.job.errors = m.job.errors ++ Machine.reported result := by
  obtain ⟨n, hplays⟩ := hplays
  obtain ⟨m₁, hexecute, hexecuted⟩ := p.execute_ready pool h.ready h.free.numbered
  obtain ⟨name, q, hq, hstock, hchannel⟩ := h.pipe hexecuted
  obtain ⟨hshell, hlevel, herrors⟩ := h.job hexecuted
  have htask := h.task hexecuted
  set S : Solo := ⟨p.span pool m, name, max m.job.shell.config.capacity 1, out, result, left, m.job.errors⟩
  have hsounds : S.Sounds .fresh [] out n m₁.job (m₁.task? S.first) := by
    rw [show m₁.task? S.first = _ from htask]
    refine ⟨hlevel, ⟨q, hq, hchannel, by rw [hstock]; rfl⟩, fun t ht => ?_, by simp, by simp⟩
    obtain rfl := Option.some.inj ht
    refine ⟨rfl, rfl, rfl, rfl, herrors, ?_⟩
    rw [hshell]
    exact hplays
  -- the main future runs until the stage is over, and then nobody is left to wait for
  have hperforms : S.Performs .fresh [] (S.effort [] n m₁) m₁ :=
    ⟨hexecuted.works h.ready h.free h.programs, out, n, hsounds, le_rfl⟩
  set last := m.job.pipes.size + (p.line.stages.length - 1) with hlastdef
  have hlast : last = S.base := by rw [hlastdef, h.stages]; rfl
  obtain ⟨enough, m₂, hrun, hhalt₂, hgone, k₂, hread⟩ :=
    hperforms.runUntil (c := { pipe := last }) h.count_eq h.watches_eq ⟨hlast, rfl, rfl⟩
      (hexecuted.halt.trans h.halt)
  obtain ⟨rest, n₂, hsounds₂, -⟩ := hread.sounds
  obtain ⟨-, hshell₂, herrors₂⟩ := hsounds₂.gone hgone
  have hnobody : m₂.poolTasks pool = [] := hread.nobody h.count_eq h.watches_eq hgone
  obtain ⟨enough', m₃, hsettle, hhalt₃, hnobody₃, hshell₃, herrors₃⟩ :=
    Machine.settle_nobody (m := { m₂ with job := (m₂.job.closeRead last).2 }) hnobody hhalt₂
  refine ⟨max enough enough', _, m₃, fun fuel hfuel => ⟨?_, hsettle fuel (by omega)⟩, hhalt₃, hnobody₃,
    ?_, ?_⟩
  · unfold Machine.readPipeline
    rw [hexecute]
    simp only [show m₁.runUntil fuel pool { pipe := last } = _ from hrun fuel (by omega)]
    rfl
  · have hcore : (m₂.job.closeRead last).2.core = m₂.job.core := m₂.job.core_query last false (·.closeRead)
    exact hshell₃.trans ((congrArg (·.1) hcore).trans hshell₂)
  · exact herrors₃.trans ((Job.Tells.closeRead last).errors.trans herrors₂)

/-- In the first turn the stage is polled before anybody else. -/
theorem next (h : p.Lone pool stage spec m) (hworks : Works (p.span pool m) m₁)
    (htask : m₁.task? m.nextTask =
      some (stageTask Command.program? pool spec stage.args none m.job.pipes.size)) :
    (m₁.enqueue pool).nextReady? pool =
      some (m.nextTask, stageTask Command.program? pool spec stage.args none m.job.pipes.size) := by
  have hworking : Working (p.span pool m) (m₁.enqueue pool) := hworks.enqueue
  have hzero : 0 < (p.span pool m).count := by rw [h.count_eq]; exact Nat.one_pos
  obtain hnone | ⟨⟨id, t⟩, hnext⟩ := Option.eq_none_or_eq_some ((m₁.enqueue pool).nextReady? pool)
  · -- it is not parked anywhere, so it is ready
    rcases hworking.wired.awake 0 hzero _ htask with hbusy | hready | hnew | hawaits
    · exact absurd hbusy (by simp)
    · exact absurd hready (Machine.nextReady?_none hnone htask rfl)
    · exact absurd hnew List.not_mem_nil
    · exact (hawaits : False).elim
  · obtain ⟨-, ht, hpool⟩ := Machine.nextReady?_some hnext
    obtain rfl : id = m.nextTask := hworking.wired.eq_first h.count_eq h.watches_eq ht hpool
    rw [hnext, Option.some.inj (ht.symm.trans htask)]

/-- It ends the program there. -/
theorem turn_crashed (h : p.Lone pool stage spec m) (hworks : Works (p.span pool m) m₁)
    (htask : m₁.task? m.nextTask =
      some (stageTask Command.program? pool spec stage.args none m.job.pipes.size))
    (hlevel : m₁.job.level = 0) {left : Room} {n : Nat}
    (hplays : (stageBehavior Command.program? spec false stage.args).PlaysIn n ⟨{}, m₁.job.shell⟩ []
      (.crashed, left)) {fuel : Nat} (hfuel : n + 1 ≤ fuel) :
    (m₁.turn fuel pool).halt = some .crashed := by
  have hnext := h.next hworks htask
  set t := stageTask Command.program? pool spec stage.args none m.job.pipes.size with ht
  set waiting := (m₁.enqueue pool).unready m.nextTask with hwaiting
  obtain ⟨st', job', hrun⟩ : ∃ st' job', ∀ fuel ≥ n,
      t.station.run fuel (.task m.nextTask) waiting.job t.behavior = (.crashed, st', job') :=
    @Room.run_crashed _ _ _ waiting.job _ hplays rfl hlevel (.task m.nextTask)
  obtain ⟨fuel, rfl⟩ : ∃ k, fuel = k + 1 := ⟨fuel - 1, by omega⟩
  have hpoll : waiting.pollTask (fuel + 1) m.nextTask t =
      (false, { waiting with job := job', halt := some .crashed }) := by
    rw [Machine.pollTask, hrun (fuel + 1) (by omega)]
  unfold Machine.turn
  rw [Machine.turnFrom_some hnext, ← hwaiting, hpoll]
  rfl

/-- The stage ends the program before it has written anything, and the machine stops. -/
theorem run_crashed (h : p.Lone pool stage spec m) {left : Room}
    (hplays : (stageBehavior Command.program? spec false stage.args).Plays ⟨{}, m.job.shell⟩ []
      (.crashed, left)) :
    ∃ enough, ∀ fuel ≥ enough, ∃ m₂, m.readPipeline fuel pool p = (.ok [], m₂) ∧
      m₂.halt = some .crashed := by
  obtain ⟨n, hplays⟩ := hplays
  obtain ⟨m₁, hexecute, hexecuted⟩ := p.execute_ready pool h.ready h.free.numbered
  obtain ⟨name, q, hq, hstock, hchannel⟩ := h.pipe hexecuted
  obtain ⟨hshell, hlevel, -⟩ := h.job hexecuted
  have htask := h.task hexecuted
  set last := m.job.pipes.size + (p.line.stages.length - 1) with hlastdef
  have hlast : last = m.job.pipes.size := by rw [hlastdef, h.stages]; rfl
  -- nothing is in the pipe yet, so the main future waits and the stage gets its turn
  obtain ⟨reading, job', hcore, hmain⟩ :=
    @Machine.pollMain_waits { m₁.job with mainWoken := false } last _ name q (hlast ▸ hq) hchannel hstock
  have hworks : Works (p.span pool m) { m₁ with job := job' } := by
    have hpolled := (hexecuted.works h.ready h.free h.programs).pollMain (c := { pipe := last }) 1 rfl
    rw [hmain] at hpolled
    exact hpolled
  refine ⟨n + 1, fun fuel hfuel => ?_⟩
  obtain ⟨m₂, hm₂⟩ : ∃ m₂, ({ m₁ with job := job' } : Machine).turn fuel pool = m₂ := ⟨_, rfl⟩
  have hcrashed : m₂.halt = some .crashed := by
    have hsame : job'.shell = m.job.shell := (congrArg (·.1) hcore).trans hshell
    rw [← hsame] at hplays
    rw [← hm₂]
    exact h.turn_crashed hworks htask ((congrArg (·.2.1) hcore).trans hlevel) hplays hfuel
  obtain ⟨fuel, rfl⟩ : ∃ k, fuel = k + 1 := ⟨fuel - 1, by omega⟩
  have hrun : m₁.runUntil (fuel + 1) pool { pipe := last } = ([], m₂) := by
    simp only [Machine.runUntil, hmain, Bool.false_eq_true, if_false, hm₂, hcrashed,
      Option.isSome_some, if_true]
    rfl
  refine ⟨{ m₂ with job := (m₂.job.closeRead last).2 }, ?_, hcrashed⟩
  unfold Machine.readPipeline
  rw [hexecute]
  simp only [hrun]

end Pipeline.Lone

/-! ## Lines -/

/-- In all sufficient fuel the line comes to its end with this output and these errors, and leaves the
shell like this. -/
def Machine.Completes (m : Machine) (line : String) (out : List Value) (errors : List String)
    (shell : Shell) : Prop :=
  ∃ enough m', (∀ fuel ≥ enough, m.runLine fuel line = (out, errors, m')) ∧ m'.halt = none ∧
    m'.job.shell = shell

/-- In all sufficient fuel the line ends the program, before it has any output. -/
def Machine.Crashes (m : Machine) (line : String) : Prop :=
  ∃ enough, ∀ fuel ≥ enough, (m.runLine fuel line).1 = [] ∧
    (m.runLine fuel line).2.2.halt = some .crashed

/-- A line comes to its end in one way. -/
theorem Machine.Completes.unique {m : Machine} {line : String} {out out' : List Value}
    {errors errors' : List String} {shell shell' : Shell} (h : m.Completes line out errors shell)
    (h' : m.Completes line out' errors' shell') : out = out' ∧ errors = errors' ∧ shell = shell' := by
  obtain ⟨enough, m₁, hrun, -, rfl⟩ := h
  obtain ⟨enough', m₂, hrun', -, rfl⟩ := h'
  have hsame := (hrun _ (le_max_left enough enough')).symm.trans (hrun' _ (le_max_right enough enough'))
  rw [Prod.mk.injEq, Prod.mk.injEq] at hsame
  obtain ⟨rfl, rfl, rfl⟩ := hsame
  exact ⟨rfl, rfl, rfl⟩

/-- The line does not end the program if it comes to its end. -/
theorem Machine.Completes.not_crashes {m : Machine} {line : String} {out : List Value}
    {errors : List String} {shell : Shell} (h : m.Completes line out errors shell) :
    ¬ m.Crashes line := by
  rintro ⟨enough', hcrashes⟩
  obtain ⟨enough, m', hrun, hhalt, -⟩ := h
  have hcrashed := (hcrashes (max enough enough') (le_max_right ..)).2
  rw [hrun _ (le_max_left ..), hhalt] at hcrashed
  simp at hcrashed

/-- A stage does what its program does, after it has been logged. -/
theorem Pipeline.plays_stageBehavior {spec : CommandSpec} {program : StageProgram}
    (hprogram : Command.program? spec.name = some program) {hasInput : Bool} {args : Option String}
    {r : Room} {out : List Value} {e : Finish Unit × Room} (h : (program hasInput args).Plays r out e) :
    (stageBehavior Command.program? spec hasInput args).Plays r out e := by
  refine (Behavior.plays_note r _ _).then ?_
  simp only [hprogram]
  exact h

section Line

variable {line : String} {m : Machine} {stage : Stage} {spec : CommandSpec} {program : StageProgram}
  (hnamed : m.job.shell.registry.Named) (hprograms : m.programs = Command.program?)
  (horderly : m.Orderly) (hlevel : m.job.level = 0) (hhalt : m.halt = none)
  (hline : Stage.parseLine line = [stage]) (hspec : m.job.shell.command? stage.command = some spec)

include hnamed hprograms horderly hlevel hhalt hline hspec

/-- A line of a single stage is valid. -/
theorem Pipeline.validate_solo :
    ∃ p m₀ resolved, (Pipeline.create line m).1.validate (Pipeline.create line m).2 = (.ok (), p, m₀) ∧
      p.Lone m₀.nextPool resolved spec m₀.openPool.2 ∧ resolved.args = stage.args ∧
      m₀.job.shell = m.job.shell ∧ m₀.job.errors = m.job.errors := by
  have hresolves : ∀ typed ∈ Stage.parseLine line,
      ∃ spec, m.job.shell.command? typed.command = some spec := by
    rw [hline]
    exact fun typed htyped => ⟨spec, List.mem_singleton.mp htyped ▸ hspec⟩
  obtain ⟨p, m₀, hvalid⟩ := Pipeline.validate_ok hresolves
  have hready := Pipeline.ready_create hnamed hvalid
  obtain ⟨-, hstages, -, hm₀⟩ := Pipeline.validate_create hvalid
  have hname : m.job.shell.resolve? stage.command = some spec.name := by
    rw [Shell.resolve?, hspec, Option.map_some]
  rw [hline, List.map_singleton, CommandLine.resolveStage, hname] at hstages
  subst hm₀
  exact ⟨p, _, _, hvalid,
    { ready := ⟨hready.number, hready.state, hready.stages, hready.commands⟩
      stages := hstages
      spec := Shell.command?_canonical hnamed hspec
      free := Machine.Orderly.free horderly
      alone := Machine.Orderly.poolTasks horderly
      programs := hprograms
      level := hlevel
      halt := hhalt }, rfl, rfl, rfl⟩

variable (hprogram : Command.program? spec.name = some program)

include hprogram

/-- **A line of a single stage** comes to its end as its program does in a room of its own. -/
theorem Machine.runLine_solo {out : List Value} {result : Except ShellError Unit} {left : Room}
    (hplays : (program false stage.args).Plays ⟨{}, m.job.shell⟩ out (.ofExcept result, left)) :
    m.Completes line out (m.job.errors ++ Machine.reported result) left.shell := by
  obtain ⟨p, m₀, resolved, hvalid, hlone, hargs, hshell, herrors⟩ :=
    Pipeline.validate_solo hnamed hprograms horderly hlevel hhalt hline hspec
  rw [← hargs, ← hshell] at hplays
  obtain ⟨enough, m₂, m₃, hrun, hhalt₃, hnobody, hshell₃, herrors₃⟩ :=
    hlone.run (Pipeline.plays_stageBehavior hprogram hplays)
  refine ⟨enough, m₃.takeErrors.2, fun fuel hfuel => ?_, hhalt₃, hshell₃⟩
  obtain ⟨hread, hsettle⟩ := hrun fuel hfuel
  have hclosed : m₃.takeErrors.2.closePool m₀.nextPool = m₃.takeErrors.2 :=
    Machine.closePool_nil (m := m₃.takeErrors.2) hnobody
  have hreported : m₃.takeErrors.1 = m.job.errors ++ Machine.reported result := by
    rw [← herrors]
    exact herrors₃
  have hpool : m₀.openPool.1 = m₀.nextPool := rfl
  simp only [Machine.runLine, hvalid, hpool, hread, hsettle, hclosed, hreported]
  rfl

/-- A stage that ends the program stops the machine. -/
theorem Machine.runLine_crashed {left : Room}
    (hplays : (program false stage.args).Plays ⟨{}, m.job.shell⟩ [] (.crashed, left)) :
    m.Crashes line := by
  obtain ⟨p, m₀, resolved, hvalid, hlone, hargs, hshell, herrors⟩ :=
    Pipeline.validate_solo hnamed hprograms horderly hlevel hhalt hline hspec
  rw [← hargs, ← hshell] at hplays
  obtain ⟨enough, hrun⟩ := hlone.run_crashed (Pipeline.plays_stageBehavior hprogram hplays)
  refine ⟨enough, fun fuel hfuel => ?_⟩
  obtain ⟨m₂, hread, hcrashed⟩ := hrun fuel hfuel
  have hpool : m₀.openPool.1 = m₀.nextPool := rfl
  have hsettle : m₂.settle fuel m₀.nextPool = m₂ := by simp [Machine.settle, hcrashed]
  simp only [Machine.runLine, hvalid, hpool, hread, hsettle]
  refine ⟨rfl, ?_⟩
  rw [Machine.halt_closePool]
  exact hcrashed

end Line

end Pipework
