import Pipework.Job.Console
import Pipework.Proofs.Job.Core
import Pipework.Proofs.Job.Evolving
import Pipework.Proofs.Job.Settling

/-!
# The signals of a job

Whatever happens to a job comes of calls on its pipes, of new pipes, and of changes that touch
neither pipes nor signals (`Job.Trail`). A trail tells how the writes among the calls ended, so the
signals can be compared with it: they are the broken ones, in order, each under the name of its pipe
(`Job.Trail.signals`).

The second half shows that whatever becomes of a job leaves a trail (`Job.Evolves.follows`), and
that an operator at a console does nothing else to it (`Console.Does.evolves`).
-/

namespace Pipework

namespace Job

/-! ## Trails -/

/-- What has become of a job: how the writes to its pipes ended on the way, oldest first, each with
the name of its pipe. -/
inductive Trail (start : Job) : Job → List (String × WriteOutcome) → Prop where
  /-- Nothing has happened. -/
  | start : Trail start start []
  /-- A pipe has been called, and the events have been carried out. -/
  | call {job : Job} {results : List (String × WriteOutcome)} {i : Nat} {p : Pipe Value}
      (call : Pipe.Call Value) (before : Trail start job results) (pipe : job.pipes[i]? = some p) :
      Trail start (job.store i (call.apply p).2.1 (call.apply p).2.2)
        (results ++ ((call.apply p).1.map (p.name, ·)).toList)
  /-- A pipe has been created. -/
  | create {job : Job} {results : List (String × WriteOutcome)} (label : String)
      (before : Trail start job results) : Trail start (job.createPipe label).2 results
  /-- Something else has changed. -/
  | other {job job' : Job} {results : List (String × WriteOutcome)} (before : Trail start job results)
      (pipes : job'.pipes = job.pipes) (signals : job'.signals = job.signals) :
      Trail start job' results

/-- The signal for the result of a write. -/
def broken? (result : String × WriteOutcome) : Option (String × String) :=
  result.2.broken?.map fun _ => Pipe.brokenSignal result.1

/-- Events record their signals. -/
theorem signals_react (events : List Pipe.Event) (job : Job) :
    (job.react events).signals = job.signals ++ Pipe.signals events := by
  induction events generalizing job with
  | nil => exact (List.append_nil _).symm
  | cons event events ih =>
    rw [react_cons, ih]
    cases event with
    | wake waker =>
      rw [reactOne, wake_eq]
      rfl
    | signal pipe message => simp [reactOne, log, Pipe.signals, Pipe.Event.signal?]
    | _ => rfl

namespace Trail

variable {start job job' : Job} {results later : List (String × WriteOutcome)}

theorem trans (h : Trail start job results) (h' : Trail job job' later) :
    Trail start job' (results ++ later) := by
  induction h' with
  | start => rwa [List.append_nil]
  | call c _ hp ih =>
    rw [← List.append_assoc]
    exact .call c ih hp
  | create label _ ih => exact .create label ih
  | other _ hpipes hsignals ih => exact .other ih hpipes hsignals

/-- **One signal for each broken write**, under the name of its pipe. -/
theorem signals (h : Trail start job results) :
    job.signals = start.signals ++ results.filterMap broken? ∧
      ∀ result ∈ results, ∀ name, result.2.broken? = some name → name = result.1 := by
  induction h with
  | start => exact ⟨(List.append_nil _).symm, by simp⟩
  | @call job results i p c _ hp ih =>
    obtain ⟨hsignals, hname⟩ := c.signals_apply p
    obtain ⟨hbefore, hnames⟩ := ih
    refine ⟨?_, fun result hresult name hbroken => ?_⟩
    · rw [store, signals_react, hsignals, hbefore, List.filterMap_append, List.append_assoc]
      congr 2
      cases houtcome : (c.apply p).1 with
      | none => rfl
      | some outcome =>
        rw [houtcome] at hname
        cases hbroken : outcome.broken? with
        | none => simp [broken?, hbroken]
        | some name =>
          obtain rfl : name = p.name := hname name hbroken
          simp [broken?, hbroken]
    · rcases List.mem_append.mp hresult with hresult | hresult
      · exact hnames result hresult name hbroken
      · obtain ⟨outcome, houtcome, rfl⟩ := Option.map_eq_some_iff.mp (Option.mem_toList.mp hresult)
        exact hname name (by rw [houtcome]; exact hbroken)
  | create label _ ih =>
    refine ⟨?_, ih.2⟩
    rw [← ih.1]
    exact (signals_react _ _).trans (List.append_nil _)
  | other _ _ hsignals ih => exact ⟨hsignals.trans ih.1, ih.2⟩

end Trail

/-- The second job comes of the first. -/
def Follows (start job : Job) : Prop := ∃ results, Trail start job results

namespace Follows

variable {start job job' : Job}

theorem refl : Follows job job := ⟨[], .start⟩

theorem trans (h : Follows start job) (h' : Follows job job') : Follows start job' := by
  obtain ⟨_, h⟩ := h
  obtain ⟨_, h'⟩ := h'
  exact ⟨_, h.trans h'⟩

theorem other (pipes : job'.pipes = job.pipes) (signals : job'.signals = job.signals) :
    Follows job job' := ⟨[], .other .start pipes signals⟩

end Follows

/-- Whatever becomes of a job leaves a trail. -/
theorem Evolves.follows {own : Nat → Prop} {start job : Job} (h : start.Evolves own job) :
    Follows start job := by
  refine Relation.ReflTransGen.trans_induction_on h (fun _ => .refl) (fun hone => ?_)
    fun _ _ h₁ h₂ => h₁.trans h₂
  cases hone with
  | call call hp => exact ⟨_, .call call .start hp⟩
  | create label => exact ⟨_, .create label .start⟩
  | enter state => exact .other rfl rfl
  | mark number state => exact .other rfl rfl
  | other hpipes hsignals => exact .other hpipes hsignals

end Job

/-! ## Stations -/

/-- The write of a stage goes into the trail with the answer that the stage is given. -/
theorem Station.trail_write (st : Station) (job : Job) (who : Waker) (v : Value) {i : Nat}
    {p : Pipe Value} (hi : st.output = some i) (hp : job.pipes[i]? = some p) :
    Job.Trail job (st.attempt who (.write v) job).2.2
      [(p.name, (st.attempt who (.write v) job).1)] := by
  have hcall := Job.Trail.call (.pollWrite who v) (.start : Job.Trail job job []) hp
  simp only [Station.attempt, Station.tryWrite, hi, Job.query_eq hp]
  exact hcall

/-! ## Consoles -/

namespace Console

/-- One thing that an operator does at a console. -/
inductive Does (c : Console) : Console → Prop where
  | runLine (fuel : Nat) (line : String) : Does c (c.runLine fuel line).2
  | enter (line : String) : Does c (c.enter line)
  | validate : Does c c.validate.2
  | execute (alive : Bool) : Does c (c.execute alive).2
  | runStalled (fuel : Nat) : Does c (c.runStalled fuel)
  | read (fuel : Nat) (count : Option Nat) : Does c (c.read fuel count).2
  | dropReader : Does c c.dropReader.2
  | interrupt : Does c (c.onJob (·.interrupt))
  | interruptHard : Does c (c.onJob (·.interruptHard))
  | teardown : Does c (c.onJob (·.teardown))
  | report (message : String) : Does c (c.onJob (·.report message))
  | takeErrors : Does c (c.withMachine (·.takeErrors)).2
  | setAlias (name target : String) : Does c (c.setAlias name target)
  | holdPipe (id label : String) : Does c (c.holdPipe id label).2
  | tryWrite (id : String) (v : Value) : Does c (c.tryWrite id v).2
  | closeReader (id : String) : Does c (c.closeReader id).2
  | enterTimer (id : String) (kind : TimerKind) (link : Option String) :
      Does c (c.enterTimer id kind link).2
  | cancelTimer (timer : Nat) : Does c (c.cancelTimer timer).2
  | prepareSleep (id : String) (ms : Nat) (link : Option String) :
      Does c (c.prepareSleep id ms link).2
  | pollSleep (fuel : Nat) (id : String) : Does c (c.pollSleep fuel id).2
  | finishSleep (fuel : Nat) (id : String) : Does c (c.finishSleep fuel id).2
  | dropSleep (id : String) : Does c (c.dropSleep id).2
  | startInterval (id : String) (ms : Nat) (link : Option String) :
      Does c (c.startInterval id ms link).2
  | pollTick (fuel : Nat) (id : String) : Does c (c.pollTick fuel id).2
  | finishTick (fuel : Nat) (id : String) : Does c (c.finishTick fuel id).2
  | dropInterval (id : String) : Does c (c.dropInterval id).2

/-- What an operator does at a console, one thing after another. -/
abbrev Run : Console → Console → Prop := Relation.ReflTransGen Does

variable {own : Nat → Prop} {c c' : Console}

/-- The operator's own write goes into the trail with its answer. -/
theorem trail_tryWrite {id : String} {h : HeldPipe} {p : Pipe Value} {v : Value}
    {answer : Except ShellError Unit} (hheld : Keyed.find? id c.pipes = some h)
    (hp : c.machine.job.pipes[h.pipe]? = some p) (hanswer : (c.tryWrite id v).1 = some answer) :
    c.machine.job.Trail (c.tryWrite id v).2.machine.job [(p.name, .ready answer)] := by
  have hcall := Job.Trail.call (.tryWrite v) (.start : Job.Trail c.machine.job _ []) hp
  simp only [tryWrite, hheld, withJob, Job.query_eq hp, Option.some.injEq] at hanswer ⊢
  rw [← hanswer]
  exact hcall

theorem evolves_dropReader : c.machine.job.Evolves own c.dropReader.2.machine.job := by
  unfold dropReader
  split
  · exact .refl
  · exact Job.evolves_closeRead _

theorem evolves_releasePipe (h : HeldPipe) (job : Job) : job.Evolves own (releasePipe h job) := by
  simp only [releasePipe]
  split
  · exact (Job.evolves_closeWrite _).trans (Job.evolves_closeRead _)
  · exact Job.evolves_closeWrite _

theorem evolves_dropSleep (id : String) :
    c.machine.job.Evolves own (c.dropSleep id).2.machine.job := by
  unfold dropSleep
  split
  · exact .refl
  · exact Job.evolves_foldl (f := fun job id => job.forgetTimer id)
      (fun _ _ => .other rfl rfl rfl) _ _

theorem evolves_dropInterval (id : String) :
    c.machine.job.Evolves own (c.dropInterval id).2.machine.job := by
  unfold dropInterval
  split
  · exact .refl
  · exact .other rfl rfl rfl

/-- An operator drives pipelines, and does nothing else to a job. -/
theorem Does.evolves (h : Does c c') : c.machine.job.Evolves (fun _ => True) c'.machine.job := by
  cases h with
  | runLine fuel line => exact Machine.evolves_runLine trivial fuel line
  | enter line => exact Pipeline.evolves_create line c.machine
  | validate =>
    unfold Console.validate
    split
    · exact .refl
    · exact Pipeline.evolves_validate trivial c.machine
  | execute alive =>
    unfold Console.execute
    split
    · exact .refl
    · rename_i p _
      have hexecute : c.machine.job.Evolves (fun _ => True) _ :=
        Pipeline.evolves_execute (p := p) trivial (if alive then some c.pool else none) c.machine
      generalize p.execute (if alive then some c.pool else none) c.machine = executed at hexecute ⊢
      obtain ⟨_ | last, p', m⟩ := executed
      · exact hexecute
      · exact hexecute.trans
          (evolves_dropReader (c := { c with machine := m, pipeline := some p' }))
  | runStalled fuel => exact Machine.evolves_runStalled fuel c.pool c.machine
  | read fuel count =>
    unfold Console.read
    split
    · exact .refl
    · exact Machine.evolves_runUntil fuel c.pool _ c.machine
  | dropReader => exact evolves_dropReader
  | interrupt => exact Job.evolves_interrupt
  | interruptHard => exact Job.evolves_interruptHard
  | teardown => exact Job.evolves_teardown
  | report message => exact .other rfl rfl rfl
  | takeErrors => exact .other rfl rfl rfl
  | setAlias name target => exact .other rfl rfl rfl
  | holdPipe id label =>
    have hheld : c.machine.job.Evolves (fun _ => True) _ :=
      ((Job.evolves_createPipe c.machine.job label).trans
        (Job.evolves_openWrite (c.machine.job.createPipe label).1)).trans
        (Job.evolves_openRead (c.machine.job.createPipe label).1)
    simp only [Console.holdPipe]
    split
    · exact hheld.trans (evolves_releasePipe _ _)
    · exact hheld
  | tryWrite id v =>
    unfold Console.tryWrite
    split
    · exact .refl
    · exact Job.evolves_query _ _ (.tryWrite v) (fun _ => rfl) nofun
  | closeReader id =>
    unfold Console.closeReader
    split
    · exact .refl
    · split
      · exact Job.evolves_closeRead _
      · exact .refl
  | enterTimer id kind link =>
    unfold Console.enterTimer
    split
    · exact .refl
    · exact .other rfl rfl rfl
  | cancelTimer timer => exact Job.evolves_cancelTimer timer
  | prepareSleep id ms link =>
    unfold Console.prepareSleep
    split
    · exact .refl
    · exact evolves_dropSleep id
  | pollSleep fuel id =>
    unfold Console.pollSleep
    split
    · exact .refl
    · rename_i s _
      have hrun : c.machine.job.Evolves (fun _ => True) _ :=
        Station.evolves_run fuel .nobody s.station c.machine.job s.rest
      split <;> rename_i hran <;> rw [hran] at hrun <;> exact hrun
  | finishSleep fuel id =>
    unfold Console.finishSleep
    split
    · exact .refl
    · exact Machine.evolves_finish _ _ _ _
  | dropSleep id => exact evolves_dropSleep id
  | startInterval id ms link =>
    unfold Console.startInterval
    split
    · exact .refl
    · rename_i link _
      exact (Job.evolves_startTimer .interval link).trans
        (evolves_dropInterval (c := (c.withJob (·.startTimer .interval link)).2) id)
  | pollTick fuel id =>
    unfold Console.pollTick
    split
    · exact .refl
    · rename_i i _
      have hrun : c.machine.job.Evolves (fun _ => True) _ :=
        Station.evolves_tryOut {} c.machine.job fuel
        (.perform (.awaitTimer i.timer i.ms))
      split <;> rename_i hran <;> rw [hran] at hrun <;> exact hrun
  | finishTick fuel id =>
    unfold Console.finishTick
    split
    · exact .refl
    · exact Machine.evolves_finish _ _ _ _
  | dropInterval id => exact evolves_dropInterval id

theorem Run.follows (h : Run c c') : c.machine.job.Follows c'.machine.job := by
  induction h with
  | refl => exact .refl
  | tail _ hdoes ih => exact ih.trans hdoes.evolves.follows

end Console

/-! ## The whole of it -/

/-- **Every attempt to write is judged by the table, and every broken one is a signal.** On a pipe,
whatever its users have done, an attempt through a handle that was closed when the attempt was
started is refused, and any other is judged by the sides, the queue and the room of the pipe. In a
job, whatever its operator does, the signals are those of the broken writes to its pipes, in order;
the writes of its stages and of its operator are among these writes, with the answers they get. -/
theorem attempts_signalled {α : Type} :
    (∀ (name : String) (capacity : Nat) (ops : List (PipeOp α)),
      Traffic.Attempts (Traffic.create name capacity).1 ops) ∧
    (∀ c c' : Console, c.Run c' → ∃ results, c.machine.job.Trail c'.machine.job results ∧
      c'.machine.job.signals = c.machine.job.signals ++ results.filterMap Job.broken? ∧
      ∀ result ∈ results, ∀ name, result.2.broken? = some name → name = result.1) ∧
    (∀ (st : Station) (job : Job) (who : Waker) (v : Value) (i : Nat) (p : Pipe Value),
      st.output = some i → job.pipes[i]? = some p →
        job.Trail (st.attempt who (.write v) job).2.2
          [(p.name, (st.attempt who (.write v) job).1)]) ∧
    ∀ (c : Console) (id : String) (h : HeldPipe) (v : Value) (p : Pipe Value)
      (answer : Except ShellError Unit), Keyed.find? id c.pipes = some h →
      c.machine.job.pipes[h.pipe]? = some p → (c.tryWrite id v).1 = some answer →
        c.machine.job.Trail (c.tryWrite id v).2.machine.job [(p.name, .ready answer)] := by
  refine ⟨Traffic.attempts_create, fun c c' hrun => ?_, fun st job who v i p hi hp => ?_,
    fun c id h v p answer hheld hp hanswer => ?_⟩
  · obtain ⟨results, htrail⟩ := hrun.follows
    obtain ⟨hsignals, hnames⟩ := htrail.signals
    exact ⟨results, htrail, hsignals, hnames⟩
  · exact st.trail_write job who v hi hp
  · exact Console.trail_tryWrite hheld hp hanswer

/-- A pipe without readers is broken for its writer; it is not heard of once the writer is closed. -/
theorem attempts_signalled_broken :
    let start : Traffic Nat := (Traffic.create "numbers" 1).1
    let ops : List (PipeOp Nat) := [.openHandle .read "r", .openHandle .write "w", .close "r"]
    Pipe.signals ((start.run ops).2.step (.tryWrite (some "w") 1)).2.2 =
      [Pipe.brokenSignal "numbers"] ∧
    (start.run (ops ++ [.close "w"])).2.step (.tryWrite (some "w") 1) =
      (.written (.error (.alreadyWriteClosed "numbers")), (start.run (ops ++ [.close "w"])).2, []) := by
  intro start ops
  obtain ⟨hattempts, -⟩ := attempts_signalled (α := Nat)
  refine ⟨by decide, (hattempts "numbers" 1 _).tryClosed "w" _ 1 rfl rfl⟩

/-- A handle may be closed under a write that has been started on it: the poll of the write is judged
by the pipe all the same. -/
theorem closed_under_write :
    ¬ ∀ (ops : List (PipeOp String)) (id writer item : String) (f : Future String) (h : Handle),
      ((Traffic.create "p" 1).1.run ops).2.future? id = some f → f.owner = some writer →
      f.transfer = .write item →
      ((Traffic.create "p" 1).1.run ops).2.handleOn? .write writer = some h → h.closed = true →
      (((Traffic.create "p" 1).1.run ops).2.step (.poll id)).1 =
        .written (.error (.alreadyWriteClosed "p")) := by
  intro hclaim
  let ops : List (PipeOp String) := [.openHandle .read "r", .openHandle .write "w",
    .openHandle .write "v", .write (some "w") "f" "a", .close "w"]
  have htaken : (((Traffic.create "p" 1).1.run ops).2.step (.poll "f")).1 = .written (.ok ()) := rfl
  exact nomatch htaken.symm.trans (hclaim ops "f" "w" "a" _ _ rfl rfl rfl rfl rfl)

end Pipework
