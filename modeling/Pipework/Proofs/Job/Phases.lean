import Pipework.Proofs.Job.Evolving
import Pipework.Proofs.Job.Validating

/-!
# How far a pipeline has come

The state of a pipeline is written from three places: `validate` copies what it makes of the line,
`execute` marks the pipeline running, and the last pipe of an execution marks it finished when it
closes for writing.

* **elsewhere** — whatever else happens on the machine leaves the state alone until one of the pipes
  that the executions have answered closes for writing; then the pipeline is finished
  (`Job.Heeds`).
* **execute** — a pipeline that is executed is running, and has one pipe more to watch.
* **validate** — a pipeline that has been executed is put back to where validation left it.

So the state moves forward, but for a validation after an execution and for an execution after the
end; and as long as no earlier execution is under way, a pipeline is finished exactly when the last
pipe of its execution has closed (`Pipeline.driven_advances`).
-/

namespace Pipework

/-- The place of a state on the way of a line. -/
def LineState.rank : LineState → Nat
  | .unparsed => 0
  | .parsed => 1
  | .validated => 2
  | .running => 3
  | .finished => 4

theorem LineState.rank_le_finished (state : LineState) : state.rank ≤ LineState.finished.rank := by
  cases state <;> decide

/-- Only a finished pipeline is past a running one. -/
theorem LineState.rank_le_running {state : LineState} (h : state ≠ .finished) :
    state.rank ≤ LineState.running.rank := by
  cases state with
  | finished => exact absurd rfl h
  | _ => decide

/-! ## One call on a pipe -/

namespace Pipe

variable {α : Type} {number : Nat}

/-- What a call that registers nothing for pipeline `number` does to its callbacks: they wait, or
their side closes and they run. -/
structure Heeds (number : Nat) (p p' : Pipe α) (events : List Event) : Prop where
  stays : p.writeClosed = true → p'.writeClosed = true
  read : number ∉ p.onReadClose → number ∉ p'.onReadClose
  write : number ∈ p'.onWriteClose ↔
    number ∈ p.onWriteClose ∧ ¬ (p.writeClosed = false ∧ p'.writeClosed = true)
  fired : number ∉ p.onReadClose → (number ∈ Pipe.fired events ↔
    number ∈ p.onWriteClose ∧ p.writeClosed = false ∧ p'.writeClosed = true)

theorem Fires.heeds {p p' : Pipe α} {events : List Event} (h : Fires p p' (Pipe.fired events)) :
    Heeds number p p' events := by
  have hread : p'.onReadClose = if !p.readClosed && p'.readClosed then [] else p.onReadClose :=
    h.callbacks .read
  have hwrite : p'.onWriteClose = if !p.writeClosed && p'.writeClosed then [] else p.onWriteClose :=
    h.callbacks .write
  have hran : Pipe.fired events =
      (if !p.writeClosed && p'.writeClosed then p.onWriteClose else []) ++
        if !p.readClosed && p'.readClosed then p.onReadClose else [] := h.ran
  refine ⟨h.stays .write, fun hnone => ?_, ?_, fun hnone => ?_⟩
  · rw [hread]
    split
    · exact List.not_mem_nil
    · exact hnone
  · rw [hwrite]
    cases p.writeClosed <;> cases p'.writeClosed <;> simp
  · have hdue : number ∉ if !p.readClosed && p'.readClosed then p.onReadClose else [] := by
      split
      · exact hnone
      · exact List.not_mem_nil
    rw [hran, List.mem_append, or_iff_left hdue]
    cases p.writeClosed <;> cases p'.writeClosed <;> simp

theorem heeds_addCallback (p : Pipe α) (side : Side) {label : Nat} (hlabel : label ≠ number) :
    Heeds number p (p.addCallback side label).1 (p.addCallback side label).2 := by
  obtain ⟨hclosed, hcallbacks, hran⟩ := p.addCallback_spec side label
  have hsame : (p.addCallback side label).1.writeClosed = p.writeClosed := hclosed .write
  have hmem : ∀ other, number ∈ (p.addCallback side label).1.callbacks other ↔
      number ∈ p.callbacks other := fun other => by
    rw [hcallbacks, List.mem_append, or_iff_left]
    split <;> simp [hlabel.symm]
  have hnot : number ∉ Pipe.fired (p.addCallback side label).2 := by
    rw [hran]
    split <;> simp [hlabel.symm]
  refine ⟨fun h => hsame.trans h, fun h => (hmem .read).not.mpr h, (hmem .write).trans ?_,
    fun _ => ⟨fun h => absurd h hnot, fun ⟨_, hopen, hshut⟩ => ?_⟩⟩
  · rw [hsame]
    cases p.writeClosed <;> simp [callbacks]
  · rw [hsame, hopen] at hshut
    exact absurd hshut Bool.false_ne_true

/-- **One call.** -/
theorem Call.heeds (p : Pipe α) (call : Call α)
    (hlabel : ∀ label, call.label? = some label → label ≠ number) :
    Heeds number p (call.apply p).2.1 (call.apply p).2.2 := by
  cases hregisters : call.label? with
  | none => exact (call.fires p hregisters).heeds
  | some label =>
    have hne := hlabel label hregisters
    cases call with
    | onReadClose other =>
      obtain rfl : other = label := Option.some.inj hregisters
      exact p.heeds_addCallback .read hne
    | onWriteClose other =>
      obtain rfl : other = label := Option.some.inj hregisters
      exact p.heeds_addCallback .write hne
    | _ => exact nomatch hregisters

end Pipe

/-! ## Jobs -/

namespace Job

variable {number : Nat} {lasts : List Nat} {job job' job'' : Job}

/-- The pipe is there and open for writing. -/
def WriteOpen (job : Job) (i : Nat) : Prop :=
  ∃ p, job.pipes[i]? = some p ∧ p.writeClosed = false

/-- Pipeline `number` is to be told when one of the pipes in `lasts` closes for writing, and of
nothing else. -/
structure Watches (number : Nat) (lasts : List Nat) (job : Job) : Prop where
  numbered : number < job.progress.size
  there : ∀ i ∈ lasts, i < job.pipes.size
  read : ∀ (i : Nat) (p : Pipe Value), job.pipes[i]? = some p → number ∉ p.onReadClose
  write : ∀ (i : Nat) (p : Pipe Value), job.pipes[i]? = some p →
    (number ∈ p.onWriteClose ↔ i ∈ lasts ∧ p.writeClosed = false)

/-- What happens between two states of a job to a pipeline that nobody drives. -/
structure Heeds (number : Nat) (lasts : List Nat) (job job' : Job) : Prop where
  watches : job'.Watches number lasts
  size : job.pipes.size ≤ job'.pipes.size
  /-- No pipe opens again. -/
  closed : ∀ i < job.pipes.size, job'.WriteOpen i → job.WriteOpen i
  /-- The pipeline is finished if a pipe that it watches has closed. -/
  finishes : (∃ i ∈ lasts, job.WriteOpen i ∧ ¬ job'.WriteOpen i) →
    job'.progress[number]? = some .finished
  /-- Otherwise it is left where it was. -/
  stays : (∀ i ∈ lasts, job.WriteOpen i → job'.WriteOpen i) →
    job'.progress[number]? = job.progress[number]?

/-- What events do to the mark of a pipeline. -/
theorem progress_react (events : List Pipe.Event) (hnumber : number < job.progress.size) :
    (job.react events).progress[number]? =
      if number ∈ Pipe.fired events then some .finished else job.progress[number]? := by
  induction events generalizing job with
  | nil => rfl
  | cons event events ih =>
    have hsize : (job.reactOne event).progress.size = job.progress.size :=
      size_progress_react [event] job
    rw [react_cons, ih (hsize.symm ▸ hnumber)]
    cases event with
    | call label =>
      by_cases hlabel : label = number
      · subst hlabel
        simp [Pipe.fired, Pipe.Event.callback?, reactOne, finishPipeline, log, hnumber]
      · simp [Pipe.fired, Pipe.Event.callback?, reactOne, finishPipeline, log, hlabel,
          Ne.symm hlabel]
    | wake waker =>
      rw [reactOne, wake_eq]
      rfl
    | _ => rfl

theorem Watches.of_pipes (h : job.Watches number lasts) (pipes : job'.pipes = job.pipes)
    (size : job.progress.size ≤ job'.progress.size) : job'.Watches number lasts :=
  ⟨h.numbered.trans_le size, pipes ▸ h.there, pipes ▸ h.read, pipes ▸ h.write⟩

namespace Heeds

/-- Nothing happens to the pipes. -/
theorem of_pipes (h : job.Watches number lasts) (pipes : job'.pipes = job.pipes)
    (size : job.progress.size ≤ job'.progress.size)
    (progress : job'.progress[number]? = job.progress[number]?) : Heeds number lasts job job' where
  watches := h.of_pipes pipes size
  size := by rw [pipes]
  closed i _ hopen := by rwa [WriteOpen, pipes] at hopen
  finishes := by
    rintro ⟨i, -, hopen, hclosed⟩
    rw [WriteOpen, pipes] at hclosed
    exact absurd hopen hclosed
  stays _ := progress

theorem trans (h : Heeds number lasts job job') (h' : Heeds number lasts job' job'')
    (hwatches : job.Watches number lasts) : Heeds number lasts job job'' where
  watches := h'.watches
  size := h.size.trans h'.size
  closed i hi hopen := h.closed i hi (h'.closed i (hi.trans_le h.size) hopen)
  finishes := by
    rintro ⟨i, hi, hopen, hclosed⟩
    -- the pipe closes in the first part or in the second; what has finished stays so
    by_cases hmeanwhile : job'.WriteOpen i
    · exact h'.finishes ⟨i, hi, hmeanwhile, hclosed⟩
    · have hfinished := h.finishes ⟨i, hi, hopen, hmeanwhile⟩
      by_cases hstays : ∀ j ∈ lasts, job'.WriteOpen j → job''.WriteOpen j
      · rw [h'.stays hstays, hfinished]
      · simp only [not_forall] at hstays
        obtain ⟨j, hj, hopen', hclosed'⟩ := hstays
        exact h'.finishes ⟨j, hj, hopen', hclosed'⟩
  stays hall := by
    have hfirst : ∀ i ∈ lasts, job.WriteOpen i → job'.WriteOpen i := fun i hi hopen =>
      h'.closed i ((hwatches.there i hi).trans_le h.size) (hall i hi hopen)
    have hthen : ∀ i ∈ lasts, job'.WriteOpen i → job''.WriteOpen i := fun i hi hopen =>
      hall i hi (h.closed i (hwatches.there i hi) hopen)
    rw [h'.stays hthen, h.stays hfirst]

end Heeds

/-- The pipes of a job after a call: the pipe that was called, and the others as they were. -/
theorem store_cases {i j : Nat} {p p' q : Pipe Value} {events : List Pipe.Event}
    (hp : job.pipes[i]? = some p) (hq : (job.store i p' events).pipes[j]? = some q) :
    j = i ∧ q = p' ∨ j ≠ i ∧ job.pipes[j]? = some q := by
  by_cases hj : j = i
  · subst hj
    exact .inl ⟨rfl, Option.some.inj (hq.symm.trans (store_self hp p' events))⟩
  · exact .inr ⟨hj, (store_other hj p' events job).symm.trans hq⟩

namespace Watches

/-- A call on a pipe. -/
theorem store (h : job.Watches number lasts) {i : Nat} {p p' : Pipe Value}
    {events : List Pipe.Event} (hp : job.pipes[i]? = some p)
    (hheeds : Pipe.Heeds number p p' events) : Heeds number lasts job (job.store i p' events) := by
  have hwas : job.WriteOpen i ↔ p.writeClosed = false := by simp [WriteOpen, hp]
  have hnow : (job.store i p' events).WriteOpen i ↔ p'.writeClosed = false := by
    simp [WriteOpen, store_self hp]
  have hother : ∀ j, j ≠ i → ((job.store i p' events).WriteOpen j ↔ job.WriteOpen j) :=
    fun j hj => by rw [WriteOpen, WriteOpen, store_other hj]
  have hwatches : (job.store i p' events).Watches number lasts :=
    { numbered := by
        rw [Job.store, size_progress_react]
        exact h.numbered
      there := by simpa [pipes_store] using h.there
      read := fun j q hq => by
        obtain ⟨rfl, rfl⟩ | ⟨-, hq⟩ := store_cases hp hq
        · exact hheeds.read (h.read j p hp)
        · exact h.read j q hq
      write := fun j q hq => by
        obtain ⟨rfl, rfl⟩ | ⟨-, hq⟩ := store_cases hp hq
        · have hstays := hheeds.stays
          rw [hheeds.write, h.write j p hp]
          cases hbefore : p.writeClosed <;> cases hafter : q.writeClosed <;> simp_all
        · exact h.write j q hq }
  -- the callback is among the events exactly when the call closes a pipe that is watched
  have hfired : number ∈ Pipe.fired events ↔
      i ∈ lasts ∧ job.WriteOpen i ∧ ¬ (job.store i p' events).WriteOpen i := by
    rw [hheeds.fired (h.read i p hp), h.write i p hp, hwas, hnow, Bool.not_eq_false, and_assoc,
      and_self_left]
  have hprogress : (job.store i p' events).progress[number]? =
      if number ∈ Pipe.fired events then some .finished else job.progress[number]? :=
    progress_react events h.numbered
  refine ⟨hwatches, by simp [pipes_store], fun j _ hopen => ?_, ?_, fun hall => ?_⟩
  · by_cases hj : j = i
    · subst hj
      rw [hwas]
      by_contra hclosed
      have hstays := hheeds.stays (Bool.eq_true_of_not_eq_false hclosed)
      exact Bool.false_ne_true ((hnow.mp hopen).symm.trans hstays)
    · exact (hother j hj).mp hopen
  · rintro ⟨j, hj, hopen, hclosed⟩
    obtain rfl : j = i := by
      by_contra hne
      exact hclosed ((hother j hne).mpr hopen)
    rw [hprogress, if_pos (hfired.mpr ⟨hj, hopen, hclosed⟩)]
  · rw [hprogress, if_neg]
    intro hfires
    obtain ⟨hi, hopen, hclosed⟩ := hfired.mp hfires
    exact hclosed (hall i hi hopen)

/-- A new pipe. -/
theorem createPipe (h : job.Watches number lasts) (label : String) :
    Heeds number lasts job (job.createPipe label).2 := by
  obtain ⟨p, hpipes, hread, hwrite⟩ : ∃ p : Pipe Value,
      (job.createPipe label).2.pipes = job.pipes.push p ∧ p.onReadClose = [] ∧
        p.onWriteClose = [] := ⟨_, pipes_react _ _, rfl, rfl⟩
  have hopen : ∀ j < job.pipes.size,
      ((job.createPipe label).2.WriteOpen j ↔ job.WriteOpen j) := fun j hj => by
    rw [WriteOpen, WriteOpen, hpipes, Array.getElem?_push, if_neg hj.ne]
  have hcases : ∀ j q, (job.createPipe label).2.pipes[j]? = some q →
      job.pipes[j]? = some q ∨ job.pipes.size = j ∧ q = p := fun j q hq => by
    rw [hpipes, Array.getElem?_push] at hq
    split at hq
    · rename_i hj
      exact .inr ⟨hj.symm, (Option.some.inj hq).symm⟩
    · exact .inl hq
  have hwatches : (job.createPipe label).2.Watches number lasts :=
    { numbered := h.numbered
      there := fun i hi => by
        rw [hpipes, Array.size_push]
        exact Nat.lt_succ_of_lt (h.there i hi)
      read := fun j q hq => by
        obtain hq | ⟨-, rfl⟩ := hcases j q hq
        · exact h.read j q hq
        · simp [hread]
      write := fun j q hq => by
        obtain hq | ⟨rfl, rfl⟩ := hcases j q hq
        · exact h.write j q hq
        · have hnew : job.pipes.size ∉ lasts := fun hmem => (h.there _ hmem).false
          simp [hwrite, hnew] }
  refine ⟨hwatches, by simp [hpipes], fun j hj => (hopen j hj).mp, ?_, fun _ => rfl⟩
  rintro ⟨i, hi, hwas, hclosed⟩
  exact absurd ((hopen i (h.there i hi)).mpr hwas) hclosed

/-- **One thing that happens to a job.** -/
theorem happens (h : job.Watches number lasts) (hone : Happens (· ≠ number) job job') :
    Heeds number lasts job job' := by
  cases hone with
  | call call hp hlabel => exact h.store hp (call.heeds _ hlabel)
  | create label => exact h.createPipe label
  | enter state =>
    refine .of_pipes h rfl (by simp) ?_
    rw [Array.getElem?_push, if_neg h.numbered.ne]
  | mark other state hother =>
    refine .of_pipes h rfl (by simp) ?_
    rw [Array.getElem?_setIfInBounds_ne hother]
  | other hpipes _ hprogress => exact .of_pipes h hpipes (by rw [hprogress]) (by rw [hprogress])

/-- **Whatever becomes of a job.** -/
theorem evolves (h : job.Watches number lasts) (hevolves : job.Evolves (· ≠ number) job') :
    Heeds number lasts job job' := by
  induction hevolves with
  | refl => exact .of_pipes h rfl le_rfl rfl
  | tail _ hone ih => exact ih.trans (ih.watches.happens hone) h

/-- The pipeline is to be told of one pipe more. -/
theorem watch (h : job.Watches number lasts) {i : Nat} {p : Pipe Value}
    (hp : job.pipes[i]? = some p) (hopen : p.writeClosed = false) :
    (job.change i (·.addWriteCallback number)).Watches number (i :: lasts) ∧
      (job.change i (·.addWriteCallback number)).WriteOpen i ∧
      (job.change i (·.addWriteCallback number)).progress = job.progress := by
  have hadd : p.addWriteCallback number =
      ({ p with onWriteClose := p.onWriteClose ++ [number] }, []) := by
    simp [Pipe.addWriteCallback, hopen]
  have hself := store_self hp { p with onWriteClose := p.onWriteClose ++ [number] } []
  rw [change_eq hp, hadd]
  refine ⟨⟨h.numbered, ?_, fun j q hq => ?_, fun j q hq => ?_⟩, ⟨_, hself, hopen⟩, rfl⟩
  · rw [pipes_store, Array.size_setIfInBounds]
    exact List.forall_mem_cons.mpr ⟨(Array.getElem?_eq_some_iff.mp hp).1, h.there⟩
  · obtain ⟨rfl, rfl⟩ | ⟨-, hq⟩ := store_cases hp hq
    · exact h.read j p hp
    · exact h.read j q hq
  · obtain ⟨rfl, rfl⟩ | ⟨hj, hq⟩ := store_cases hp hq
    · simp [hopen]
    · rw [h.write j q hq]
      simp [hj]

end Watches

end Job

/-! ## Machines -/

/-- One thing that happens on a machine besides what is done to the pipeline `number`. -/
inductive Machine.Elsewhere (number : Nat) (m : Machine) : Machine → Prop where
  /-- A task is polled. -/
  | pollTask (budget id : Nat) (t : Task) : Elsewhere number m (m.pollTask budget id t).2
  /-- A turn is taken. -/
  | turn (fuel pool : Nat) : Elsewhere number m (m.turn fuel pool)
  /-- A pool runs until it stalls. -/
  | runStalled (fuel pool : Nat) : Elsewhere number m (m.runStalled fuel pool)
  /-- A pool runs until the main future is done. -/
  | runUntil (fuel pool : Nat) (c : Collector) : Elsewhere number m (m.runUntil fuel pool c).2
  /-- A future outside the pools is polled. -/
  | run {α : Type} (fuel : Nat) (who : Waker) (st : Station) (b : Behavior α) :
      Elsewhere number m { m with job := (st.run fuel who m.job b).2.2 }
  /-- A future outside the pools is given up. -/
  | release (st : Station) : Elsewhere number m (m.onJob st.release)
  /-- Time passes. -/
  | advance (moment : Nat) : Elsewhere number m (m.advance moment)
  /-- A pool is given up with its tasks. -/
  | closePool (pool : Nat) : Elsewhere number m (m.closePool pool)
  /-- Somebody who has a handle calls a pipe. -/
  | call {i : Nat} {p : Pipe Value} (call : Pipe.Call Value) (pipe : m.job.pipes[i]? = some p)
      (label : ∀ label, call.label? = some label → label ≠ number) :
      Elsewhere number m (m.onJob (·.store i (call.apply p).2.1 (call.apply p).2.2))
  /-- A pipe is created. -/
  | createPipe (label : String) : Elsewhere number m (m.onJob fun job => (job.createPipe label).2)
  /-- A timer is cancelled. -/
  | cancelTimer (id : Nat) : Elsewhere number m (m.onJob fun job => (job.cancelTimer id).2)
  /-- The line is interrupted. -/
  | interrupt : Elsewhere number m (m.onJob (·.interrupt))
  /-- The line is torn down by an interrupt. -/
  | interruptHard : Elsewhere number m (m.onJob (·.interruptHard))
  /-- The line is torn down. -/
  | teardown : Elsewhere number m (m.onJob (·.teardown))
  /-- Another pipeline is made. -/
  | create (line : String) : Elsewhere number m (Pipeline.create line m).2
  /-- Another pipeline is validated. -/
  | validate (q : Pipeline) (other : q.number ≠ number) : Elsewhere number m (q.validate m).2.2
  /-- Another pipeline is executed. -/
  | execute (q : Pipeline) (other : q.number ≠ number) (pool : Option Nat) :
      Elsewhere number m (q.execute pool m).2.2
  /-- Something changes that is neither a pipe nor a signal nor a pipeline. -/
  | other {m' : Machine} (pipes : m'.job.pipes = m.job.pipes)
      (signals : m'.job.signals = m.job.signals) (progress : m'.job.progress = m.job.progress) :
      Elsewhere number m m'

/-- Any number of things that happen on a machine besides what is done to the pipeline `number`. -/
def Machine.Passes (number : Nat) : Machine → Machine → Prop :=
  Relation.ReflTransGen (Machine.Elsewhere number)

namespace Machine

variable {number : Nat} {lasts : List Nat} {m m' : Machine}

theorem Elsewhere.evolves (h : m.Elsewhere number m') : m.job.Evolves (· ≠ number) m'.job := by
  cases h with
  | pollTask budget id t => exact evolves_pollTask budget id t m
  | turn fuel pool => exact evolves_turn fuel pool m
  | runStalled fuel pool => exact evolves_runStalled fuel pool m
  | runUntil fuel pool c => exact evolves_runUntil fuel pool c m
  | run fuel who st b => exact Station.evolves_run fuel who st m.job b
  | release st => exact st.evolves_release m.job
  | advance moment => exact evolves_advance moment m
  | closePool pool => exact evolves_closePool pool m
  | call call hp hlabel => exact .single (.call call hp hlabel)
  | createPipe label => exact Job.evolves_createPipe m.job label
  | cancelTimer id => exact Job.evolves_cancelTimer id
  | interrupt => exact Job.evolves_interrupt
  | interruptHard => exact Job.evolves_interruptHard
  | teardown => exact Job.evolves_teardown
  | create line => exact Pipeline.evolves_create line m
  | validate q hother => exact Pipeline.evolves_validate hother m
  | execute q hother pool => exact Pipeline.evolves_execute hother pool m
  | other hpipes hsignals hprogress => exact .other hpipes hsignals hprogress

theorem Passes.evolves (h : m.Passes number m') : m.job.Evolves (· ≠ number) m'.job := by
  induction h with
  | refl => exact .refl
  | tail _ hone ih => exact ih.trans hone.evolves

end Machine

/-! ## Pipelines -/

/-- A line that has not been validated is read now, and valid if it has no errors. -/
theorem CommandLine.validate_unread (resolve : String → Option String) {c : CommandLine}
    (h : c.state.rank < LineState.validated.rank) :
    (c.validate resolve).1 = true ∧ (c.validate resolve).2.state = .validated ∧
        (c.validate resolve).2.errors = [] ∨
      (c.validate resolve).1 = false ∧ (c.validate resolve).2.state = .parsed := by
  have hparsed : c.parse.state = .parsed := by
    rw [CommandLine.parse]
    split
    · rfl
    · revert h
      cases hstate : c.state <;> simp_all [LineState.rank]
  simp only [CommandLine.validate, hparsed]
  by_cases herrors : (c.parse.stages.filterMap (CommandLine.stageError? resolve)).isEmpty
  · exact .inl (by simpa using herrors)
  · exact .inr (by simpa using herrors)

namespace Pipeline

variable {p : Pipeline} {m m' : Machine} {job job' : Job} {lasts : List Nat}

theorem state_eq (p : Pipeline) (job : Job) :
    p.state job = (job.progress[p.number]?).getD .unparsed := Array.getD_eq_getD_getElem?

theorem state_setState (hnumber : p.number < job.progress.size) (state : LineState) :
    p.state (p.setState state job) = state := by
  rw [state_eq, setState, Array.getElem?_setIfInBounds_self_of_lt hnumber, Option.getD_some]

/-- A pipeline that watches pipes is finished when one of them closes, and stays where it is
otherwise. -/
theorem state_heeds (h : Job.Heeds p.number lasts job job') :
    ((∃ i ∈ lasts, job.WriteOpen i ∧ ¬ job'.WriteOpen i) → p.state job' = .finished) ∧
      ((∀ i ∈ lasts, job.WriteOpen i → job'.WriteOpen i) → p.state job' = p.state job) := by
  refine ⟨fun hcloses => ?_, fun hstays => ?_⟩
  · rw [state_eq, h.finishes hcloses, Option.getD_some]
  · rw [state_eq, state_eq, h.stays hstays]

theorem state_heeds_cases (h : Job.Heeds p.number lasts job job') :
    p.state job' = .finished ∨ p.state job' = p.state job := by
  obtain ⟨hfinishes, hstays⟩ := state_heeds h
  by_cases hcloses : ∃ i ∈ lasts, job.WriteOpen i ∧ ¬ job'.WriteOpen i
  · exact .inl (hfinishes hcloses)
  · refine .inr (hstays fun i hi hopen => ?_)
    by_contra hclosed
    exact hcloses ⟨i, hi, hopen, hclosed⟩

/-- What happens elsewhere does not move a pipeline back. -/
theorem rank_heeds (h : Job.Heeds p.number lasts job job') :
    (p.state job).rank ≤ (p.state job').rank := by
  obtain hstate | hstate := state_heeds_cases h <;> rw [hstate]
  exact LineState.rank_le_finished _

/-- A pipeline whose executions have answered the pipes `lasts`: its mark is that of its line until
it is executed, and only a validated line is executed. -/
structure Tracked (p : Pipeline) (m : Machine) (lasts : List Nat) : Prop where
  watches : m.job.Watches p.number lasts
  line : p.line.state = .validated ∧ p.line.errors = [] ∧
      LineState.validated.rank ≤ (p.state m.job).rank ∨
    p.line.state.rank < LineState.validated.rank ∧ p.state m.job = p.line.state ∧ lasts = []

theorem tracked_create {m : Machine} (line : String) (hnew : ∀ q ∈ m.job.pipes,
    m.job.progress.size ∉ q.onReadClose ∧ m.job.progress.size ∉ q.onWriteClose) :
    (create line m).1.Tracked (create line m).2 [] := by
  have hmem : ∀ (i : Nat) (q : Pipe Value), m.job.pipes[i]? = some q → q ∈ m.job.pipes :=
    fun _ _ hq => Array.mem_of_getElem? hq
  refine ⟨⟨by simp [create, Machine.onJob], by simp, fun i q hq => (hnew q (hmem i q hq)).1,
    fun i q hq => ?_⟩, .inr ⟨Nat.two_pos, ?_, rfl⟩⟩
  · exact ⟨fun h => absurd h (hnew q (hmem i q hq)).2, by simp⟩
  · simp [state_eq, create, Machine.onJob]

theorem Tracked.heeds (h : p.Tracked m lasts) (hheeds : Job.Heeds p.number lasts m.job m'.job) :
    p.Tracked m' lasts := by
  refine ⟨hheeds.watches, ?_⟩
  obtain ⟨hstate, herrors, hrank⟩ | ⟨hrank, hstate, rfl⟩ := h.line
  · exact .inl ⟨hstate, herrors, hrank.trans (rank_heeds hheeds)⟩
  · have hsame := (state_heeds hheeds).2 (by simp)
    exact .inr ⟨hrank, hsame.trans hstate, rfl⟩

/-! ## Validating -/

/-- What validating makes of a pipeline. -/
theorem Tracked.validate (h : p.Tracked m lasts) :
    (p.validate m).2.1.Tracked (p.validate m).2.2 lasts ∧
      (p.validate m).2.1.state (p.validate m).2.2.job = (p.validate m).2.1.line.state ∧
      p.line.state.rank ≤ (p.validate m).2.1.line.state.rank ∧
      ((p.validate m).1 = .ok () ↔ (p.validate m).2.1.line.state = .validated) := by
  have hstate : (p.validate m).2.1.state (p.validate m).2.2.job = (p.validate m).2.1.line.state :=
    state_setState h.watches.numbered _
  have hwatches : (p.validate m).2.2.job.Watches p.number lasts :=
    h.watches.of_pipes rfl (by simp [Pipeline.validate, Machine.onJob, setState])
  obtain ⟨hline, herrors, -⟩ | ⟨hrank, -, rfl⟩ := h.line
  · have hvalid := validate_valid hline herrors m
    rw [hvalid] at hstate hwatches ⊢
    exact ⟨⟨hwatches, .inl ⟨hline, herrors, by rw [hstate, hline]⟩⟩, hstate, le_rfl,
      by simp [hline]⟩
  · have hread := CommandLine.validate_unread m.job.shell.resolve? hrank
    have hmade : (p.validate m).1 =
        if (p.line.validate m.job.shell.resolve?).1 then .ok ()
        else .error (p.line.validate m.job.shell.resolve?).2.errors := rfl
    have hline : (p.validate m).2.1.line = (p.line.validate m.job.shell.resolve?).2 := rfl
    rw [← hline] at hread
    obtain ⟨hvalid, hvalidated, hnone⟩ | ⟨hinvalid, hparsed⟩ := hread
    · rw [hvalid, if_pos rfl] at hmade
      exact ⟨⟨hwatches, .inl ⟨hvalidated, hnone, by rw [hstate, hvalidated]⟩⟩, hstate,
        by rw [hvalidated]; exact hrank.le, by simp [hmade, hvalidated]⟩
    · rw [hinvalid, if_neg Bool.false_ne_true] at hmade
      have hbehind : LineState.parsed.rank < LineState.validated.rank := by decide
      refine ⟨⟨hwatches, .inr ⟨by rw [hparsed]; exact hbehind, hstate, rfl⟩⟩, hstate, ?_,
        by simp [hmade, hparsed]⟩
      rw [hparsed]
      exact Nat.le_of_lt_succ hrank

/-! ## Executing -/

/-- Stages that have all been started have left what there was alone; the last of their pipes is
new, and open. -/
theorem startStages_last {pool : Option Nat} {stages : List Stage} {previous : Option Nat}
    {last : Nat} (h : startStages pool stages previous m = (.ok (some last), m')) :
    (∀ k < m.job.pipes.size, m'.job.pipes[k]? = m.job.pipes[k]?) ∧
      m'.job.progress = m.job.progress ∧ (previous = some last ∧ m' = m ∨ m.job.pipes.size ≤ last ∧
        ∃ name capacity, m'.job.pipes[last]? = some (linked name capacity)) := by
  induction stages generalizing previous m with
  | nil =>
    simp only [startStages, Prod.mk.injEq, Except.ok.injEq] at h
    obtain ⟨rfl, rfl⟩ := h
    exact ⟨fun _ _ => rfl, rfl, .inl ⟨rfl, rfl⟩⟩
  | cons stage stages ih =>
    cases hspec : m.job.shell.command? stage.command with
    | none => simp [startStages, hspec] at h
    | some spec =>
      cases pool with
      | none => simp [startStages, hspec] at h
      | some pool =>
        rw [startStages_cons hspec] at h
        obtain ⟨name, records, hjob⟩ := createPipe_linked spec.name m.job
        have hadd : (addStage pool spec stage.args previous m).job = { m.job with
            pipes := m.job.pipes.push (linked name m.job.shell.config.capacity)
            records := records } := hjob
        obtain ⟨hold, hprogress, hlast⟩ := ih h
        rw [hadd, Array.size_push] at hlast hold
        refine ⟨fun k hk => ?_, by rw [hprogress, hadd], .inr ?_⟩
        · rw [hold k (Nat.lt_succ_of_lt hk), Array.getElem?_push, if_neg hk.ne]
        · obtain ⟨hlast, -⟩ | ⟨hle, hpipe⟩ := hlast
          · obtain rfl := Option.some.inj hlast
            refine ⟨le_rfl, name, m.job.shell.config.capacity, ?_⟩
            rw [hold _ (Nat.lt_succ_self _), Array.getElem?_push, if_pos rfl]
          · exact ⟨Nat.le_of_succ_le hle, hpipe⟩

/-- What executing a pipeline comes to: the answer, the pipeline and the machine after it. -/
structure Executes (p : Pipeline) (m : Machine) (lasts : List Nat) (answer : Except ShellError Nat)
    (p' : Pipeline) (m' : Machine) : Prop where
  number : p'.number = p.number
  tracked : p'.Tracked m' (answer.toOption.toList ++ lasts)
  /-- The pipeline is not moved back, unless it was finished. -/
  forward : p.state m.job ≠ .finished → (p.state m.job).rank ≤ (p'.state m'.job).rank
  /-- A pipeline all of whose stages have been started is running. -/
  running : ∀ last, answer = .ok last → p'.state m'.job = .running
  /-- Its last pipe is new, and open. -/
  fresh : ∀ last, answer = .ok last → m.job.pipes.size ≤ last ∧ m'.job.WriteOpen last
  /-- The pipes that were there are left alone. -/
  old : ∀ last, answer = .ok last → ∀ k < m.job.pipes.size, m'.job.pipes[k]? = m.job.pipes[k]?

/-- An execution that answers an error has no pipe to watch. -/
theorem Executes.failed {p' : Pipeline} {m' : Machine} {error : ShellError}
    (hnumber : p'.number = p.number) (htracked : p'.Tracked m' lasts)
    (hforward : p.state m.job ≠ .finished → (p.state m.job).rank ≤ (p'.state m'.job).rank) :
    Executes p m lasts (.error error) p' m' := by
  refine ⟨hnumber, htracked, hforward, ?_, ?_, ?_⟩ <;> rintro _ ⟨⟩

/-- A pipeline whose stages are about to be started is running. -/
theorem Tracked.announce (h : p.Tracked m lasts) : p.state (p.announce m).job = .running ∧
    (p.announce m).job.Watches p.number lasts := by
  refine ⟨?_, h.watches.of_pipes rfl (by simp [Pipeline.announce, Machine.onJob, setState])⟩
  rw [Pipeline.announce, Machine.onJob]
  exact state_setState h.watches.numbered .running

/-- A pipeline of a validated line is executed. -/
theorem Tracked.executes_valid (h : p.Tracked m lasts) (hline : p.line.state = .validated)
    (pool : Option Nat) : Executes p m lasts (p.execute pool m).1 (p.execute pool m).2.1
      (p.execute pool m).2.2 := by
  obtain ⟨-, herrors, -⟩ | ⟨hrank, -, -⟩ := h.line
  case inr => exact absurd hrank (by rw [hline]; exact lt_irrefl _)
  obtain ⟨hannounced, hwatches⟩ := h.announce
  have hstarted : (p.announce m).job.Evolves (· ≠ p.number)
      (startStages pool p.line.stages none (p.announce m)).2.job := evolves_startStages _ _ _ _
  have hheeds := hwatches.evolves hstarted
  have hreached := rank_heeds hheeds
  rw [hannounced] at hreached
  have hvalid : LineState.validated.rank ≤ LineState.running.rank := by decide
  rw [execute_valid hline herrors]
  -- a stage has not started, there is none, or all have been started
  rcases hstart : startStages pool p.line.stages none (p.announce m) with ⟨_ | _ | last, m₁⟩ <;>
    rw [hstart] at hheeds hreached
  · exact .failed rfl ⟨hheeds.watches, .inl ⟨hline, herrors, hvalid.trans hreached⟩⟩
      fun hne => (LineState.rank_le_running hne).trans hreached
  · have hfinished : p.state (p.setState .finished m₁.job) = .finished :=
      state_setState hheeds.watches.numbered _
    have hmarked : (p.setState .finished m₁.job).Watches p.number lasts :=
      hheeds.watches.of_pipes rfl (by simp [setState])
    have hover : ∀ state : LineState, state.rank ≤ (p.state (p.setState .finished m₁.job)).rank :=
      fun state => by rw [hfinished]; exact state.rank_le_finished
    exact .failed rfl ⟨hmarked, .inl ⟨hline, herrors, hover _⟩⟩ fun _ => hover _
  · obtain ⟨hold, hprogress, ⟨hnone, -⟩ | ⟨hle, name, capacity, hpipe⟩⟩ := startStages_last hstart
    · cases hnone
    obtain ⟨hwatched, hopen, hkept⟩ := hheeds.watches.watch hpipe rfl
    have hrunning : p.state (m₁.job.change last (·.addWriteCallback p.number)) = .running := by
      rw [state, hkept, hprogress]
      exact hannounced
    have hafter : LineState.running.rank ≤
        (p.state (m₁.job.change last (·.addWriteCallback p.number))).rank := by rw [hrunning]
    refine ⟨rfl, ⟨hwatched, .inl ⟨hline, herrors, hvalid.trans hafter⟩⟩,
      fun hne => (LineState.rank_le_running hne).trans hafter, ?_, ?_, ?_⟩ <;> rintro _ ⟨⟩
    · exact hrunning
    · exact ⟨hle, hopen⟩
    · intro k hk
      change (m₁.job.change last (·.addWriteCallback p.number)).pipes[k]? = m.job.pipes[k]?
      rw [Job.change_eq hpipe]
      exact (Job.store_other (hk.trans_le hle).ne _ _ _).trans (hold k hk)

/-- **An execution**, of a pipeline that is validated first if that is still to come. -/
theorem Tracked.executes (h : p.Tracked m lasts) (pool : Option Nat) :
    Executes p m lasts (p.execute pool m).1 (p.execute pool m).2.1 (p.execute pool m).2.2 := by
  obtain ⟨hline, -, -⟩ | ⟨hrank, hstate, rfl⟩ := h.line
  · exact h.executes_valid hline pool
  · have hne : p.state m.job ≠ .validated := fun hvalidated => by
      rw [hstate] at hvalidated
      exact absurd hrank (by rw [hvalidated]; exact lt_irrefl _)
    -- the line is validated first; if it is valid, the rest is the execution of a valid line
    obtain ⟨htracked, hmarked, hle, hvalid⟩ := h.validate
    have hnumber : (p.validate m).2.1.number = p.number := rfl
    have hpipes : (p.validate m).2.2.job.pipes = m.job.pipes := rfl
    rcases hchecked : p.validate m with ⟨errors | ⟨⟩, p', m'⟩ <;>
      rw [hchecked] at htracked hmarked hle hvalid hnumber hpipes <;>
      dsimp only at htracked hmarked hle hvalid hnumber hpipes
    · have hrefused : p.execute pool m = (.error (errors.headD (.invalidArgument "")), p', m') := by
        simp [execute, hne, hchecked]
      rw [hrefused]
      exact .failed hnumber htracked fun _ => by rw [hstate, hmarked]; exact hle
    · have hline : p'.line.state = .validated := hvalid.mp rfl
      have hready : p'.state m'.job = .validated := hmarked.trans hline
      have hsame : p.execute pool m = p'.execute pool m' := by
        simp only [execute, hne, hready, if_false, if_true, hchecked]
      obtain ⟨hkept, hafter, hforward, hrunning, hfresh, hold⟩ := htracked.executes_valid hline pool
      rw [hsame]
      rw [hpipes] at hfresh hold
      refine ⟨hkept.trans hnumber, hafter, fun _ => ?_, hrunning, hfresh, hold⟩
      rw [hready] at hforward
      rw [hstate]
      exact hrank.le.trans (hforward (by decide))

/-! ## A run -/

/-- What becomes of a pipeline, its machine and the pipes that its executions answer, newest first,
while it is validated and executed and other things happen in between. Who is careful does not
validate a pipeline that has been executed, nor execute one that is finished. -/
inductive Driven (careful : Bool) (p₀ : Pipeline) (m₀ : Machine) (lasts₀ : List Nat) :
    Pipeline → Machine → List Nat → Prop where
  | start : Driven careful p₀ m₀ lasts₀ p₀ m₀ lasts₀
  | validate {p : Pipeline} {m : Machine} {lasts : List Nat}
      (before : Driven careful p₀ m₀ lasts₀ p m lasts)
      (care : careful = true → (p.state m.job).rank ≤ LineState.validated.rank) :
      Driven careful p₀ m₀ lasts₀ (p.validate m).2.1 (p.validate m).2.2 lasts
  | execute {p : Pipeline} {m : Machine} {lasts : List Nat} (pool : Option Nat)
      (before : Driven careful p₀ m₀ lasts₀ p m lasts)
      (care : careful = true → p.state m.job ≠ .finished) :
      Driven careful p₀ m₀ lasts₀ (p.execute pool m).2.1 (p.execute pool m).2.2
        ((p.execute pool m).1.toOption.toList ++ lasts)
  | elsewhere {p : Pipeline} {m m' : Machine} {lasts : List Nat}
      (before : Driven careful p₀ m₀ lasts₀ p m lasts) (passes : m.Elsewhere p.number m') :
      Driven careful p₀ m₀ lasts₀ p m' lasts

section Driven

variable {careful : Bool} {p₀ : Pipeline} {m₀ : Machine} {lasts₀ : List Nat}

theorem Driven.tracked (h : Driven careful p₀ m₀ lasts₀ p m lasts) (h₀ : p₀.Tracked m₀ lasts₀) :
    p.Tracked m lasts := by
  induction h with
  | start => exact h₀
  | validate _ _ ih => exact ih.validate.1
  | execute pool _ _ ih => exact (ih.executes pool).tracked
  | elsewhere _ hone ih => exact ih.heeds (ih.watches.evolves hone.evolves)

/-- Who is careful does not move a pipeline back. -/
theorem Driven.forward (h : Driven true p₀ m₀ lasts₀ p m lasts) (h₀ : p₀.Tracked m₀ lasts₀) :
    (p₀.state m₀.job).rank ≤ (p.state m.job).rank := by
  induction h with
  | start => exact le_rfl
  | @validate p m lasts before care ih =>
    have htracked := before.tracked h₀
    obtain ⟨-, hmarked, hle, -⟩ := htracked.validate
    refine ih.trans ?_
    rw [hmarked]
    obtain ⟨hline, -, -⟩ | ⟨-, hstate, -⟩ := htracked.line
    · rw [hline] at hle
      exact (care rfl).trans hle
    · rwa [hstate]
  | execute pool before care ih =>
    exact ih.trans (((before.tracked h₀).executes pool).forward (care rfl))
  | elsewhere before hone ih =>
    exact ih.trans (rank_heeds ((before.tracked h₀).watches.evolves hone.evolves))

end Driven

/-- How the state of a pipeline moves whose executions have answered the pipes `lasts`. -/
structure Advances (p : Pipeline) (m : Machine) (lasts : List Nat) : Prop where
  /-- In careful hands it is never moved back. -/
  forward : ∀ p' m' lasts', Driven true p m lasts p' m' lasts' →
    (p.state m.job).rank ≤ (p'.state m'.job).rank
  /-- What happens elsewhere finishes it if one of the pipes closes for writing. -/
  finishes : ∀ m', m.Passes p.number m' → (∃ i ∈ lasts, m.job.WriteOpen i ∧ ¬ m'.job.WriteOpen i) →
    p.state m'.job = .finished
  /-- As long as none does, it is left where it was. -/
  stays : ∀ m', m.Passes p.number m' → (∀ i ∈ lasts, m.job.WriteOpen i → m'.job.WriteOpen i) →
    p.state m'.job = p.state m.job
  /-- A validation puts it back if it has been executed. -/
  revalidated : LineState.validated.rank ≤ (p.state m.job).rank →
    (p.validate m).2.1.state (p.validate m).2.2.job = .validated
  /-- When all its stages have been started it is running; the pipe of the last one is new, and
  open for writing. -/
  running : ∀ pool last p' m', p.execute pool m = (.ok last, p', m') →
    p'.state m'.job = .running ∧ m.job.pipes.size ≤ last ∧ m'.job.WriteOpen last
  /-- From then on it is finished once this pipe has closed, or one that an earlier execution has
  left open. -/
  finished : ∀ pool last p' m', p.execute pool m = (.ok last, p', m') →
    ∀ m'', m'.Passes p'.number m'' → (p'.state m''.job = .finished ↔
      ¬ m''.job.WriteOpen last ∨ ∃ i ∈ lasts, m.job.WriteOpen i ∧ ¬ m''.job.WriteOpen i)

theorem Tracked.advances (h : p.Tracked m lasts) : p.Advances m lasts where
  forward _ _ _ hdriven := hdriven.forward h
  finishes _ hpasses := (state_heeds (h.watches.evolves hpasses.evolves)).1
  stays _ hpasses := (state_heeds (h.watches.evolves hpasses.evolves)).2
  revalidated hrank := by
    obtain ⟨hline, herrors, -⟩ | ⟨hbehind, hstate, -⟩ := h.line
    · rw [h.validate.2.1, validate_valid hline herrors]
      exact hline
    · rw [hstate] at hrank
      exact absurd hbehind hrank.not_gt
  running pool last p' m' hexecute := by
    have hexecutes := h.executes pool
    rw [hexecute] at hexecutes
    exact ⟨hexecutes.running last rfl, hexecutes.fresh last rfl⟩
  finished pool last p' m' hexecute m'' hpasses := by
    have hexecutes := h.executes pool
    rw [hexecute] at hexecutes
    have hrunning := hexecutes.running last rfl
    obtain ⟨hle, hopen⟩ := hexecutes.fresh last rfl
    have hold : ∀ i ∈ lasts, (m'.job.WriteOpen i ↔ m.job.WriteOpen i) := fun i hi => by
      rw [Job.WriteOpen, Job.WriteOpen, hexecutes.old last rfl i (h.watches.there i hi)]
    obtain ⟨hfinishes, hstays⟩ :=
      state_heeds (hexecutes.tracked.watches.evolves hpasses.evolves)
    constructor
    · intro hfinished
      by_contra! hnone
      rw [hstays fun i hi hwas => ?_, hrunning] at hfinished
      · exact nomatch hfinished
      · rcases List.mem_cons.mp hi with rfl | hi
        · exact hnone.1
        · exact hnone.2 i hi ((hold i hi).mp hwas)
    · rintro (hclosed | ⟨i, hi, hwas, hclosed⟩)
      · exact hfinishes ⟨last, List.mem_cons_self, hopen, hclosed⟩
      · exact hfinishes ⟨i, List.mem_cons_of_mem _ hi, (hold i hi).mpr hwas, hclosed⟩

/-- **How far a pipeline has come.** Whatever has been done to a pipeline since it was made, in any
order, and whatever has happened on its machine in between: its state is never moved back but by a
validation after an execution and by an execution after the end; and after an execution that has
started all stages it is running, and finished exactly when its last pipe has closed for writing, or
one that an earlier execution has left open. A pipeline is made under a number for which nobody has
registered a callback yet. -/
theorem driven_advances (line : String) (m₀ : Machine) (hnew : ∀ q ∈ m₀.job.pipes,
      m₀.job.progress.size ∉ q.onReadClose ∧ m₀.job.progress.size ∉ q.onWriteClose)
    (p : Pipeline) (m : Machine) (lasts : List Nat)
    (h : Driven false (create line m₀).1 (create line m₀).2 [] p m lasts) : p.Advances m lasts :=
  (h.tracked (tracked_create line hnew)).advances

/-- A line of one stage is executed, and its pipe is torn down. -/
theorem driven_advances_torn :
    let m₀ : Machine := { job := { shell := {} }, programs := fun _ => none }
    let made := create "echo a" m₀
    let valid := (made.1.validate made.2).2
    let begun := valid.1.execute (some 0) valid.2
    let torn := begun.2.2.onJob (·.teardown)
    (∀ q ∈ m₀.job.pipes,
      m₀.job.progress.size ∉ q.onReadClose ∧ m₀.job.progress.size ∉ q.onWriteClose) ∧
    Driven false made.1 made.2 [] valid.1 valid.2 [] ∧ begun.1 = .ok 0 ∧
      begun.2.1.state begun.2.2.job = .running ∧ begun.2.1.state torn.job = .finished := by
  intro m₀ made valid begun torn
  have hnew : ∀ q ∈ m₀.job.pipes,
      m₀.job.progress.size ∉ q.onReadClose ∧ m₀.job.progress.size ∉ q.onWriteClose :=
    fun q hq => absurd hq (by simp [m₀])
  have hvalid : Driven false made.1 made.2 [] valid.1 valid.2 [] := .validate .start nofun
  have hadvances := driven_advances "echo a" m₀ hnew valid.1 valid.2 [] hvalid
  have hbegun : begun.1 = .ok 0 := by decide +kernel
  have hshut : (torn.job.pipes[0]?).map (·.writeClosed) = some true := by decide +kernel
  have hexecute : valid.1.execute (some 0) valid.2 = begun := rfl
  clear_value begun
  replace hexecute : valid.1.execute (some 0) valid.2 = (.ok 0, begun.2.1, begun.2.2) :=
    hexecute.trans (Prod.ext hbegun rfl)
  have hpasses : begun.2.2.Passes begun.2.1.number torn := .single .teardown
  have hclosed : ¬ torn.job.WriteOpen 0 := by
    rintro ⟨q, hq, hopen⟩
    rw [hq, Option.map_some, hopen] at hshut
    exact Bool.false_ne_true (Option.some.inj hshut)
  exact ⟨hnew, hvalid, hbegun, (hadvances.running _ _ _ _ hexecute).1,
    (hadvances.finished _ _ _ _ hexecute torn hpasses).mpr (.inl hclosed)⟩

/-- A pipeline that is running is put back by a validation. -/
theorem running_put_back :
    let m₀ : Machine := { job := { shell := {} }, programs := fun _ => none }
    let made := create "echo a" m₀
    let valid := (made.1.validate made.2).2
    let begun := (valid.1.execute (some 0) valid.2).2
    let again := (begun.1.validate begun.2).2
    begun.1.state begun.2.job = .running ∧ again.1.state again.2.job = .validated ∧
      LineState.validated.rank < LineState.running.rank := by
  decide +kernel

end Pipeline

end Pipework
