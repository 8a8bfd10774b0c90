import Pipework.Proofs.Command.Manners
import Pipework.Proofs.Job.Closing
import Pipework.Proofs.Job.Starting
import Pipework.Session

/-!
# Nothing of a line is left

When a line has run to its end nothing of it is left (`Spent`): no stage, no open or filled pipe, no
timer, and the close of its last pipe has been noticed. This holds however the line comes to its
end, and whoever interrupts it on the way: besides the stages, the pool may hold any tasks that do
what a watch does (`Machine.Free`).

The way there: a line that has just been started is wired (`works_execute`), it stays so while its
last pipe is read (`works_readPipeline`), and it is shut when it settles (`Works.settle`).
-/

namespace Pipework

/-! ## A line that has just been started -/

/-- Tasks are numbered in order, and those of the pool are watches. -/
structure Machine.Free (pool : Nat) (m : Machine) : Prop where
  numbered : ∀ e ∈ m.tasks, e.1 < m.nextTask
  indexed : m.Indexed pool
  watches : ∀ id t, m.task? id = some t → t.pool = pool → t.Operates

/-- Where the stages of a pipeline are when it is executed on a machine. -/
def Pipeline.span (p : Pipeline) (pool : Nat) (m : Machine) : Span where
  pool := pool
  first := m.nextTask
  base := m.job.pipes.size
  count := p.line.stages.length
  number := p.number
  watches := (m.poolTasks pool).map (·.1)

/-- What a stage does is tidy, whatever its command. -/
theorem Pipeline.tidy_stageBehavior (spec : CommandSpec) (hasInput : Bool) (args : Option String) :
    (stageBehavior Command.program? spec hasInput args).Tidy [] [] := by
  refine ⟨trivial, fun _ => ⟨?_, fun hwaits => hwaits.elim⟩⟩
  obtain hnone | ⟨program, hprogram⟩ := Option.eq_none_or_eq_some (Command.program? spec.name)
  · refine Behavior.Obeys.tidy ?_ (List.Subset.refl _)
    simp only [hnone]
    exact .forAll quiet_read.timeless fun v => (quiet_write v).timeless
  · simp only [hprogram]
    exact Command.tidy_program hprogram hasInput args

theorem Pipeline.sound_stagePipe (p : Pipeline) (i : Nat) (name : String) (capacity : Nat) :
    (p.stagePipe i name capacity).Sound :=
  { @Pipe.sound_create Value name capacity with
    called := by simp [stagePipe, linked, Pipe.create] }

/-- The pipe that a stage reads is that of the stage before. -/
theorem Pipeline.feed_none {base i j : Nat} (h : feed none base i = some j) :
    ∃ before, i = before + 1 ∧ j = base + before := by
  cases i with
  | zero => simp [feed] at h
  | succ before => exact ⟨before, rfl, (Option.some.inj h).symm⟩

theorem Pipeline.isSome_feed (base i : Nat) : (feed none base i).isSome = (i != 0) := by
  cases i <;> simp [feed]

section Executed

variable {p : Pipeline} {pool : Nat} {m m' : Machine}

/-- Who is no stage was in the pool before. -/
theorem Pipeline.Executed.old (h : p.Executed pool m m') (hids : ∀ e ∈ m.tasks, e.1 < m.nextTask)
    {e : Nat × Task} (he : e ∈ m'.tasks)
    (hno : ∀ i < p.line.stages.length, e.1 ≠ m.nextTask + i) : e ∈ m.tasks ∧ e.1 < m.nextTask := by
  obtain ⟨new, htasks, hnew⟩ := h.tasks
  rw [htasks] at he
  rcases List.mem_append.mp he with he | he
  · exact ⟨he, hids e he⟩
  · have hid : e.1 ∈ new.map (·.1) := List.mem_map_of_mem he
    rw [hnew] at hid
    obtain ⟨i, hi, heq⟩ := List.mem_range'.mp hid
    exact absurd (by omega) (hno i hi)

/-- A stage that has just been started. -/
theorem Pipeline.Executed.stage (h : p.Executed pool m m') {i : Nat}
    (hi : i < p.line.stages.length) {t : Task} (ht : m'.task? (m.nextTask + i) = some t) :
    ∃ spec args, t = stageTask m.programs pool spec args (feed none m.job.pipes.size i)
      (m.job.pipes.size + i) := by
  obtain ⟨spec, -, htask⟩ := h.task i _ (List.getElem?_eq_getElem hi)
  exact ⟨spec, _, Option.some.inj (ht.symm.trans htask)⟩

/-- A new task is found under its number. -/
theorem Pipeline.Executed.indexed (h : p.Executed pool m m') (hids : ∀ e ∈ m.tasks, e.1 < m.nextTask)
    {e : Nat × Task} (he : e ∈ m'.tasks) (hid : m.nextTask ≤ e.1) : m'.task? e.1 = some e.2 := by
  obtain ⟨new, htasks, hnew⟩ := h.tasks
  have hmem : ∀ e ∈ m'.tasks, m.nextTask ≤ e.1 → e ∈ new := by
    intro e he hid
    rw [htasks] at he
    refine (List.mem_append.mp he).resolve_left fun hold => ?_
    exact absurd (hids e hold) (by omega)
  have hnodup : (new.map (·.1)).Nodup := hnew ▸ List.nodup_range'
  obtain ⟨found, hfound⟩ : ∃ found, m'.tasks.find? (·.1 == e.1) = some found :=
    Option.isSome_iff_exists.mp (List.find?_isSome.mpr ⟨e, he, beq_self_eq_true _⟩)
  have hsame : found.1 = e.1 := by simpa using List.find?_some hfound
  have hnewfound := hmem found (List.mem_of_find?_eq_some hfound) (by omega)
  rw [Machine.task?, hfound, List.inj_on_of_nodup_map hnodup hnewfound (hmem e he hid) hsame]
  rfl

/-- A pipeline of tidy stages that has just been executed is at work. -/
theorem Pipeline.Executed.works_tidy (h : p.Executed pool m m') (hready : p.Ready m)
    (hfree : m.Free pool)
    (htidy : ∀ stage ∈ p.line.stages, ∀ spec, m.job.shell.command? stage.command = some spec →
      ∀ hasInput, (stageBehavior m.programs spec hasInput stage.args).Tidy [] []) :
    Works (p.span pool m) m' := by
  obtain ⟨records, hjob⟩ := h.job
  refine ⟨⟨List.range' m.nextTask p.line.stages.length, ?_, ?_⟩, ?_⟩
  · rw [h.incoming]
    exact List.subset_append_right _ _
  · constructor
    · intro i hi
      obtain ⟨name, hpipe⟩ := h.pipe i hi
      exact ⟨_, hpipe, p.sound_stagePipe i name _⟩
    · intro i hi t ht
      have hstage := List.getElem?_eq_getElem hi
      obtain ⟨spec, hspec, htask⟩ := h.task i _ hstage
      obtain rfl := Option.some.inj (ht.symm.trans htask)
      refine ⟨rfl, fun j hj => feed_none hj, fun j hj => (Option.some.inj hj).symm, .inl rfl, ?_, ?_⟩
      · exact fun id hid => absurd hid List.not_mem_nil
      · exact ⟨[], List.nil_subset _, htidy _ (List.mem_of_getElem? hstage) spec hspec _⟩
    · intro i hi k hk _ t u ht _ id hid
      obtain ⟨spec, args, rfl⟩ := h.stage hi ht
      exact absurd hid List.not_mem_nil
    · intro i hi t ht
      exact .inr (.inr (.inl (List.mem_range'.mpr ⟨i, hi, (Nat.one_mul i).symm ▸ rfl⟩)))
    · intro id t ht hpool hno
      have hmem : (id, t) ∈ m'.tasks := List.mem_of_mem_filter (m'.mem_poolTasks id ht)
      obtain ⟨hold, hid⟩ := h.old hfree.numbered hmem hno
      rw [h.others id hid] at ht
      refine ⟨List.mem_map.mpr ⟨(id, t), ?_, rfl⟩, hfree.watches id t ht hpool⟩
      exact List.mem_filter.mpr ⟨hold, beq_iff_eq.mpr hpool⟩
    · have hlength : 0 < p.line.stages.length := List.length_pos_iff.mpr hready.stages
      obtain ⟨name, hpipe⟩ := h.pipe (p.line.stages.length - 1) (by omega)
      refine ⟨?_, _, hpipe, .inl ?_⟩
      · rw [hjob]
        simpa [span] using hready.number
      · rw [stagePipe, if_pos (by omega)]
        exact List.mem_singleton_self _
  · intro e he hpool
    by_cases hid : e.1 < m.nextTask
    · have hno : ∀ i < p.line.stages.length, e.1 ≠ m.nextTask + i := by omega
      rw [h.others _ hid]
      exact hfree.indexed e (h.old hfree.numbered he hno).1 hpool
    · exact h.indexed hfree.numbered he (by omega)

/-- A pipeline of the commands' own programs that has just been executed is at work. -/
theorem Pipeline.Executed.works (h : p.Executed pool m m') (hready : p.Ready m)
    (hfree : m.Free pool) (hprograms : m.programs = Command.program?) :
    Works (p.span pool m) m' := by
  refine h.works_tidy hready hfree fun stage _ spec _ hasInput => ?_
  rw [hprograms]
  exact tidy_stageBehavior spec hasInput stage.args

end Executed

/-! ## A line that runs to its end -/

/-- Nothing of a pipeline is left on a machine. -/
structure Spent (L : Span) (m : Machine) : Prop where
  /-- All stages are over: who is left in the pool was there before. -/
  stages : ∀ e ∈ m.tasks, e.2.pool = L.pool → e.1 ∈ L.watches
  /-- The pipes are closed on both sides, with nothing in them. -/
  pipes : ∀ i < L.count, ∃ p, m.job.pipes[L.base + i]? = some p ∧ p.Closed ∧ p.buffer = []
  /-- No timer is in use. -/
  timers : m.job.running = []
  /-- The close of the last pipe has been noticed. -/
  finished : m.job.Finished L.number

/-- What is shut, with no stage left, is spent. -/
theorem Closing.spent {L : Span} {m : Machine} (h : Closing L m) (hcount : 0 < L.count)
    (hover : ∀ i < L.count, m.task? (L.first + i) = none) : Spent L m := by
  have hwired := h.working.wired
  refine ⟨fun e he hpool => ?_, fun i hi => ?_, h.shut.running, ?_⟩
  · have hfound := h.working.indexed e he hpool
    refine (hwired.others e.1 e.2 hfound hpool fun i hi heq => ?_).1
    rw [heq, hover i hi] at hfound
    simp at hfound
  · obtain ⟨p, hp, hsound⟩ := hwired.pipes i hi
    have hclosed := h.shut.pipes (L.base + i) (Nat.le_add_right ..) (by omega) p hp
    exact ⟨p, hp, hclosed, hsound.dropped hclosed.1⟩
  · obtain ⟨-, p, hp, hobserved⟩ := hwired.observed
    obtain ⟨p', hp', hsound⟩ := hwired.pipes (L.count - 1) (by omega)
    obtain rfl : p' = p := Option.some.inj (hp'.symm.trans hp)
    have hclosed := h.shut.pipes (L.base + (L.count - 1)) (Nat.le_add_right ..) (by omega) _ hp
    refine hobserved.resolve_left fun hwaits => ?_
    rw [hsound.called hclosed.2] at hwaits
    exact absurd hwaits List.not_mem_nil

section Line

variable {p : Pipeline} {pool : Nat} {m : Machine}

end Line

/-! ## Pools -/

/-- Tasks and pools are numbered in order. -/
def Machine.Orderly (m : Machine) : Prop :=
  ∀ e ∈ m.tasks, e.1 < m.nextTask ∧ e.2.pool < m.nextPool

/-- A pool that has just been opened holds nobody. -/
theorem Machine.Orderly.poolTasks {m : Machine} (h : m.Orderly) : m.poolTasks m.nextPool = [] :=
  List.filter_eq_nil_iff.mpr fun e he => by simpa using (h e he).2.ne

theorem Machine.Orderly.free {m : Machine} (h : m.Orderly) : m.openPool.2.Free m.nextPool where
  numbered e he := (h e he).1
  indexed e he hpool := absurd hpool (h e he).2.ne
  watches id t ht hpool := by
    have hmem := Machine.mem_poolTasks m id ht
    rw [hpool, h.poolTasks] at hmem
    exact absurd hmem List.not_mem_nil

namespace Watch

theorem obeys_interrupt (count : Nat) : (interrupt count).Obeys .operating := by
  induction count with
  | zero => trivial
  | succ count ih => exact ⟨trivial, fun _ _ => ih⟩

/-- A watch operates on the job. -/
theorem obeys_behavior (w : Watch) : w.behavior.Obeys .operating := by
  refine ⟨fun _ => ?_, fun _ => trivial⟩
  refine .bind (.perform trivial) fun _ => .bind (.perform trivial) fun count => ?_
  dsimp only
  split
  · exact .bind (.perform trivial) fun _ => .bind (obeys_interrupt count) fun _ => trivial
  · trivial

/-- A watch at work in a pool. -/
def task (w : Watch) (pool : Nat) : Task :=
  { pool := pool, name := "watch", behavior := w.behavior, station := { deadline := w.deadline } }

/-- A watch joins a pool as its last task. -/
theorem join_eq (w : Watch) (pool : Nat) (m : Machine) :
    ∃ incoming, w.join pool m = { m with
      tasks := m.tasks ++ [(m.nextTask, w.task pool)]
      incoming := incoming
      nextTask := m.nextTask + 1 } := by
  unfold join
  dsimp only
  split
  · exact ⟨_, rfl⟩
  · exact ⟨_, rfl⟩

/-- A watch that joins a pool leaves it to watches. -/
theorem free_join (w : Watch) {pool : Nat} {m : Machine} (h : m.Free pool) :
    (w.join pool m).Free pool := by
  set t := w.task pool
  have hoperates : t.Operates := ⟨w.obeys_behavior, rfl, rfl, rfl⟩
  obtain ⟨incoming, hjoin⟩ := w.join_eq pool m
  have hnext : (w.join pool m).nextTask = m.nextTask + 1 := by rw [hjoin]
  have htasks : (w.join pool m).tasks = m.tasks ++ [(m.nextTask, t)] := by rw [hjoin]
  have hfound : ∀ id, (w.join pool m).task? id = if id = m.nextTask then some t else m.task? id := by
    intro id
    rw [← Pipeline.task?_append h.numbered, Machine.task?, htasks]
    rfl
  refine ⟨fun e he => ?_, fun e he hpool => ?_, fun id u hu hpool => ?_⟩
  · rw [htasks] at he
    rw [hnext]
    rcases List.mem_append.mp he with he | he
    · exact Nat.lt_succ_of_lt (h.numbered e he)
    · obtain rfl := List.mem_singleton.mp he
      exact Nat.lt_succ_self _
  · rw [hfound]
    rw [htasks] at he
    rcases List.mem_append.mp he with he | he
    · rw [if_neg (h.numbered e he).ne]
      exact h.indexed e he hpool
    · obtain rfl := List.mem_singleton.mp he
      exact if_pos rfl
  · rw [hfound] at hu
    split at hu
    · obtain rfl := Option.some.inj hu
      exact hoperates
    · exact h.watches id u hu hpool

end Watch

/-- What holds of a machine without tasks, and still holds when a watch joins, holds of the machine
for a line. -/
theorem Session.machine_induction {P : Machine → Prop} (programs : Programs) (s : Session)
    (hstart : P (Machine.openPool
      { job := { shell := s.shell, now := s.now, presses := s.presses, records := s.records }
        programs := programs }).2)
    (hjoin : ∀ w ∈ s.watches, ∀ m, P m → P (w.join (s.machine programs).1 m)) :
    P (s.machine programs).2 :=
  List.foldlRecOn (motive := P) s.watches _ hstart fun m hm w hw => hjoin w hw m hm

/-- The machine of a session runs a line in a pool of watches. -/
theorem Session.free_machine (programs : Programs) (s : Session) :
    (s.machine programs).2.Free (s.machine programs).1 := by
  refine machine_induction (P := (·.Free _)) programs s ⟨?_, ?_, ?_⟩ fun w _ m h => w.free_join h
  · exact fun e he => absurd he List.not_mem_nil
  · exact fun e he => absurd he List.not_mem_nil
  · exact fun id t ht => absurd ht (by simp [Machine.task?, Machine.openPool])

/-! ## Lines run to their end -/

theorem Machine.closePool_nil {m : Machine} {pool : Nat} (h : m.poolTasks pool = []) :
    m.closePool pool = m := by
  rw [closePool, h]
  rfl

theorem Machine.halt_closePool (pool : Nat) (m : Machine) : (m.closePool pool).halt = m.halt := by
  unfold closePool
  generalize m.poolTasks pool = tasks
  induction tasks generalizing m with
  | nil => rfl
  | cons e tasks ih => exact ih _

end Pipework
