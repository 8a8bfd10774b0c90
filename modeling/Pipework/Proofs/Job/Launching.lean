import Pipework.Proofs.Job.Delivering
import Pipework.Proofs.Job.Naming
import Pipework.Proofs.Job.Settling

/-!
# Lines that go as planned

The stages of a line have started as a plan has it (`Pipeline.Suits`) when each of them will make its
first item as planned. So they do on a machine where nobody has been interrupted, as soon as the line
has been executed (`Pipeline.Suits.conveys`). Such a line delivers its goal, all its stages end, and
they leave one signal for each pipe before the cutter (`Pipeline.Suits.runLine`).
-/

namespace Pipework

/-! ## A pipe that has just been created -/

theorem Pipeline.link_stagePipe (p : Pipeline) (i : Nat) (name : String) (capacity : Nat) :
    (p.stagePipe i name capacity).Link (some .fresh) true where
  single :=
    { sound := p.sound_stagePipe i name capacity
      one := Nat.zero_le 1
      ended := fun _ h => absurd h List.not_mem_nil }
  readers := rfl
  writers := rfl
  readClosed := rfl
  writeClosed := rfl
  tickets := by
    rintro state hstate
    obtain rfl := Option.some.inj hstate
    exact ⟨by simp, rfl⟩

theorem Pipeline.channel_stagePipe (p : Pipeline) (i : Nat) (name : String) (capacity : Nat) :
    (p.stagePipe i name capacity).Channel name (max capacity 1) (some .fresh) true :=
  ⟨p.link_stagePipe i name capacity, rfl, rfl, Nat.zero_le _⟩

theorem Pipeline.stock_stagePipe (p : Pipeline) (i : Nat) (name : String) (capacity : Nat) :
    (p.stagePipe i name capacity).stock = [] := rfl

/-! ## A line that has just been started -/

/-- The stages of a pipeline that is about to be executed start as a plan has it. -/
structure Pipeline.Suits (p : Pipeline) (pool : Nat) (m : Machine) (P : Plan) : Prop where
  span : P.toSpan = p.span pool m
  room : P.room = max m.job.shell.config.capacity 1
  name : ∀ i stage spec, p.line.stages[i]? = some stage →
    m.job.shell.command? stage.command = some spec →
      P.name i = pipeName spec.name (m.job.pipes.size + i)
  goes : ∃ n, ∀ i stage spec, p.line.stages[i]? = some stage →
    m.job.shell.command? stage.command = some spec →
      P.Goes i 0 n (.idle i) {} (stageBehavior Command.program? spec (i != 0) stage.args)

namespace Pipeline.Suits

variable {p : Pipeline} {pool last : Nat} {m m₁ : Machine} {P : Plan}

theorem first_eq (h : p.Suits pool m P) : P.first = m.nextTask := congrArg Span.first h.span

theorem base_eq (h : p.Suits pool m P) : P.base = m.job.pipes.size := congrArg Span.base h.span

theorem count_eq (h : p.Suits pool m P) : P.count = p.line.stages.length := congrArg Span.count h.span

theorem pool_eq (h : p.Suits pool m P) : P.pool = pool := congrArg Span.pool h.span

/-- The task of a stage that has just been started. -/
theorem task (h : p.Suits pool m P) (hexecuted : p.Executed pool m m₁) {i : Nat} (hi : i < P.count) :
    ∃ stage spec, p.line.stages[i]? = some stage ∧ m.job.shell.command? stage.command = some spec ∧
      m₁.task? (P.first + i) = some (stageTask m.programs pool spec stage.args
        (feed none P.base i) (P.base + i)) := by
  rw [h.count_eq] at hi
  have hstage := List.getElem?_eq_getElem hi
  obtain ⟨spec, hspec, htask⟩ := hexecuted.task i _ hstage
  rw [h.first_eq, h.base_eq]
  exact ⟨_, spec, hstage, hspec, htask⟩

/-- Each pipe is new, and has the next stage for its reader, or the main future. -/
theorem reader? (h : p.Suits pool m P) (hexecuted : p.Executed pool m m₁) {i : Nat} (hi : i < P.count) :
    P.reader? (some .fresh) m₁.task? i = some .fresh := by
  unfold Plan.reader?
  split
  · rfl
  · obtain ⟨stage, spec, -, -, htask⟩ := h.task hexecuted (i := i + 1) (by omega)
    rw [htask]
    rfl

theorem pipe (h : p.Suits pool m P) (hexecuted : p.Executed pool m m₁) (hready : p.Ready m)
    (hexecute : p.execute (some pool) m = (.ok last, p, m₁)) {i : Nat} (hi : i < P.count) :
    ∃ q, m₁.job.pipes[P.base + i]? = some q ∧ q.Channel (P.name i) P.room (some .fresh) true ∧
      q.stock = [] := by
  obtain ⟨stage, spec, hstage, hspec, -⟩ := h.task hexecuted hi
  obtain ⟨q, hq, hname⟩ := name_execute hready hexecute hstage hspec
  rw [h.count_eq] at hi
  obtain ⟨name, hpipe⟩ := hexecuted.pipe i hi
  obtain rfl : q = _ := Option.some.inj (hq.symm.trans hpipe)
  obtain rfl : name = pipeName spec.name (m.job.pipes.size + i) := hname
  rw [h.base_eq, h.room, h.name i stage spec hstage hspec]
  exact ⟨_, hpipe, p.channel_stagePipe i _ _, p.stock_stagePipe i _ _⟩

/-- **A line that has just been started** goes as planned. -/
theorem conveys (h : p.Suits pool m P) (hP : P.Proper) (hready : p.Ready m) (hfree : m.Free pool)
    (hprograms : m.programs = Command.program?) (hlevel : m.job.level = 0)
    (hexecuted : p.Executed pool m m₁) (hexecute : p.execute (some pool) m = (.ok last, p, m₁)) :
    ∃ k, Conveys P m₁.job (some .fresh) 0 k m₁ := by
  obtain ⟨records, hjob⟩ := hexecuted.job
  obtain ⟨n, hgoes⟩ := h.goes
  have hstarted : ∀ i < P.count, (m₁.task? (P.first + i)).isSome := by
    intro i hi
    obtain ⟨stage, spec, -, -, htask⟩ := h.task hexecuted hi
    rw [htask]
    rfl
  have htaken : ∀ i, P.taken 0 (fun i => ⟨0, .idle i, n⟩) (i + 1) = 0 := by
    intro i
    unfold Plan.taken
    split <;> rfl
  -- nobody has sent or taken anything
  have hflows : Flows P (some .fresh) 0 m₁.job m₁.task? fun i => ⟨0, .idle i, n⟩ := by
    refine ⟨?_, fun i hi => ?_, fun i hi t ht => ?_, fun i _ => Nat.zero_le _, ?_, by simp⟩
    · rw [hjob]
      exact hlevel
    · obtain ⟨q, hq, hchannel, hstock⟩ := h.pipe hexecuted hready hexecute hi
      rw [h.reader? hexecuted hi, hstarted i hi, htaken]
      exact ⟨q, hq, hchannel, fun _ => by rw [hstock]; rfl, fun _ v hv => by simp [hstock] at hv⟩
    · obtain ⟨stage, spec, hstage, hspec, htask⟩ := h.task hexecuted hi
      obtain rfl := Option.some.inj (ht.symm.trans htask)
      refine ⟨rfl, rfl, rfl, .inl rfl, ?_⟩
      have hgo := hgoes i stage spec hstage hspec
      rw [← hprograms, ← isSome_feed P.base] at hgo
      exact hgo
    · exact fun i _ hdone => absurd hdone (by simp [Hand.idle])
  have hworks : Works P.toSpan m₁ := h.span ▸ hexecuted.works hready hfree hprograms
  -- all stages are at work, those before the cutter too
  refine ⟨_, hworks, _, P.cutter, ⟨hflows, fun i hi _ _ => ?_, fun i hi _ hgone => ?_, fun t _ => ?_,
    le_rfl, fun i hi => ?_, fun hcut => absurd hcut (lt_irrefl _), ?_⟩, le_rfl⟩
  · rw [h.reader? hexecuted hi]
    simp
  · have hsome := hstarted i hi
    rw [hgone] at hsome
    simp at hsome
  · have hcount := hP.cutter_lt
    rw [h.reader? hexecuted (i := 0) (by omega)]
    exact .inr ⟨rfl, by simp⟩
  · exact iff_of_true (hstarted i (hi.trans hP.cutter_lt)) hi
  · rw [P.broken_cutter]
    exact .refl

/-- A line that goes as planned delivers its goal, and all its stages end. -/
theorem run (h : p.Suits pool m P) (hP : P.Proper) (hready : p.Ready m) (hfree : m.Free pool)
    (halone : m.poolTasks pool = []) (hprograms : m.programs = Command.program?)
    (hlevel : m.job.level = 0) (hhalt : m.halt = none) :
    ∃ enough m₂ m₃, (∀ fuel ≥ enough,
        m.readPipeline fuel pool p = (.ok (List.replicate P.goal P.item), m₂) ∧
        m₂.settle fuel pool = m₃) ∧
      m₃.halt = none ∧ m₃.poolTasks pool = [] ∧ m.job.Tells m₃.job (P.broken 0) ∧
      ∀ i < P.count, ∃ q, m₃.job.pipes[P.base + i]? = some q ∧ q.name = P.name i := by
  obtain ⟨m₁, hexecute, hexecuted⟩ := p.execute_ready pool hready hfree.numbered
  obtain ⟨k, hconveys⟩ := h.conveys hP hready hfree hprograms hlevel hexecuted hexecute
  have hwatches : P.watches = [] := by
    rw [h.span]
    simp [Pipeline.span, halone]
  set last := m.job.pipes.size + (p.line.stages.length - 1) with hlastdef
  have hlast : last = P.base + P.last := by rw [hlastdef, Plan.last, h.base_eq, h.count_eq]
  have hcollects : P.Collects { pipe := last } 0 := ⟨hlast, rfl, rfl⟩
  obtain ⟨enough, m₂, hrun, hhalt₂, hgone, k₂, hread⟩ :=
    Conveys.runUntil hconveys hP hwatches hcollects (hexecuted.halt.trans hhalt)
  obtain ⟨k₃, hleft⟩ := hread.mainLeaves hP hgone
  rw [← hlast] at hleft
  obtain ⟨enough', m₃, hsettle, hhalt₃, hnobody, htells⟩ := hleft.settle hP hwatches hhalt₂
  rw [h.pool_eq] at hrun hsettle hnobody
  refine ⟨max enough enough', _, m₃, fun fuel hfuel => ⟨?_, hsettle fuel (by omega)⟩, hhalt₃,
    hnobody, ?_, ?_⟩
  · unfold Machine.readPipeline
    rw [hexecute]
    simp only [hrun fuel (by omega)]
  · obtain ⟨records, hjob⟩ := hexecuted.job
    have hstart : m.job.Tells m₁.job [] := by
      rw [hjob]
      exact .of_eq rfl rfl
    exact hstart.trans htells
  · intro i hi
    obtain ⟨q, hq, hchannel, -⟩ := h.pipe hexecuted hready hexecute hi
    have hevolves : m₁.job.Evolves (fun _ => True) m₃.job := by
      have hcollected : m₁.job.Evolves (fun _ => True) _ :=
        Machine.evolves_runUntil enough pool { pipe := last } m₁
      rw [hrun enough le_rfl] at hcollected
      have hsettled := (hcollected.trans (Job.evolves_closeRead last)).trans
        (Machine.evolves_settle enough' pool { m₂ with job := (m₂.job.closeRead last).2 })
      rwa [hsettle enough' le_rfl] at hsettled
    obtain ⟨q', hq', hname⟩ := hevolves.names hq
    exact ⟨q', hq', hname.trans hchannel.name_eq⟩

end Pipeline.Suits

/-- **A line that goes as planned** comes to its end with the goal delivered. It reports no error of
its own, and one signal for each pipe before the cutter. -/
theorem Pipeline.Suits.runLine {line : String} {m m' : Machine} {p : Pipeline} {P : Plan}
    (hregistry : m.job.shell.registry.Named) (hprograms : m.programs = Command.program?)
    (horderly : m.Orderly) (hlevel : m.job.level = 0) (hhalt : m.halt = none)
    (hvalid : (Pipeline.create line m).1.validate (Pipeline.create line m).2 = (.ok (), p, m'))
    (h : p.Suits m'.nextPool m'.openPool.2 P) (hP : P.Proper) :
    ∃ enough m₃, (∀ fuel ≥ enough,
        m.runLine fuel line = (List.replicate P.goal P.item, m.job.errors, m₃)) ∧
      m₃.halt = none ∧ m₃.job.signals = m.job.signals ++ P.broken 0 ∧
      ∀ i < P.count, ∃ q, m₃.job.pipes[m.job.pipes.size + i]? = some q ∧ q.name = P.name i := by
  have hready : p.Ready m' := Pipeline.ready_create hregistry hvalid
  obtain ⟨-, -, -, hm'⟩ := Pipeline.validate_create hvalid
  have horderly' : m'.Orderly := by rw [hm']; exact horderly
  have hbase : P.base = m.job.pipes.size := by
    rw [h.base_eq, hm']
    rfl
  obtain ⟨enough, m₂, m₃, hrun, hhalt₃, hnobody, htells, hnames⟩ :=
    h.run hP ⟨hready.number, hready.state, hready.stages, hready.commands⟩ horderly'.free
      horderly'.poolTasks (by rw [hm']; exact hprograms) (by rw [hm']; exact hlevel)
      (by rw [hm']; exact hhalt)
  have hbefore : m'.openPool.2.job.signals = m.job.signals ∧
      m'.openPool.2.job.errors = m.job.errors := by
    rw [hm']
    exact ⟨rfl, rfl⟩
  refine ⟨enough, m₃.takeErrors.2, fun fuel hfuel => ?_, hhalt₃, ?_, hbase ▸ hnames⟩
  · obtain ⟨hread, hsettle⟩ := hrun fuel hfuel
    have hclosed : m₃.takeErrors.2.closePool m'.nextPool = m₃.takeErrors.2 :=
      Machine.closePool_nil (m := m₃.takeErrors.2) hnobody
    have herrors : m₃.takeErrors.1 = m.job.errors := htells.errors.trans hbefore.2
    have hpool : m'.openPool.1 = m'.nextPool := rfl
    simp only [Machine.runLine, hvalid, hpool, hread, hsettle, hclosed, herrors]
    rfl
  · rw [← hbefore.1]
    exact htells.signals

end Pipework
