import Pipework.Proofs.Command.Functions
import Pipework.Proofs.Job.Launching
import Pipework.Proofs.Job.Relaying

/-!
# Lines that compute

A stage maps lists (`Machine.Maps`) when, at a desk of its own, it writes what a function makes of the
items that its reader gives. A line of such stages writes, on a machine where nobody has been
interrupted, what these functions make of the empty list one after another, whoever waits for whom on
the way, and whatever the capacity of the pipes (`Machine.runLine_maps`).

* `Chain.Sounds.pollMain` — the main future takes what comes out of the last pipe;
* `Chain.hears_relays` — it is polled again until it has got all that the line writes;
* `Pipeline.Lists.run` — a line that has just been executed is read to its end, and settles.
-/

namespace Pipework

namespace Chain

variable {C : Chain} {main main' : Option ReadState} {got got' : List Value} {job job' : Job}
  {task? : Nat → Option Task} {shares : Nat → Share}

/-! ## The main future -/

variable (C) in
/-- The last pipe. -/
def last : Nat := C.base + (C.count - 1)

variable (C) in
/-- A future that reads the last pipe to its end, and has received these items. -/
structure Collects (c : Machine.Collector) (got : List Value) : Prop where
  pipe : c.pipe = C.last
  left : c.left = none
  items : c.items = got.reverse

/-- The main future changes the last pipe, and nothing else. The job may have been put to sleep
before. -/
theorem Sounds.mainMoves (h : C.Sounds main got job task? shares) (hcount : 0 < C.count)
    (hlevel : job'.level = job.level) (hpipes : job'.pipes = job.pipes) {p p' : Pipe Value}
    {events : List Pipe.Event} (hp : job'.pipes[C.last]? = some p)
    (hlink : p'.Link main' (C.writes task? (C.count - 1)))
    (hall : main' ≠ none → got' ++ (p'.stock ++ (shares (C.count - 1)).rest) = C.out)
    (hheeds : ∀ ticket, main' = some (.parked ticket) → (ticket, .main) ∈ p'.parked) :
    C.Sounds main' got' (job'.store C.last p' events) task? shares := by
  have hstored := Job.store_self hp p' events
  have hlinked : C.Linked main job' task? := by
    rw [Span.Linked, hpipes]
    exact h.linked
  refine ⟨(Job.level_react _ _).trans (hlevel.trans h.level),
    hlinked.mainMoves (by omega) events hp hlink, fun i hi t ht => ?_, h.gone, fun hmain => ?_,
    fun ticket hticket => .inr ⟨p', hstored, hheeds ticket hticket⟩⟩
  · -- no stage reads the last pipe
    refine (h.stages i hi t ht).congr fun _ => ?_
    cases i with
    | zero => rfl
    | succ before =>
      have hholds : C.holds (job'.store C.last p' events) before = C.holds job before :=
        (C.holds_store (by omega) p' events).trans (C.holds_congr (by rw [hpipes]))
      exact congrArg (· ++ _) hholds
  · rw [Span.flow, C.holds_eq hstored]
    exact hall hmain

/-- The main future has received no more than the line writes. -/
theorem Sounds.got_le {state : ReadState} (h : C.Sounds (some state) got job task? shares) :
    got.length ≤ C.out.length := by
  rw [← h.all (by simp), List.length_append]
  exact Nat.le_add_right _ _

/-- What a poll of the main future comes to: it is done, with everything received; or its read is parked,
and either it has received something, or nobody has been woken. -/
structure MainPolled (C : Chain) (got : List Value) (job : Job) (task? : Nat → Option Task)
    (shares : Nat → Share) (done : Bool) (c : Machine.Collector) (got' : List Value) (job' : Job) :
    Prop where
  collects : C.Collects c got'
  sounds : C.Sounds (some c.reading) got' job' task? shares
  later : got.length ≤ got'.length
  ends : done = true → c.reading = .fresh ∧ got' = C.out
  waits : done = false → (∃ ticket, c.reading = .parked ticket ∧
      ∃ p, job'.pipes[C.last]? = some p ∧ p.parked ≠ []) ∧
    (got'.length = got.length → job'.ready = job.ready)

/-- The main future reads until it is done or has to wait. -/
theorem Sounds.pollMain {c : Machine.Collector} (h : C.Sounds (some c.reading) got job task? shares)
    (hcount : 0 < C.count) (hc : C.Collects c got) (asleep : Job) (hlevel : asleep.level = job.level)
    (hpipes : asleep.pipes = job.pipes) :
    ∃ done c' got' job',
      (∀ fuel > C.out.length - got.length, Machine.pollMain fuel c asleep = (done, c', job')) ∧
      C.MainPolled got asleep task? shares done c' got' job' := by
  -- each read that does not wait takes one of the items that are still to come
  induction hleft : C.out.length - got.length using Nat.strong_induction_on
    generalizing c got job asleep with
  | _ left ih =>
    subst hleft
    set st : Station := { input := some c.pipe, reading := c.reading } with hst
    have hinput : st.input = some C.last := congrArg some hc.pipe
    have hgoes : c.left ≠ some 0 := by simp [hc.left]
    have hlast : C.count - 1 + 1 = C.count := by omega
    have hall := h.all (by simp)
    obtain ⟨p, hp, hlink⟩ := h.linked (C.count - 1) (by omega)
    rw [Span.reader?_last hlast] at hlink
    rw [Span.flow, C.holds_eq hp] at hall
    replace hp : asleep.pipes[C.last]? = some p := by rw [hpipes]; exact hp
    have hread := @Station.tryRead_eq st asleep .main _ p hinput hp
    rcases hlink.pollRead .main with ⟨ticket, p', hpoll, hlink', hparked, hempty, hempty'⟩ |
      ⟨v, p', events, hpoll, hlink', hhead⟩ | ⟨p', events, hpoll, hlink', hempty, hempty', hgone⟩ <;>
      rw [show st.reading = c.reading from rfl, hpoll] at hread
    · -- nothing is there yet
      refine ⟨false, { c with reading := .parked ticket }, got, asleep.store C.last p' [],
        fun fuel hfuel => ?_, ⟨hc.pipe, hc.left, hc.items⟩, ?_, le_rfl, by simp,
        fun _ => ⟨⟨ticket, rfl, p', Job.store_self hp _ _, List.ne_nil_of_mem hparked⟩, fun _ => rfl⟩⟩
      · obtain ⟨fuel, rfl⟩ : ∃ k, fuel = k + 1 := ⟨fuel - 1, by omega⟩
        simp only [Machine.pollMain, if_neg hgoes, ← hst, hread]
      · refine h.mainMoves hcount hlevel hpipes hp hlink' (fun _ => ?_) fun ticket' hticket => ?_
        · rw [hempty', ← hempty]
          exact hall
        · obtain rfl : ticket = ticket' := by simpa using hticket
          exact hparked
    · -- an item has been taken
      have hsounds : C.Sounds (some .fresh) (got ++ [v]) (asleep.store C.last p' events) task? shares := by
        refine h.mainMoves hcount hlevel hpipes hp hlink' (fun _ => ?_) (by simp)
        rw [← hall, hhead]
        simp
      have hle := hsounds.got_le
      rw [List.length_append, List.length_singleton] at hle
      have hcollects : C.Collects
          { c with reading := .fresh, items := v :: c.items, left := c.left.map (· - 1) }
          (got ++ [v]) :=
        ⟨hc.pipe, by rw [hc.left]; rfl, by rw [List.reverse_append, hc.items]; rfl⟩
      have hlonger : (got ++ [v]).length = got.length + 1 := by simp
      obtain ⟨done, c', got', job', hpoll', hpolled⟩ :=
        ih (C.out.length - (got ++ [v]).length) (by omega) hsounds hcollects _ rfl rfl rfl
      have hlater := hpolled.later
      refine ⟨done, c', got', job', fun fuel hfuel => ?_, hpolled.collects, hpolled.sounds, by omega,
        hpolled.ends, fun hwaits => ⟨(hpolled.waits hwaits).1, fun hsame => absurd hsame (by omega)⟩⟩
      obtain ⟨fuel, rfl⟩ : ∃ k, fuel = k + 1 := ⟨fuel - 1, by omega⟩
      simp only [Machine.pollMain, if_neg hgoes, ← hst, hread]
      exact hpoll' fuel (by omega)
    · -- the last stage is over, and has written all
      have hgot : got = C.out := by
        rw [hempty, h.rest_of_writes (by omega) hgone] at hall
        simpa using hall
      refine ⟨true, { c with reading := .fresh }, got, asleep.store C.last p' events,
        fun fuel hfuel => ?_, ⟨hc.pipe, hc.left, hc.items⟩, ?_, le_rfl, fun _ => ⟨rfl, hgot⟩, by simp⟩
      · obtain ⟨fuel, rfl⟩ : ∃ k, fuel = k + 1 := ⟨fuel - 1, by omega⟩
        simp only [Machine.pollMain, if_neg hgoes, ← hst, hread]
      · refine h.mainMoves hcount hlevel hpipes hp hlink' (fun _ => ?_) (by simp)
        rw [hempty', ← hempty]
        exact hall

/-! ## The line on a machine -/

section Line

variable {k : Nat} {m : Machine}

/-- Where no task is ready, and the main future waits unless it has left, it has left, and every stage is
over. -/
theorem Relays.stalled (h : C.Relays main got k m) (hcount : 0 < C.count)
    (hworking : Working C.toSpan m) (hnext : m.nextReady? C.pool = none)
    (hmain : main ≠ none → ∃ p, m.job.pipes[C.last]? = some p ∧ p.parked ≠ []) :
    main = none ∧ ∀ i < C.count, m.task? (C.first + i) = none := by
  obtain ⟨shares, hsounds, -⟩ := h
  refine hsounds.stalled hworking.wired (fun i hi t ht => ?_) hcount hmain
  exact Machine.nextReady?_none hnext ht (hworking.wired.fit i hi t ht).pool

/-- The main future has been polled, and has to wait. -/
theorem Relays.mainWaits (h : C.Relays main got k m) (hworks : Works C.toSpan m) (hcount : 0 < C.count)
    (hwatches : C.watches = []) (hhalt : m.halt = none) {ticket : Nat}
    (hreading : main = some (.parked ticket))
    (hparked : ∃ p, m.job.pipes[C.last]? = some p ∧ p.parked ≠ []) :
    ∃ enough m', (∀ fuel ≥ enough, m.turn fuel C.pool = m') ∧ m'.halt = none ∧
      (m'.job.mainWoken || (m'.nextReady? C.pool).isSome) = true ∧
      ∃ k' < k, Working C.toSpan m' ∧ C.Relays main got k' m' := by
  -- it would have left if nobody could go on
  have hstays : ∀ {k m'}, Working C.toSpan m' ∧ C.Relays main got k m' →
      m'.nextReady? C.pool = none → ¬ ∃ p, m'.job.pipes[C.last]? = some p ∧ p.parked ≠ [] := by
    rintro k m' ⟨hworking, hrelays⟩ hnext hparked
    have hleft := (hrelays.stalled hcount hworking hnext fun _ => hparked).1
    rw [hreading] at hleft
    simp at hleft
  have henqueue : Working C.toSpan (m.enqueue C.pool) ∧ C.Relays main got k (m.enqueue C.pool) :=
    ⟨hworks.enqueue, h.enqueue⟩
  refine (wanes_relays hwatches main got).turn_wakes henqueue hhalt
    (fun hnext => hstays henqueue hnext hparked) fun {k m'} hlowered hnext => ?_
  obtain ⟨shares, hsounds, -⟩ := hlowered.2
  refine (hsounds.heeds ticket hreading).resolve_right fun ⟨p, hp, hmem⟩ => ?_
  exact hstays hlowered hnext ⟨p, hp, List.ne_nil_of_mem hmem⟩

/-- A poll of the main future ends it with all that the line writes, or it has to wait and is polled
again. -/
theorem hears_relays (hcount : 0 < C.count) (hwatches : C.watches = []) :
    Machine.Hears C.pool
      (fun k c m => Works C.toSpan m ∧ ∃ got, C.Collects c got ∧ C.Relays (some c.reading) got k m)
      fun items m => items = C.out ∧ Works C.toSpan m ∧ ∃ k, C.Relays (some .fresh) C.out k m where
  poll := by
    rintro k c m ⟨hworks, got, hc, shares, hsounds, hbound⟩ hhalt
    obtain ⟨done, c', got', job', hpoll, hpolled⟩ :=
      hsounds.pollMain hcount hc { m.job with mainWoken := false } rfl rfl
    replace hworks := hworks.pollMain (C.out.length - got.length + 1) hc.pipe
    rw [hpoll _ (Nat.lt_succ_self _)] at hworks
    have hmoved : C.Relays (some c'.reading) got' (C.effort (C.labor got' shares) { m with job := job' })
        { m with job := job' } := ⟨shares, hpolled.sounds, le_rfl⟩
    refine ⟨C.out.length - got.length + 1, done, c', job', fun fuel hfuel => hpoll fuel hfuel,
      fun hdone => ?_, fun hwaits => ?_⟩
    · obtain ⟨hreading, rfl⟩ := hpolled.ends hdone
      rw [hreading] at hmoved
      exact ⟨by rw [hpolled.collects.items, List.reverse_reverse], hworks, _, hmoved⟩
    · obtain ⟨⟨ticket, hreading, hparked⟩, hready⟩ := hpolled.waits hwaits
      have hless : C.effort (C.labor got' shares) { m with job := job' } ≤ k := by
        refine le_trans ?_ hbound
        rcases hpolled.later.eq_or_lt with hsame | hlater
        · have hready' : job'.ready = m.job.ready := hready hsame.symm
          rw [Span.effort, Span.effort, labor, labor, hready', hsame]
        · have hle := hpolled.sounds.got_le
          have hlabor : C.labor got' shares < C.labor got shares := by
            rw [labor, labor]
            omega
          have hspent : C.effort (C.labor got' shares) { m with job := job' } <
              C.effort (C.labor got shares) m := C.effort_step hlabor rfl
          exact hspent.le
      obtain ⟨enough, m', hturn, hhalt', hawake, k', hk', hworking, hm'⟩ :=
        hmoved.mainWaits hworks hcount hwatches hhalt (congrArg some hreading) hparked
      exact ⟨enough, m', hturn, hhalt', hawake, k', hk'.trans_le hless, hworking.works, got',
        hpolled.collects, hm'⟩

/-- The main future leaves. -/
theorem Relays.mainLeaves (h : C.Relays (some .fresh) got k m) (hcount : 0 < C.count) :
    ∃ k', C.Relays none got k' { m with job := (m.job.closeRead C.last).2 } := by
  obtain ⟨shares, hsounds, -⟩ := h
  obtain ⟨p, hp, hlink⟩ := hsounds.linked (C.count - 1) (by omega)
  rw [Span.reader?_last (by omega)] at hlink
  have hclose : (m.job.closeRead C.last).2 = m.job.store C.last p.closeRead.2.1 p.closeRead.2.2 := by
    rw [Job.closeRead, last, Job.query_eq hp]
  refine ⟨_, shares, ?_, le_rfl⟩
  dsimp only
  rw [hclose]
  exact hsounds.mainMoves hcount rfl rfl hp hlink.closeRead (fun hmain => absurd rfl hmain) (by simp)

/-- When the main future has left the line settles. -/
theorem Relays.settle (h : C.Relays none got k m) (hworks : Works C.toSpan m) (hcount : 0 < C.count)
    (hwatches : C.watches = []) (hhalt : m.halt = none) :
    ∃ enough m', (∀ fuel ≥ enough, m.settle fuel C.pool = m') ∧ m'.halt = none ∧
      m'.poolTasks C.pool = [] := by
  obtain ⟨enough, -, m', hsettle, hhalt', hnobody, -⟩ :=
    (wanes_relays hwatches none got).settle ⟨hworks.enqueue, h.enqueue⟩ hhalt
      fun ⟨hworking, hrelays⟩ hnext => C.nobody hwatches hworking.works
        (hrelays.stalled hcount hworking hnext fun hmain => absurd rfl hmain).2
  exact ⟨enough, m', hsettle, hhalt', hnobody⟩

end Line

end Chain

/-! ## Stages that map lists -/

/-- What functions make of a list, one after another. -/
def composed (fs : List (List Value → List Value)) (items : List Value) : List Value :=
  fs.foldl (fun items f => f items) items

theorem composed_append (fs gs : List (List Value → List Value)) (items : List Value) :
    composed (fs ++ gs) items = composed gs (composed fs items) := List.foldl_append ..

/-- What comes out of one more function. -/
theorem composed_take {fs : List (List Value → List Value)} {i : Nat} (hi : i < fs.length)
    (items : List Value) : composed (fs.take (i + 1)) items = fs[i] (composed (fs.take i) items) := by
  rw [← List.take_concat_get' fs i hi, composed_append]
  rfl

/-- The stage waits for nobody but its neighbours, and at a desk of its own it writes what the function
makes of its input. -/
def Machine.Maps (m : Machine) (stage : Stage) (f : List Value → List Value) : Prop :=
  ∃ spec, m.job.shell.command? stage.command = some spec ∧
    (∀ hasInput, (Pipeline.stageBehavior m.programs spec hasInput stage.args).Tidy [] []) ∧
    Command.Computes (Pipeline.stageBehavior m.programs spec) stage.args f

/-- A line of such stages that is about to be executed. -/
structure Pipeline.Lists (p : Pipeline) (pool : Nat) (m : Machine)
    (fs : List (List Value → List Value)) : Prop where
  ready : p.Ready m
  maps : List.Forall₂ m.Maps p.line.stages fs
  free : m.Free pool
  alone : m.poolTasks pool = []
  level : m.job.level = 0
  halt : m.halt = none

namespace Pipeline.Lists

variable {p : Pipeline} {pool i : Nat} {fs : List (List Value → List Value)} {m m₁ : Machine}

/-- The line, with what it writes in all. -/
def chain (p : Pipeline) (pool : Nat) (m : Machine) (fs : List (List Value → List Value)) : Chain :=
  { toSpan := p.span pool m, out := composed fs [] }

theorem length_eq (h : p.Lists pool m fs) : p.line.stages.length = fs.length := h.maps.length_eq

theorem count_pos (h : p.Lists pool m fs) : 0 < (chain p pool m fs).count :=
  List.length_pos_iff.mpr h.ready.stages

/-- A stage that has just been started will write what its function makes of what the functions before
it make. -/
theorem starts (h : p.Lists pool m fs) (hexecuted : p.Executed pool m m₁)
    (hi : i < p.line.stages.length) :
    ∃ n t, m₁.task? (m.nextTask + i) = some t ∧ t.station.input = feed none m.job.pipes.size i ∧
      t.station.reading = .fresh ∧
      (chain p pool m fs).Course i (composed (fs.take i) []) t ⟨composed (fs.take (i + 1)) [], n⟩ := by
  have hfs : i < fs.length := h.length_eq ▸ hi
  obtain ⟨spec, hspec, htask⟩ := hexecuted.task i _ (List.getElem?_eq_getElem hi)
  obtain ⟨other, hother, -, hcomputes⟩ := (List.forall₂_iff_get.mp h.maps).2 i hi hfs
  obtain rfl : other = spec := Option.some.inj (hother.symm.trans hspec)
  -- the first stage has no reader, and nothing before it
  have hinput : ((feed none m.job.pipes.size i).map fun _ => composed (fs.take i) []).getD [] =
      composed (fs.take i) [] := by
    cases i <;> rfl
  obtain ⟨r, n, hruns⟩ := hcomputes (feed none m.job.pipes.size i).isSome
    ((feed none m.job.pipes.size i).map fun _ => composed (fs.take i) [])
  rw [hinput] at hruns
  refine ⟨n, _, htask, rfl, rfl, fun j hj => feed_none hj, rfl, rfl, .inl rfl, r, ?_⟩
  rw [composed_take hfs]
  exact hruns

/-- **A line that has just been started** sounds. -/
theorem sounds (h : p.Lists pool m fs) (hexecuted : p.Executed pool m m₁) :
    ∃ shares, (chain p pool m fs).Sounds (some .fresh) [] m₁.job m₁.task? shares := by
  have hstarts := fun i (hi : i < p.line.stages.length) => h.starts hexecuted hi
  choose! n t htask hinput hfresh hcourse using hstarts
  obtain ⟨records, hjob⟩ := hexecuted.job
  -- nothing has been put into a pipe yet, so what flows through it is all still to be written
  have hpipe : ∀ i < p.line.stages.length, ∃ q, m₁.job.pipes[m.job.pipes.size + i]? = some q ∧
      q.Link (some .fresh) true ∧ q.stock = [] := by
    intro i hi
    obtain ⟨name, hpipe⟩ := hexecuted.pipe i hi
    exact ⟨_, hpipe, p.link_stagePipe i name _, p.stock_stagePipe i name _⟩
  set C := chain p pool m fs
  have hflow : ∀ i < p.line.stages.length,
      C.flow m₁.job (fun i => ⟨composed (fs.take (i + 1)) [], n i⟩) i =
        composed (fs.take (i + 1)) [] := by
    intro i hi
    obtain ⟨q, hq, -, hstock⟩ := hpipe i hi
    rw [Span.flow, C.holds_eq hq, hstock]
    rfl
  have hreader : ∀ i < C.count, C.reader? (some .fresh) m₁.task? i = some .fresh := by
    intro i hi
    unfold Span.reader?
    split
    · rfl
    · have hnext : i + 1 < p.line.stages.length := Nat.lt_of_le_of_ne hi ‹_›
      rw [show m₁.task? (C.first + (i + 1)) = _ from htask _ hnext, Option.bind_some,
        Station.reader?_eq (hinput _ hnext), hfresh _ hnext]
  refine ⟨fun i => ⟨composed (fs.take (i + 1)) [], n i⟩, ?_, fun i hi => ?_, fun i hi u hu => ?_,
    fun i hi hgone => ?_, fun _ => ?_, by simp⟩
  · rw [hjob]
    exact h.level
  · obtain ⟨q, hq, hlink, -⟩ := hpipe i hi
    rw [hreader i hi, Span.writes, show m₁.task? (C.first + i) = _ from htask i hi, Option.any_some,
      (hcourse i hi).output]
    exact ⟨q, hq, hlink⟩
  · obtain rfl := Option.some.inj (hu.symm.trans (htask i hi))
    have hsupply : C.supply m₁.job (fun i => ⟨composed (fs.take (i + 1)) [], n i⟩) i =
        composed (fs.take i) [] := by
      cases i with
      | zero => rfl
      | succ before => exact hflow before (Nat.lt_of_succ_lt hi)
    rw [hsupply]
    exact hcourse i hi
  · exact absurd (hgone.symm.trans (htask i hi)) (by simp)
  · have hcount : C.count - 1 + 1 = fs.length := by
      rw [← h.length_eq]
      exact Nat.succ_pred_eq_of_pos h.count_pos
    rw [hflow (C.count - 1) (Nat.sub_one_lt h.count_pos.ne'), hcount, List.take_length]
    rfl

/-- A line that has just been executed is read to its end, and settles. -/
theorem run (h : p.Lists pool m fs) :
    ∃ enough m₂ m₃, (∀ fuel ≥ enough, m.readPipeline fuel pool p = (.ok (composed fs []), m₂) ∧
        m₂.settle fuel pool = m₃) ∧ m₃.halt = none ∧ m₃.poolTasks pool = [] := by
  obtain ⟨m₁, hexecute, hexecuted⟩ := p.execute_ready pool h.ready h.free.numbered
  obtain ⟨shares, hsounds⟩ := h.sounds hexecuted
  have hworks : Works (p.span pool m) m₁ := by
    refine hexecuted.works_tidy h.ready h.free fun stage hstage spec hspec => ?_
    obtain ⟨i, hi, rfl⟩ := List.getElem_of_mem hstage
    obtain ⟨other, hother, htidy, -⟩ :=
      (List.forall₂_iff_get.mp h.maps).2 i hi (h.length_eq ▸ hi)
    obtain rfl : other = spec := Option.some.inj (hother.symm.trans hspec)
    exact htidy
  set C := chain p pool m fs
  have hwatches : C.watches = [] := by
    change (m.poolTasks pool).map (·.1) = []
    rw [h.alone, List.map_nil]
  obtain ⟨enough, items, m₂, hrun, hhalt₂, rfl, hworks₂, k₂, hread⟩ :=
    (C.hears_relays h.count_pos hwatches).runUntil (c := { pipe := C.last })
      ⟨hworks, [], ⟨rfl, rfl, rfl⟩, shares, hsounds, le_rfl⟩ (hexecuted.halt.trans h.halt)
  obtain ⟨k₃, hleft⟩ := hread.mainLeaves h.count_pos
  have hworks₃ : Works C.toSpan { m₂ with job := (m₂.job.closeRead C.last).2 } := by
    obtain ⟨⟨incoming, hincoming, hwired⟩, hindexed⟩ := hworks₂
    have hserves : Job.Serves (fun _ => none) (fun _ => False) m₂.job (m₂.job.closeRead C.last).2 :=
      Job.serves_closeRead _
    exact ⟨⟨incoming, hincoming, hwired.serve hserves (fun _ _ => rfl) fun _ => id⟩, hindexed⟩
  obtain ⟨enough', m₃, hsettle, hhalt₃, hnobody⟩ := hleft.settle hworks₃ h.count_pos hwatches hhalt₂
  refine ⟨max enough enough', _, m₃, fun fuel hfuel => ⟨?_, hsettle fuel (by omega)⟩, hhalt₃, hnobody⟩
  replace hexecute : p.execute (some pool) m = (.ok C.last, p, m₁) := hexecute
  replace hrun : m₁.runUntil fuel pool { pipe := C.last } = (composed fs [], m₂) := hrun fuel (by omega)
  unfold Machine.readPipeline
  rw [hexecute]
  simp only [hrun]

end Pipeline.Lists

/-! ## Lines -/

/-- In all sufficient fuel the line comes to its end with this output. -/
def Machine.Outputs (m : Machine) (line : String) (out : List Value) : Prop :=
  ∃ enough errors m', (∀ fuel ≥ enough, m.runLine fuel line = (out, errors, m')) ∧ m'.halt = none

/-- A line has one output. -/
theorem Machine.Outputs.unique {m : Machine} {line : String} {out out' : List Value}
    (h : m.Outputs line out) (h' : m.Outputs line out') : out = out' := by
  obtain ⟨enough, errors, m₁, hrun, -⟩ := h
  obtain ⟨enough', errors', m₂, hrun', -⟩ := h'
  have hsame := (hrun _ (le_max_left enough enough')).symm.trans (hrun' _ (le_max_right enough enough'))
  exact congrArg Prod.fst hsame

/-- A machine that may run a line: it has not stopped, and nobody has been interrupted. -/
structure Machine.Prompt (m : Machine) : Prop where
  named : m.job.shell.registry.Named
  orderly : m.Orderly
  level : m.job.level = 0
  halt : m.halt = none

/-- **A line of stages that map lists** outputs what their functions make of the empty list. -/
theorem Machine.runLine_maps {m : Machine} (hm : m.Prompt) {line : String}
    {fs : List (List Value → List Value)} (hmaps : List.Forall₂ m.Maps (Stage.parseLine line) fs) :
    m.Outputs line (composed fs []) := by
  have hresolves : ∀ stage ∈ Stage.parseLine line,
      ∃ spec, m.job.shell.command? stage.command = some spec := by
    intro stage hstage
    obtain ⟨i, hi, rfl⟩ := List.getElem_of_mem hstage
    exact ((List.forall₂_iff_get.mp hmaps).2 i hi (hmaps.length_eq ▸ hi)).imp fun _ => And.left
  obtain ⟨p, m₀, hvalid⟩ := Pipeline.validate_ok hresolves
  have hready := Pipeline.ready_create hm.named hvalid
  obtain ⟨-, hstages, -, rfl⟩ := Pipeline.validate_create hvalid
  set m₀ := m.onJob fun job => { job with progress := job.progress.push .validated }
  -- a stage maps what it did when its command was typed
  have hlists : p.Lists m₀.nextPool m₀.openPool.2 fs :=
    { ready := ⟨hready.number, hready.state, hready.stages, hready.commands⟩
      maps := by
        rw [hstages, List.forall₂_map_left_iff]
        refine hmaps.imp fun stage f ⟨spec, hspec, htidy, hcomputes⟩ => ?_
        have hname : m.job.shell.resolve? stage.command = some spec.name := by
          rw [Shell.resolve?, hspec, Option.map_some]
        simp only [CommandLine.resolveStage, hname]
        exact ⟨spec, Shell.command?_canonical hm.named hspec, htidy, hcomputes⟩
      free := Machine.Orderly.free hm.orderly
      alone := Machine.Orderly.poolTasks hm.orderly
      level := hm.level
      halt := hm.halt }
  obtain ⟨enough, m₂, m₃, hrun, hhalt₃, hnobody⟩ := hlists.run
  refine ⟨enough, m₃.takeErrors.1, m₃.takeErrors.2, fun fuel hfuel => ?_, hhalt₃⟩
  obtain ⟨hread, hsettle⟩ := hrun fuel hfuel
  have hclosed : m₃.takeErrors.2.closePool m₀.nextPool = m₃.takeErrors.2 :=
    Machine.closePool_nil (m := m₃.takeErrors.2) hnobody
  have hpool : m₀.openPool.1 = m₀.nextPool := rfl
  simp only [Machine.runLine, hvalid, hpool, hread, hsettle, hclosed]
  rfl

end Pipework
