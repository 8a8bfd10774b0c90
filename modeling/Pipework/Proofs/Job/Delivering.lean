import Pipework.Proofs.Job.Conveying

/-!
# What the main future receives

The main future is one more reader, behind the last stage: each of its reads keeps the books
(`Flows.mainReads`), and each poll lowers what is left to do (`Cuts.pollMain`). So `runUntil` comes to
its end with the goal delivered (`Conveys.runUntil`), and when the main future has left, the stages
that remain come to their end as well (`Conveys.settle`).
-/

namespace Pipework

variable {P : Plan} {start : Job} {main main' : Option ReadState} {got got' : Nat} {job job' : Job}
  {task? : Nat → Option Task} {tally : Nat → Tally} {i c : Nat} {t : Task} {m : Machine}

namespace Plan

/-- The place of the last stage. -/
def last (P : Plan) : Nat := P.count - 1

theorem Proper.last_succ (hP : P.Proper) : P.last + 1 = P.count := by
  have hcutter := hP.cutter_lt
  rw [last]
  omega

theorem Proper.last_lt (hP : P.Proper) : P.last < P.count := by
  have hlast := hP.last_succ
  omega

theorem Proper.cutter_le_last (hP : P.Proper) : P.cutter ≤ P.last := by
  have hcutter := hP.cutter_lt
  have hlast := hP.last_succ
  omega

theorem Proper.reader?_last (hP : P.Proper) : P.reader? main task? P.last = main := if_pos hP.last_succ

theorem Proper.taken_last (hP : P.Proper) : P.taken got tally (P.last + 1) = got := if_pos hP.last_succ

end Plan

/-! ## One read -/

/-- The main future changes the last pipe, and nothing else. The job may have been put to sleep
before. -/
theorem Flows.mainMoves (h : Flows P main got job task? tally) (hP : P.Proper)
    (hlevel : job'.level = job.level) (hpipes : job'.pipes = job.pipes) {p p' : Pipe Value}
    {events : List Pipe.Event} (hp : job'.pipes[P.base + P.last]? = some p)
    (hcarries : P.Carries P.last main' (task? (P.first + P.last)).isSome got' (tally P.last).sent p')
    (hheeds : ∀ ticket, main' = some (.parked ticket) → (ticket, .main) ∈ p'.parked) :
    Flows P main' got' (job'.store (P.base + P.last) p' events) task? tally := by
  have hstored := Job.store_self hp p' events
  refine ⟨?_, fun k hk => ?_, h.stages, h.bounded, h.drained, fun ticket hticket => ?_⟩
  · exact (Job.level_react _ _).trans (hlevel.trans h.level)
  · by_cases hlast : k = P.last
    · subst hlast
      rw [hP.reader?_last, hP.taken_last]
      exact ⟨p', hstored, hcarries⟩
    · have hk' : k + 1 ≠ P.count := by
        have hsucc := hP.last_succ
        omega
      have hpipe := h.pipes k hk
      rw [Plan.reader?, if_neg hk', Plan.taken, if_neg hk'] at hpipe ⊢
      rwa [Job.store_other (by omega), hpipes]
  · exact .inr ⟨p', hstored, hheeds ticket hticket⟩

/-- What a read of the main future finds: it waits, and nobody has been woken; or it takes an item; or
the last stage is over, and all that it has sent has been taken. -/
theorem Flows.mainReads {state : ReadState} (h : Flows P (some state) got job task? tally)
    (hP : P.Proper) (hlevel : job'.level = job.level) (hpipes : job'.pipes = job.pipes) {st : Station}
    (hinput : st.input = some (P.base + P.last)) (hreading : st.reading = state) :
    (∃ ticket job₁, st.tryRead .main job' = (.pending, { st with reading := .parked ticket }, job₁) ∧
      job₁.ready = job'.ready ∧ (∃ p, job₁.pipes[P.base + P.last]? = some p ∧ p.parked ≠ []) ∧
      job'.Tells job₁ [] ∧ Flows P (some (.parked ticket)) got job₁ task? tally) ∨
    (∃ job₁, st.tryRead .main job' = (.ready (some P.item), { st with reading := .fresh }, job₁) ∧
      job'.Tells job₁ [] ∧ Flows P (some .fresh) (got + 1) job₁ task? tally) ∨
    ∃ job₁, st.tryRead .main job' = (.ready none, { st with reading := .fresh }, job₁) ∧
      job'.Tells job₁ [] ∧ Flows P (some .fresh) got job₁ task? tally ∧
      task? (P.first + P.last) = none ∧ got = (tally P.last).sent := by
  subst hreading
  obtain ⟨p, hp, hcarries⟩ := h.pipes P.last hP.last_lt
  rw [hP.reader?_last, hP.taken_last] at hcarries
  rw [← hpipes] at hp
  have hstock := hcarries.stock (by simp)
  have hitems := hcarries.items (by simp)
  rw [Station.tryRead_eq hinput hp]
  rcases hcarries.channel.pollRead .main with
    ⟨ticket, p', hpoll, hchannel, hparked, hempty, hempty'⟩ |
    ⟨v, p', events, hpoll, hchannel, hhead, hquiet⟩ |
    ⟨p', events, hpoll, hchannel, hempty, hempty', hgone, hquiet⟩ <;> rw [hpoll]
  · refine .inl ⟨ticket, _, rfl, rfl, ⟨p', Job.store_self hp _ _, List.ne_nil_of_mem hparked⟩,
      Job.Tells.store _ _ _, h.mainMoves hP hlevel hpipes hp ⟨hchannel, fun _ => ?_, fun _ v hv => ?_⟩
        fun ticket' hticket => ?_⟩
    · rw [hempty', ← hstock, hempty]
    · rw [hempty'] at hv
      exact absurd hv List.not_mem_nil
    · obtain rfl : ticket = ticket' := by simpa using hticket
      exact hparked
  · obtain rfl : v = P.item := hitems v (by rw [hhead]; exact List.mem_cons_self)
    refine .inr (.inl ⟨_, rfl, hquiet ▸ Job.Tells.store _ _ _, h.mainMoves hP hlevel hpipes hp
      ⟨hchannel, fun _ => ?_, fun _ w hw => ?_⟩ (by simp)⟩)
    · rw [← hstock, hhead, List.length_cons]
      omega
    · exact hitems w (by rw [hhead]; exact List.mem_cons_of_mem _ hw)
  · refine .inr (.inr ⟨_, rfl, hquiet ▸ Job.Tells.store _ _ _, h.mainMoves hP hlevel hpipes hp
      ⟨hchannel, fun _ => ?_, fun _ w hw => ?_⟩ (by simp), by simpa using hgone, ?_⟩)
    · rw [hempty', ← hstock, hempty]
    · rw [hempty'] at hw
      exact absurd hw List.not_mem_nil
    · rw [← hstock, hempty]
      exact (Nat.zero_add _).symm

/-- The main future has received no more than the goal. -/
theorem Flows.got_le {state : ReadState} (h : Flows P (some state) got job task? tally) (hP : P.Proper) :
    got ≤ P.goal := by
  obtain ⟨p, -, hcarries⟩ := h.pipes P.last hP.last_lt
  rw [hP.reader?_last, hP.taken_last] at hcarries
  have hstock := hcarries.stock (by simp)
  have hbounded := h.bounded P.last hP.last_lt
  rw [P.most_of_le hP.cutter_le_last] at hbounded
  omega

/-- The main future leaves when the last stage is over. -/
theorem Flows.mainLeaves (h : Flows P (some .fresh) got job task? tally) (hP : P.Proper) :
    Flows P none got (job.closeRead (P.base + P.last)).2 task? tally := by
  obtain ⟨p, hp, hcarries⟩ := h.pipes P.last hP.last_lt
  rw [hP.reader?_last, hP.taken_last] at hcarries
  rw [Job.closeRead, Job.query_eq hp]
  exact h.mainMoves hP rfl rfl hp ⟨hcarries.channel.closeRead, by simp, by simp⟩ (by simp)

/-- The stages do not mind what the main future does while they are read. -/
theorem Cuts.mainMoves (h : Cuts P start main got job task? tally c) (hP : P.Proper)
    (hflows : Flows P main' got' job' task? tally) (htells : job.Tells job' [])
    (hstays : (task? (P.first + P.last)).isSome → main ≠ none → main' ≠ none) :
    Cuts P start main' got' job' task? tally c :=
  { h with
    flows := hflows
    read := by
      intro k hk hcutter hsome
      have hread := h.read k hk hcutter hsome
      by_cases hlast : k + 1 = P.count
      · obtain rfl : k = P.last := by
          have hsucc := hP.last_succ
          omega
        rw [hP.reader?_last] at hread ⊢
        exact hstays hsome hread
      · rw [Plan.reader?, if_neg hlast] at hread ⊢
        exact hread
    source := by
      have hfirst : 0 + 1 ≠ P.count := by
        have hpos := hP.cutter_pos
        have hlt := hP.cutter_lt
        omega
      have hsource := h.source
      rw [Plan.reader?, if_neg hfirst] at hsource ⊢
      exact hsource
    tells := by
      have htold := h.tells.trans htells
      rwa [List.append_nil] at htold }

/-! ## A poll of the main future -/

/-- A future that reads the last pipe to its end, and has received `got` items. -/
structure Plan.Collects (P : Plan) (col : Machine.Collector) (got : Nat) : Prop where
  pipe : col.pipe = P.base + P.last
  left : col.left = none
  items : col.items = List.replicate got P.item

/-- What a poll of the main future comes to: it is done, with the goal received; or its read is parked,
and either it has received something, or nobody has been woken. -/
structure Plan.MainPolled (P : Plan) (start : Job) (got : Nat) (job : Job) (task? : Nat → Option Task)
    (tally : Nat → Tally) (c : Nat) (done : Bool) (col : Machine.Collector) (got' : Nat) (job' : Job) :
    Prop where
  collects : P.Collects col got'
  cuts : Cuts P start (some col.reading) got' job' task? tally c
  later : got ≤ got'
  ends : done = true → col.reading = .fresh ∧ task? (P.first + P.last) = none ∧ got' = P.goal
  waits : done = false → (∃ ticket, col.reading = .parked ticket ∧
      ∃ p, job'.pipes[P.base + P.last]? = some p ∧ p.parked ≠ []) ∧
    (got' = got → job'.ready = job.ready)

/-- The main future reads until it is done or has to wait. -/
theorem Cuts.pollMain {col : Machine.Collector}
    (h : Cuts P start (some col.reading) got job task? tally c) (hP : P.Proper)
    (hcol : P.Collects col got) (asleep : Job) (hlevel : asleep.level = job.level)
    (hpipes : asleep.pipes = job.pipes) (htells : job.Tells asleep []) :
    ∃ done col' got' job',
      (∀ fuel > P.goal - got, Machine.pollMain fuel col asleep = (done, col', job')) ∧
      P.MainPolled start got asleep task? tally c done col' got' job' := by
  -- each read that does not wait takes one of the items that are still to come
  induction hleft : P.goal - got using Nat.strong_induction_on generalizing col got job asleep with
  | _ left ih =>
    subst hleft
    set st : Station := { input := some col.pipe, reading := col.reading } with hst
    have hinput : st.input = some (P.base + P.last) := congrArg some hcol.pipe
    have hgoes : col.left ≠ some 0 := by simp [hcol.left]
    rcases h.flows.mainReads hP hlevel hpipes hinput rfl with
      ⟨ticket, job₁, hread, hready, hparked, htells₁, hflows⟩ | ⟨job₁, hread, htells₁, hflows⟩ |
      ⟨job₁, hread, htells₁, hflows, hgone, hall⟩
    · refine ⟨false, { col with reading := .parked ticket }, got, job₁, fun fuel hfuel => ?_,
        ⟨hcol.pipe, hcol.left, hcol.items⟩, ?_, le_rfl, by simp,
        fun _ => ⟨⟨ticket, rfl, hparked⟩, fun _ => hready⟩⟩
      · obtain ⟨fuel, rfl⟩ : ∃ k, fuel = k + 1 := ⟨fuel - 1, by omega⟩
        simp only [Machine.pollMain, if_neg hgoes, ← hst, hread]
      · exact h.mainMoves hP hflows (htells.trans htells₁) fun _ _ => by simp
    · -- an item has been taken
      have hcuts := h.mainMoves hP hflows (htells.trans htells₁) fun _ _ => by simp
      have hle := hflows.got_le hP
      have hcollects : P.Collects
          { col with reading := .fresh, items := P.item :: col.items, left := col.left.map (· - 1) }
          (got + 1) :=
        ⟨hcol.pipe, by rw [hcol.left]; rfl, by rw [hcol.items]; rfl⟩
      obtain ⟨done, col', got', job', hpoll, hpolled⟩ :=
        ih (P.goal - (got + 1)) (by omega) hcuts hcollects _ rfl rfl .refl rfl
      have hlater := hpolled.later
      refine ⟨done, col', got', job', fun fuel hfuel => ?_, hpolled.collects, hpolled.cuts, by omega,
        hpolled.ends, fun hwaits => ⟨(hpolled.waits hwaits).1, fun hsame => absurd hsame (by omega)⟩⟩
      obtain ⟨fuel, rfl⟩ : ∃ k, fuel = k + 1 := ⟨fuel - 1, by omega⟩
      simp only [Machine.pollMain, if_neg hgoes, ← hst, hread]
      exact hpoll fuel (by omega)
    · refine ⟨true, { col with reading := .fresh }, got, job₁, fun fuel hfuel => ?_,
        ⟨hcol.pipe, hcol.left, hcol.items⟩, ?_, le_rfl, fun _ => ⟨rfl, hgone, ?_⟩, by simp⟩
      · obtain ⟨fuel, rfl⟩ : ∃ k, fuel = k + 1 := ⟨fuel - 1, by omega⟩
        simp only [Machine.pollMain, if_neg hgoes, ← hst, hread]
      · exact h.mainMoves hP hflows (htells.trans htells₁) fun _ _ => by simp
      · exact hall.trans (h.sent P.last hP.last_lt hP.cutter_le_last hgone)

/-! ## A line that is read to its end -/

/-- Where no task is ready, and the main future waits unless it has left, it has left, and every stage is
over. -/
theorem Conveys.stalled {k : Nat} (h : Conveys P start main got k m) (hP : P.Proper)
    (hworking : Working P.toSpan m) (hnext : m.nextReady? P.pool = none)
    (hmain : main ≠ none → ∃ p, m.job.pipes[P.base + P.last]? = some p ∧ p.parked ≠ []) :
    main = none ∧ ∀ i < P.count, m.task? (P.first + i) = none := by
  obtain ⟨tally, c, hcuts, -⟩ := h.cuts
  have hlast := hP.last_lt
  refine hcuts.flows.stalled hworking.wired (fun i hi t ht => ?_) (by omega) hmain
  exact Machine.nextReady?_none hnext ht (hworking.wired.fit i hi t ht).pool

/-- The main future has been polled, and has to wait. -/
theorem Conveys.mainWaits {k : Nat} (h : Conveys P start main got k m) (hP : P.Proper)
    (hwatches : P.watches = []) (hhalt : m.halt = none) {ticket : Nat}
    (hreading : main = some (.parked ticket))
    (hparked : ∃ p, m.job.pipes[P.base + P.last]? = some p ∧ p.parked ≠ []) :
    ∃ enough m', (∀ fuel ≥ enough, m.turn fuel P.pool = m') ∧ m'.halt = none ∧
      (m'.job.mainWoken || (m'.nextReady? P.pool).isSome) = true ∧
      ∃ k' < k, Conveys P start main got k' m' := by
  -- it would have left if nobody could go on
  have hstays : ∀ {k m'}, Working P.toSpan m' ∧ Conveys P start main got k m' →
      m'.nextReady? P.pool = none → ¬ ∃ p, m'.job.pipes[P.base + P.last]? = some p ∧ p.parked ≠ [] := by
    rintro k m' ⟨hworking, hconveys⟩ hnext hparked
    have hleft := (hconveys.stalled hP hworking hnext fun _ => hparked).1
    rw [hreading] at hleft
    simp at hleft
  obtain ⟨enough, m', hturn, hhalt', hawake, k', hless, -, hm'⟩ :=
    (wanes_conveys hP hwatches start main got).turn_wakes h.enqueue hhalt
      (fun hnext => hstays h.enqueue hnext hparked) fun {k m'} hlowered hnext => by
        obtain ⟨tally, c, hcuts, -⟩ := hlowered.2.cuts
        refine (hcuts.flows.heeds ticket hreading).resolve_right fun ⟨p, hp, hmem⟩ => ?_
        exact hstays hlowered hnext ⟨p, hp, List.ne_nil_of_mem hmem⟩
  exact ⟨enough, m', hturn, hhalt', hawake, k', hless, hm'⟩

/-- A poll of the main future ends it with the goal, or it has to wait and is polled again. -/
theorem hears_conveys (hP : P.Proper) (hwatches : P.watches = []) (start : Job) :
    Machine.Hears P.pool
      (fun k col m => ∃ got, P.Collects col got ∧ Conveys P start (some col.reading) got k m)
      fun items m => items = List.replicate P.goal P.item ∧ m.task? (P.first + P.last) = none ∧
        ∃ k, Conveys P start (some .fresh) P.goal k m where
  poll := by
    rintro k col m ⟨got, hcol, hworks, tally, c, hcuts, hbound⟩ hhalt
    obtain ⟨done, col', got', job', hpoll, hpolled⟩ :=
      hcuts.pollMain hP hcol { m.job with mainWoken := false } rfl rfl (.of_eq rfl rfl)
    have hworks' := hworks.pollMain (P.goal - got + 1) hcol.pipe
    rw [hpoll _ (Nat.lt_succ_self _)] at hworks'
    have hmoved : Conveys P start (some col'.reading) got' (P.effort got' tally { m with job := job' })
        { m with job := job' } := ⟨hworks', tally, c, hpolled.cuts, le_rfl⟩
    refine ⟨P.goal - got + 1, done, col', job', fun fuel hfuel => hpoll fuel hfuel, fun hdone => ?_,
      fun hwaits => ?_⟩
    · obtain ⟨hreading, hgone, hgot⟩ := hpolled.ends hdone
      rw [hreading, hgot] at hmoved
      exact ⟨by rw [hpolled.collects.items, hgot, List.reverse_replicate], hgone, _, hmoved⟩
    · obtain ⟨⟨ticket, hreading, hparked⟩, hready⟩ := hpolled.waits hwaits
      have hless : P.effort got' tally { m with job := job' } ≤ k := by
        refine le_trans ?_ hbound
        rcases hpolled.later.eq_or_lt with rfl | hlater
        · have hsame : job'.ready = m.job.ready := hready rfl
          rw [Plan.effort, Plan.effort, hsame]
        · have hle := hpolled.cuts.flows.got_le hP
          have hlabor : P.labor got' tally < P.labor got tally := by
            rw [Plan.labor, Plan.labor]
            omega
          have hspent : P.effort got' tally { m with job := job' } < P.effort got tally m :=
            P.effort_step hlabor rfl
          exact hspent.le
      obtain ⟨enough, m', hturn, hhalt', hawake, k', hk', hm'⟩ :=
        hmoved.mainWaits hP hwatches hhalt (congrArg some hreading) hparked
      exact ⟨enough, m', hturn, hhalt', hawake, k', hk'.trans_le hless, got', hpolled.collects, hm'⟩

/-- **The goal is delivered.** The main future comes to its end, and has received the goal. -/
theorem Conveys.runUntil {k : Nat} {col : Machine.Collector}
    (h : Conveys P start (some col.reading) got k m) (hP : P.Proper) (hwatches : P.watches = [])
    (hcol : P.Collects col got) (hhalt : m.halt = none) :
    ∃ enough m', (∀ fuel ≥ enough, m.runUntil fuel P.pool col = (List.replicate P.goal P.item, m')) ∧
      m'.halt = none ∧ m'.task? (P.first + P.last) = none ∧
      ∃ k', Conveys P start (some .fresh) P.goal k' m' := by
  obtain ⟨enough, items, m', hrun, hhalt', rfl, hgone, hread⟩ :=
    (hears_conveys hP hwatches start).runUntil ⟨got, hcol, h⟩ hhalt
  exact ⟨enough, m', hrun, hhalt', hgone, hread⟩

/-! ## A line that settles -/

/-- The main future leaves. -/
theorem Conveys.mainLeaves {k : Nat} (h : Conveys P start (some .fresh) got k m) (hP : P.Proper)
    (hgone : m.task? (P.first + P.last) = none) :
    ∃ k', Conveys P start none got k' { m with job := (m.job.closeRead (P.base + P.last)).2 } := by
  obtain ⟨⟨incoming, hincoming, hwired⟩, hindexed⟩ := h.works
  obtain ⟨tally, c, hcuts, -⟩ := h.cuts
  have hserves : Job.Serves (fun _ => none) (fun _ => False) m.job
      (m.job.closeRead (P.base + P.last)).2 := Job.serves_closeRead _
  have hmoved : Cuts P start none got (m.job.closeRead (P.base + P.last)).2 m.task? tally c :=
    hcuts.mainMoves hP (hcuts.flows.mainLeaves hP) (.closeRead _) fun hsome => by simp [hgone] at hsome
  exact ⟨_, ⟨⟨incoming, hincoming, hwired.serve hserves (fun _ _ => rfl) fun _ => id⟩, hindexed⟩, tally, c,
    hmoved, le_rfl⟩

/-- **All stages end.** When the main future has left a line settles: every stage before the cutter has
found its pipe broken, and nothing else has been told. -/
theorem Conveys.settle {k : Nat} (h : Conveys P start none got k m) (hP : P.Proper)
    (hwatches : P.watches = []) (hhalt : m.halt = none) :
    ∃ enough m', (∀ fuel ≥ enough, m.settle fuel P.pool = m') ∧ m'.halt = none ∧
      m'.poolTasks P.pool = [] ∧ start.Tells m'.job (P.broken 0) := by
  have hover : ∀ {k m}, Conveys P start none got k m → Working P.toSpan m → m.nextReady? P.pool = none →
      ∀ i < P.count, m.task? (P.first + i) = none := fun hconveys hworking hnext =>
    (hconveys.stalled hP hworking hnext fun hmain => absurd rfl hmain).2
  obtain ⟨enough, m₁, m', hsettle, hhalt', hnobody, ⟨k₁, -, hworking, hconveys⟩, hnext, htells⟩ :=
    (wanes_conveys hP hwatches start none got).settle h.enqueue hhalt fun ⟨hworking, hconveys⟩ hnext =>
      P.toSpan.nobody hwatches hworking.works (hover hconveys hworking hnext)
  refine ⟨enough, m', hsettle, hhalt', hnobody, ?_⟩
  obtain ⟨tally, c, hcuts, -⟩ := hconveys.cuts
  have hall : c = 0 := by
    refine Nat.eq_zero_of_not_pos fun hpos => ?_
    have hlt := hP.cutter_lt
    have hsome := (hcuts.ended 0 hP.cutter_pos).mpr hpos
    rw [hover hconveys hworking hnext 0 (by omega)] at hsome
    simp at hsome
  have htold := hcuts.tells.trans htells
  rwa [List.append_nil, hall] at htold

end Pipework
