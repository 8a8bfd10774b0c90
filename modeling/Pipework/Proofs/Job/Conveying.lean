import Pipework.Proofs.Job.Cutting
import Pipework.Proofs.Job.Linking
import Pipework.Proofs.Job.Reckoning

/-!
# Lines that come to their end

Each step that a stage may still take, and each item that the main future may still receive, counts for
more than all polls that it may cause. So every poll lowers `Plan.effort`, whether the stage takes a
step or was woken for nothing (`wanes_conveys`).

Nobody waits for ever: where no stage is ready, whoever is parked on a read waits for the stage before
it, and the first stage reads nothing; whoever is blocked on a write waits for the stage after it, and
the main future after the last one waits for a read. So there is nobody left to wait
(`Flows.stalled`).
-/

namespace Pipework

variable {P : Plan} {start : Job} {main : Option ReadState} {got : Nat} {job job' : Job}
  {task? : Nat → Option Task} {tally : Nat → Tally} {i c : Nat} {t : Task} {m : Machine}

/-! ## What is left to do -/

namespace Plan

variable (P : Plan)

/-- The stages among these tasks. -/
def among (ids : List Nat) : Finset Nat := (Finset.range P.count).filter fun i => P.first + i ∈ ids

/-- A bound for the steps of the stages and the items that the main future may still receive. -/
def labor (got : Nat) (tally : Nat → Tally) : Nat :=
  (∑ i ∈ Finset.range P.count, P.weight i (tally i)) + (P.goal - got)

/-- A bound for the polls that are still to come. -/
def effort (got : Nat) (tally : Nat → Tally) (m : Machine) : Nat :=
  (P.count + 1) * P.labor got tally + ((P.among m.job.ready).card + (P.among m.incoming).card)

theorem labor_step {n : Tally} (hi : i < P.count) (hn : P.weight i n < P.weight i (tally i)) :
    P.labor got (Function.update tally i n) < P.labor got tally := by
  have hsum : ∑ k ∈ Finset.range P.count, P.weight k (Function.update tally i n k) <
      ∑ k ∈ Finset.range P.count, P.weight k (tally k) := by
    refine Finset.sum_lt_sum (fun k _ => ?_) ⟨i, Finset.mem_range.mpr hi, ?_⟩
    · by_cases hk : k = i
      · subst hk
        rw [Function.update_self]
        exact hn.le
      · rw [Function.update_of_ne hk]
    · rwa [Function.update_self]
  exact Nat.add_lt_add_right hsum _

theorem effort_step {m m' : Machine} {got' : Nat} {tally' : Nat → Tally}
    (hless : P.labor got' tally' < P.labor got tally) (hincoming : m'.incoming = m.incoming) :
    P.effort got' tally' m' < P.effort got tally m :=
  P.toSpan.effort_step hless hincoming

theorem effort_poll {m m' : Machine} (hi : i < P.count) (hmem : P.first + i ∈ m.job.ready)
    (hready : m'.job.ready = m.job.ready.filter (· != P.first + i))
    (hincoming : m'.incoming = m.incoming) : P.effort got tally m' < P.effort got tally m :=
  P.toSpan.effort_poll hi hmem hready hincoming

theorem effort_enqueue (m : Machine) (pool : Nat) :
    P.effort got tally (m.enqueue pool) ≤ P.effort got tally m :=
  P.toSpan.effort_enqueue (P.labor got tally) m pool

end Plan

/-! ## Polls -/

/-- A stage that is over leaves, and will take no more steps. -/
theorem Flows.over {st' : Station} {b : Behavior Unit} {n : Tally}
    (h : Flows P main got job (P.put i (some { t with station := st', behavior := b }) task?)
      (Function.update tally i n)) (hi : i < P.count) (hreads : ¬ b.Reads)
    (hmost : P.weight i n ≤ P.weight i (tally i)) :
    job.Tells (st'.release job) [] ∧
      Flows P main got (st'.release job) (P.put i none task?)
        (Function.update tally i { n with steps := 0 }) ∧
      P.weight i { n with steps := 0 } < P.weight i (tally i) := by
  obtain ⟨htells, hleft⟩ := h.release hi (Span.put_self _) hreads
  rw [P.put_put, Function.update_idem, Function.update_self] at hleft
  refine ⟨htells, hleft, lt_of_lt_of_le ?_ hmost⟩
  have hgoes := (h.stages i hi _ (Span.put_self _)).goes
  rw [Function.update_self] at hgoes
  exact Nat.add_lt_add_left hgoes.steps_pos _

/-- The poll of a ready stage comes to its end, and lowers the bound. -/
theorem Cuts.pollTask (h : Cuts P start main got m.job m.task? tally c) (hP : P.Proper)
    (hi : i < P.count) (ht : m.task? (P.first + i) = some t) (hready : P.first + i ∈ m.job.ready) :
    ∃ ended m' tally' c', (∀ n > P.weight i (tally i),
        (m.unready (P.first + i)).pollTask n (P.first + i) t = (ended, m')) ∧
      m'.halt = m.halt ∧ Cuts P start main got m'.job m'.task? tally' c' ∧
      P.effort got tally' m' < P.effort got tally m := by
  have hbusy : Cuts P start main got (m.unready (P.first + i)).job m.task? tally c :=
    h.congr rfl rfl rfl (.of_eq rfl rfl)
  have hopen : i = 0 → P.reader? main m.task? 0 ≠ none ∨ t.behavior.Offers := by
    rintro rfl
    exact (h.source t ht).symm.imp_left fun hnothing => hnothing.2
  obtain ⟨progress, st', job', hrun, hpolled⟩ := hbusy.flows.run hP hi ht hopen
  cases hpolled with
  | @waits b _ _ n hflows htells hless hoffers =>
    set parked := ({ m.unready (P.first + i) with job := job' } : Machine).setTask (P.first + i)
      { t with behavior := b, station := st' }
    have htasks : parked.task? = P.put i (some { t with behavior := b, station := st' }) m.task? :=
      Machine.task?_setTask _ _ _ ht
    have hcuts := hbusy.waits hi ht hflows htells hoffers
    rw [← htasks] at hcuts
    refine ⟨false, parked, _, c, fun k hk => ?_, rfl, hcuts, ?_⟩
    · rw [Machine.pollTask, hrun k hk]
    · rcases hless with hless | ⟨rfl, hsame⟩
      · exact P.effort_step (P.labor_step hi hless) rfl
      · rw [Function.update_eq_self]
        exact P.effort_poll hi hready hsame rfl
  | @ends _ _ n hflows htells hmost hpos hended =>
    obtain ⟨htells', hleft, hless⟩ := hflows.over hi id hmost
    have hcuts := (hbusy.ends hP hi ht hpos hflows hleft (htells.trans htells') hended rfl).logEnd t.name
      (.ok ()) (by simp)
    rw [Span.put, ← Machine.task?_removeTask] at hcuts
    refine ⟨true, (m.unready (P.first + i)).endTask (P.first + i) t.name st' (.ok ()) job', _, c,
      fun k hk => ?_, rfl, hcuts, P.effort_step (P.labor_step hi hless) rfl⟩
    rw [Machine.pollTask, hrun k hk]
  | @broken b _ _ n hflows htells hmost hoffers hgone =>
    have hreads : ¬ b.Reads := by
      cases b with
      | act action next =>
        cases action with
        | write v => exact id
        | _ => exact hoffers.elim
      | _ => exact hoffers.elim
    obtain ⟨htells', hleft, hless⟩ := hflows.over hi hreads hmost
    have hcuts := (hbusy.breaks hP hi ht hgone hflows hleft (htells.trans htells') hoffers).logEnd t.name
      (.error (.brokenPipe (P.name i))) fun e he => by
        obtain rfl := Except.error.inj he
        rfl
    rw [Span.put, ← Machine.task?_removeTask] at hcuts
    refine ⟨true, (m.unready (P.first + i)).endTask (P.first + i) t.name st'
      (.error (.brokenPipe (P.name i))) job', _, i, fun k hk => ?_, rfl, hcuts,
      P.effort_step (P.labor_step hi hless) rfl⟩
    rw [Machine.pollTask, hrun k hk]

/-- A pipeline whose stages are at work, undisturbed since its job was `start`, with a bound for what
is left to do. -/
structure Conveys (P : Plan) (start : Job) (main : Option ReadState) (got k : Nat) (m : Machine) :
    Prop where
  works : Works P.toSpan m
  cuts : ∃ tally c, Cuts P start main got m.job m.task? tally c ∧ P.effort got tally m ≤ k

theorem Conveys.enqueue {k : Nat} (h : Conveys P start main got k m) :
    Working P.toSpan (m.enqueue P.pool) ∧ Conveys P start main got k (m.enqueue P.pool) := by
  obtain ⟨tally, c, hcuts, hbound⟩ := h.cuts
  exact ⟨h.works.enqueue, h.works.enqueue.works, tally, c, hcuts.congr rfl rfl rfl (.of_eq rfl rfl),
    (P.effort_enqueue m P.pool).trans hbound⟩

/-- On a pool of its own every poll lowers the bound. -/
theorem wanes_conveys (hP : P.Proper) (hwatches : P.watches = []) (start : Job)
    (main : Option ReadState) (got : Nat) :
    Machine.Wanes P.pool fun k m => Working P.toSpan m ∧ Conveys P start main got k m := by
  have hwanes : Machine.Wanes P.pool fun k m => Working P.toSpan m ∧ ∃ tally c,
      Cuts P start main got m.job m.task? tally c ∧ P.effort got tally m ≤ k := by
    refine P.toSpan.wanes hwatches ?_ ?_
    · rintro k m i t ⟨tally, c, hcuts, hbound⟩ hi ht hready
      obtain ⟨ended, m', tally', c', hpoll, hhalt, hcuts', hless⟩ := hcuts.pollTask hP hi ht hready
      exact ⟨P.weight i (tally i) + 1, ended, m', hpoll, hhalt, P.effort got tally' m',
        hless.trans_le hbound, tally', c', hcuts', le_rfl⟩
    · rintro k m ⟨tally, c, hcuts, hbound⟩
      exact ⟨tally, c, hcuts.congr rfl rfl rfl (.of_eq rfl rfl), (P.effort_enqueue m P.pool).trans hbound⟩
  refine ⟨fun ⟨hworking, hconveys⟩ hhalt hready ht hpool => ?_, fun h => h.2.enqueue⟩
  obtain ⟨budget, ended, m', hpoll, hhalt', k', hless, hworking', hcuts⟩ :=
    hwanes.poll ⟨hworking, hconveys.cuts⟩ hhalt hready ht hpool
  exact ⟨budget, ended, m', hpoll, hhalt', k', hless, hworking', hworking'.works, hcuts⟩

/-! ## Nobody waits for ever -/

/-- Each pipe is a link. -/
theorem Flows.linked (h : Flows P main got job task? tally) : P.Linked main job task? := by
  intro i hi
  obtain ⟨p, hp, hcarries⟩ := h.pipes i hi
  have hwrites : P.writes task? i = (task? (P.first + i)).isSome := by
    obtain hnone | ⟨t, ht⟩ := Option.eq_none_or_eq_some (task? (P.first + i))
    · rw [Span.writes, hnone]
      rfl
    · rw [Span.writes, ht, Option.any_some, (h.stages i hi t ht).output]
      rfl
  exact ⟨p, hp, hwrites ▸ hcarries.channel.link⟩

/-- Where no stage is ready, and the main future waits unless it has left, it has left, and every
stage is over. -/
theorem Flows.stalled (h : Flows P main got job task? tally)
    (hwired : Wired P.toSpan none job task? [])
    (hasleep : ∀ i < P.count, ∀ t, task? (P.first + i) = some t → P.first + i ∉ job.ready)
    (hcount : 0 < P.count)
    (hmain : main ≠ none → ∃ p, job.pipes[P.base + (P.count - 1)]? = some p ∧ p.parked ≠ []) :
    main = none ∧ ∀ i < P.count, task? (P.first + i) = none :=
  h.linked.over (fun i hi t ht => Span.waits_of_asleep hwired hi ht (h.stages i hi t ht).timers
    (hasleep i hi t ht)) hcount hmain

end Pipework
