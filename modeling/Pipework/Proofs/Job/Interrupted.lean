import Pipework.Proofs.Command.Mortal
import Pipework.Proofs.Job.Settling
import Pipework.Proofs.Job.Torn
import Pipework.Proofs.Job.Waning

/-!
# Interrupted lines end

`Machine.Move` is what may happen to a line at work: a task is polled, somebody reads or leaves its
last pipe, time passes, the line is interrupted or torn down; every state of a run is reached by
such moves (`Machine.Reaches`). Two invariants carry the result:

* `Alive` — the line is wired, and each stage comes to its end after a teardown, from where it is;
* `Span.Torn` — an interrupt has torn the line down.

`interrupted_line_ends` says what follows: from an interrupt at once to the end on, or from the one
after the first, no pipe of the line takes an item, and the next poll of each stage is its last.
-/

namespace Pipework

/-! ## More steps than needed -/

/-- A run that comes to its end, or to a wait, does so with more steps too. -/
theorem Station.run_mono {α : Type} {n n' : Nat} (hn : n ≤ n') {who : Waker} {st st' : Station}
    {job job' : Job} {b : Behavior α} {progress : Progress α}
    (hrun : st.run n who job b = (progress, st', job'))
    (hover : ∀ rest, progress ≠ .unfinished rest) :
    st.run n' who job b = (progress, st', job') := by
  induction n generalizing n' st job b with
  | zero =>
    obtain ⟨rfl, -⟩ := Prod.mk.inj hrun
    exact absurd rfl (hover b)
  | succ n ih =>
    obtain ⟨n', rfl⟩ : ∃ k, n' = k + 1 := ⟨n' - 1, by omega⟩
    have hn : n ≤ n' := by omega
    cases b with
    | loop s body next => exact ih hn hrun
    | act action next =>
      rcases ha : st.attempt who action job with ⟨_ | answer, st₁, job₁⟩ <;>
        simp only [run, ha] at hrun ⊢
      · exact hrun
      · exact ih hn hrun
    | _ => exact hrun

/-- A poll that does not stop the machine has the same outcome with more steps. -/
theorem Machine.pollTask_mono {n n' : Nat} (hn : n ≤ n') {m : Machine} {id : Nat} {t : Task}
    (hhalt : (m.pollTask n id t).2.halt = none) : m.pollTask n' id t = m.pollTask n id t := by
  rcases hrun : t.station.run n (.task id) m.job t.behavior with ⟨progress, st, job⟩
  have hmore := Station.run_mono hn hrun
  cases progress <;> simp only [pollTask, hrun] at hhalt ⊢
  case unfinished rest => simp at hhalt
  case crashed => simp at hhalt
  case done a => rw [hmore (by simp)]
  case failed e => rw [hmore (by simp)]
  case waiting rest => rw [hmore (by simp)]

/-! ## Polls of a line at work -/

variable {L : Span} {m m' : Machine}

/-- A line at work each of whose stages comes to its end after a teardown. -/
structure Alive (L : Span) (m : Machine) : Prop where
  works : Works L m
  perishable : ∀ i < L.count, ∀ t, m.task? (L.first + i) = some t → t.Perishable

theorem Station.waits_of_pending {β : Type} {st st' : Station} {who : Waker} {action : Action β}
    {job job' : Job} (ha : st.attempt who action job = (.pending, st', job')) : action.Waits := by
  cases action <;> first | trivial | simp [attempt] at ha

/-- A mortal behavior leaves level and time as they are, and is parked as a mortal one. -/
theorem Station.run_mortal {n : Nat} {who : Waker} {st st' : Station} {job job' : Job}
    {b : Behavior Unit} {progress : Progress Unit} (hb : b.Mortal)
    (hrun : st.run n who job b = (progress, st', job')) :
    job'.standing = job.standing ∧
      ∀ rest, progress = .waiting rest → rest.Mortal ∧ rest.Parked := by
  induction n generalizing st job b with
  | zero =>
    obtain ⟨rfl, rfl, rfl⟩ : .unfinished b = progress ∧ st = st' ∧ job = job' := by
      simpa [Station.run] using hrun
    exact ⟨rfl, by simp⟩
  | succ n ih =>
    cases b with
    | result a =>
      obtain ⟨rfl, rfl, rfl⟩ : .done a = progress ∧ st = st' ∧ job = job' := by
        simpa [Station.run] using hrun
      exact ⟨rfl, by simp⟩
    | fail e =>
      obtain ⟨rfl, rfl, rfl⟩ : .failed e = progress ∧ st = st' ∧ job = job' := by
        simpa [Station.run] using hrun
      exact ⟨rfl, by simp⟩
    | crash => exact hb.elim
    | loop s body next => exact ih hb.unfold hrun
    | act action next =>
      have hstanding := st.standing_attempt job who hb.1
      rcases ha : st.attempt who action job with ⟨_ | answer, st₁, job₁⟩ <;>
        simp only [Station.run, ha, Prod.mk.injEq] at hrun <;> rw [ha] at hstanding
      · obtain ⟨rfl, rfl, rfl⟩ := hrun
        refine ⟨hstanding, fun rest hrest => ?_⟩
        obtain rfl := Progress.waiting.inj hrest
        exact ⟨hb, Station.waits_of_pending ha⟩
      · obtain ⟨hstanding', hrest⟩ := ih (hb.2 answer).1 hrun
        exact ⟨hstanding'.trans hstanding, hrest⟩

/-- The poll of a mortal stage leaves level and time as they are. -/
theorem Machine.standing_pollTask {t : Task} (ht : t.behavior.Mortal) (budget id : Nat) :
    (m.pollTask budget id t).2.job.standing = m.job.standing := by
  rcases hrun : t.station.run budget (.task id) m.job t.behavior with ⟨progress, st, job⟩
  have hstanding := (Station.run_mortal ht hrun).1
  have hend : ∀ outcome, (logEnd t.name outcome (st.release job)).standing = m.job.standing :=
    fun outcome => by rw [Job.standing_eq (core_logEnd ..), Job.standing_eq (Station.core_release ..), hstanding]
  cases progress <;> simp only [pollTask, hrun]
  case done a => exact hend (.ok ())
  case failed e => exact hend (.error e)
  case waiting rest => exact hstanding
  case crashed => exact hstanding
  case unfinished rest => exact hstanding

/-- A watch raises the level only by tearing everything down. -/
theorem Station.run_raises (first last : Nat) {n : Nat} {who : Waker} {st st' : Station}
    {job job' : Job} {b : Behavior Unit} {progress : Progress Unit} (hb : b.Obeys .operating) (hst : st.Idle)
    (hrun : st.run n who job b = (progress, st', job')) :
    job.level ≤ job'.level ∧ (job.level < Job.hardLevel ∨ job.Shut first last →
      job'.level < Job.hardLevel ∨ job'.Shut first last) := by
  induction n generalizing st job b with
  | zero =>
    obtain ⟨rfl, rfl, rfl⟩ : .unfinished b = progress ∧ st = st' ∧ job = job' := by
      simpa [Station.run] using hrun
    exact ⟨Nat.le_refl _, id⟩
  | succ n ih =>
    cases b with
    | result a =>
      obtain ⟨rfl, rfl, rfl⟩ : .done a = progress ∧ st = st' ∧ job = job' := by
        simpa [Station.run] using hrun
      exact ⟨Nat.le_refl _, id⟩
    | fail e =>
      obtain ⟨rfl, rfl, rfl⟩ : .failed e = progress ∧ st = st' ∧ job = job' := by
        simpa [Station.run] using hrun
      exact ⟨Nat.le_refl _, id⟩
    | crash =>
      obtain ⟨rfl, rfl, rfl⟩ : .crashed = progress ∧ st = st' ∧ job = job' := by
        simpa [Station.run] using hrun
      exact ⟨Nat.le_refl _, id⟩
    | loop s body next => exact ih hb.unfold hst hrun
    | act action next =>
      obtain ⟨hidle, hharmless⟩ := attempt_operates who hb.1 hst job
      have hone : job.level ≤ (st.attempt who action job).2.2.level ∧
          (job.level < Job.hardLevel ∨ job.Shut first last →
            (st.attempt who action job).2.2.level < Job.hardLevel ∨
              (st.attempt who action job).2.2.Shut first last) := by
        by_cases hmeek : action.Meek
        · have hlevel : (st.attempt who action job).2.2.level = job.level :=
            congrArg Prod.fst (st.standing_attempt job who hmeek)
          rw [hlevel]
          exact ⟨Nat.le_refl _, Or.imp_right fun h => h.serve hharmless.serves hharmless.running⟩
        · cases action with
          | interrupt hard =>
            cases hard with
            | true =>
              refine ⟨(Nat.le_succ _).trans (Nat.le_max_left _ _), fun _ => .inr ?_⟩
              exact job.shut_interruptHard first last
            | false =>
              refine ⟨Nat.le_succ _, fun hbefore => ?_⟩
              by_cases hlevel : 1 ≤ job.level
              · exact .inr (Job.shut_interrupt hlevel first last)
              · have hfirst : job.interrupt.level = job.level + 1 := rfl
                exact .inl (show job.interrupt.level < 2 by omega)
          | _ => exact absurd trivial hmeek
      rcases ha : st.attempt who action job with ⟨_ | answer, st₁, job₁⟩ <;>
        rw [ha] at hidle hone <;> simp only [Station.run, ha, Prod.mk.injEq] at hrun
      · obtain ⟨rfl, rfl, rfl⟩ := hrun
        exact hone
      · obtain ⟨hraised, hdown⟩ := ih (hb.2 answer trivial) hidle hrun
        exact ⟨hone.1.trans hraised, hdown ∘ hone.2⟩

/-- The poll of a watch raises the level only by tearing everything down. -/
theorem Machine.pollTask_raises {t : Task} (ht : t.Operates) (budget id first last : Nat) :
    m.job.level ≤ (m.pollTask budget id t).2.job.level ∧
      (m.job.level < Job.hardLevel → (m.pollTask budget id t).2.job.level < Job.hardLevel ∨
        (m.pollTask budget id t).2.job.Shut first last) := by
  rcases hrun : t.station.run budget (.task id) m.job t.behavior with ⟨progress, st, job⟩
  obtain ⟨hidle, -⟩ := Station.run_operates ht.behavior ht.station hrun
  have hraised := Station.run_raises first last ht.behavior ht.station hrun
  have hjob : m.job.level ≤ job.level ∧ (m.job.level < Job.hardLevel →
      job.level < Job.hardLevel ∨ job.Shut first last) := hraised.imp_right fun h hlow => h (.inl hlow)
  have hend : ∀ outcome, m.job.level ≤ (logEnd t.name outcome (st.release job)).level ∧
      (m.job.level < Job.hardLevel → (logEnd t.name outcome (st.release job)).level < Job.hardLevel ∨
        (logEnd t.name outcome (st.release job)).Shut first last) := by
    intro outcome
    have hlevel : (logEnd t.name outcome (st.release job)).level = job.level := by
      rw [Station.release_idle hidle]
      exact congrArg Prod.fst (Job.standing_eq (core_logEnd t.name outcome job))
    have hlog := harmless_logEnd t.name outcome job
    rw [hlevel, Station.release_idle hidle]
    exact hjob.imp_right fun h hlow => (h hlow).imp_right fun h => h.serve hlog.serves hlog.running
  cases progress <;> simp only [pollTask, hrun]
  case done a => exact hend (.ok ())
  case failed e => exact hend (.error e)
  case waiting rest => exact hjob
  case crashed => exact hjob
  case unfinished rest => exact hjob

/-- A stage that is polled is parked then, or it has left. -/
theorem Machine.pollTask_perishable {id : Nat} {t : Task} (ht : m.task? id = some t)
    (hmortal : t.behavior.Mortal) {budget : Nat} (hhalt : (m.pollTask budget id t).2.halt = none) :
    ∃ t', (m.pollTask budget id t).2.task? = Function.update m.task? id t' ∧
      ∀ u, t' = some u → u.Perishable := by
  rcases hrun : t.station.run budget (.task id) m.job t.behavior with ⟨progress, st, job⟩
  have hrest := (Station.run_mortal hmortal hrun).2
  cases progress <;> simp only [pollTask, hrun] at hhalt ⊢
  case done a => exact ⟨none, task?_removeTask _ id, by simp⟩
  case failed e => exact ⟨none, task?_removeTask _ id, by simp⟩
  case waiting rest =>
    refine ⟨_, task?_setTask _ id _ ht, ?_⟩
    rintro u hu
    obtain rfl := Option.some.inj hu
    exact ⟨(hrest rest rfl).1, .inl (hrest rest rfl).2⟩
  case crashed => simp at hhalt
  case unfinished rest => simp at hhalt

/-- Who is in the pool and no stage is a watch. -/
theorem Works.operates (h : Works L m) {id : Nat} {t : Task} (ht : m.task? id = some t)
    (hpool : t.pool = L.pool) (hno : ∀ i < L.count, id ≠ L.first + i) : t.Operates := by
  obtain ⟨incoming, -, hwired⟩ := h.wired
  exact (hwired.others id t ht hpool hno).2

/-- A poll keeps a line alive. -/
theorem Alive.pollTask (h : Alive L m) {id : Nat} {t : Task} (ht : m.task? id = some t)
    (hpool : t.pool = L.pool) (budget : Nat)
    (hhalt : ((m.unready id).pollTask budget id t).2.halt = none) :
    Alive L ((m.unready id).pollTask budget id t).2 where
  works := h.works.pollTask ht hpool budget hhalt
  perishable := by
    intro k hk u hu
    by_cases hstage : ∃ i < L.count, id = L.first + i
    · obtain ⟨i, hi, rfl⟩ := hstage
      obtain ⟨t', htasks, hperishable⟩ :=
        Machine.pollTask_perishable (m := m.unready (L.first + i)) ht (h.perishable i hi t ht).mortal hhalt
      rw [htasks] at hu
      by_cases hki : L.first + k = L.first + i
      · rw [hki, Function.update_self] at hu
        exact hperishable u hu
      · rw [Function.update_of_ne hki] at hu
        exact h.perishable k hk u hu
    · have hno : ∀ i < L.count, id ≠ L.first + i := fun i hi heq => hstage ⟨i, hi, heq⟩
      obtain ⟨-, t', htasks, -⟩ := Machine.pollTask_operates (m := m.unready id) ht
        (h.works.operates ht hpool hno) budget
      rw [htasks, Function.update_of_ne (Ne.symm (hno k hk))] at hu
      exact h.perishable k hk u hu

/-- After a teardown the next poll of a stage is its last. -/
theorem Alive.last_poll (h : Alive L m) (htorn : L.Torn m.job m.task?) {i : Nat} (hi : i < L.count)
    {t : Task} (ht : m.task? (L.first + i) = some t) :
    ∃ budget m', (∀ n ≥ budget,
        (m.unready (L.first + i)).pollTask n (L.first + i) t = (true, m')) ∧
      m'.halt = m.halt ∧ m'.task? = L.put i none m.task? ∧ m'.job.standing = m.job.standing ∧
      L.Torn m'.job m'.task? := by
  obtain ⟨incoming, -, hwired⟩ := h.works.wired
  have hsame : L.put i (some t) m.task? = m.task? := L.put_eq ht
  have hbusy : Wired L (some i) (m.unready (L.first + i)).job m.task? incoming :=
    hwired.unready fun k _ hk => congrArg some (by omega)
  have hending : Ending L i t m.task? incoming t.station (m.unready (L.first + i)).job t.behavior :=
    ⟨hsame.symm ▸ hbusy, hsame.symm ▸ ⟨htorn.level, htorn.pipes, htorn.timers⟩⟩
  obtain ⟨budget, progress, st, job, hended, hrun, hstanding, hlast⟩ :=
    hending.perishes hi (h.perishable i hi t ht)
  have hend : ∀ outcome,
      (Machine.logEnd t.name outcome (st.release job)).standing = m.job.standing ∧
      L.Torn (Machine.logEnd t.name outcome (st.release job)) (L.put i none m.task?) := by
    intro outcome
    have hlog := Machine.harmless_logEnd t.name outcome (st.release job)
    have hloglevel := Job.standing_eq (Machine.core_logEnd t.name outcome (st.release job))
    have hrelease := Job.standing_eq (st.core_release job)
    refine ⟨by rw [hloglevel, hrelease, hstanding]; rfl, ?_⟩
    refine Span.Torn.serve ?_ hlog.serves (congrArg Prod.fst hloglevel).ge fun _ => id
    exact hlast.torn.replace hi hlast.wired (st.release_serves job)
      (congrArg Prod.fst hrelease).ge (by simp)
  cases progress with
  | done a =>
    refine ⟨budget, (m.unready (L.first + i)).endTask (L.first + i) t.name st (.ok ()) job,
      fun n hn => ?_, rfl, Machine.task?_removeTask .., (hend (.ok ())).1, ?_⟩
    · simp only [Machine.pollTask, hrun n hn]
    · exact (Machine.task?_removeTask ..).symm ▸ (hend (.ok ())).2
  | failed e =>
    refine ⟨budget, (m.unready (L.first + i)).endTask (L.first + i) t.name st (.error e) job,
      fun n hn => ?_, rfl, Machine.task?_removeTask .., (hend (.error e)).1, ?_⟩
    · simp only [Machine.pollTask, hrun n hn]
    · exact (Machine.task?_removeTask ..).symm ▸ (hend (.error e)).2
  | _ => exact hended.elim

/-- A poll leaves what has been torn down as it is. -/
theorem Alive.torn_pollTask (h : Alive L m) (htorn : L.Torn m.job m.task?) {id : Nat} {t : Task}
    (ht : m.task? id = some t) (hpool : t.pool = L.pool) (budget : Nat)
    (hhalt : ((m.unready id).pollTask budget id t).2.halt = none) :
    L.Torn ((m.unready id).pollTask budget id t).2.job
      ((m.unready id).pollTask budget id t).2.task? := by
  by_cases hstage : ∃ i < L.count, id = L.first + i
  · obtain ⟨i, hi, rfl⟩ := hstage
    obtain ⟨enough, m', hpoll, -, -, -, htorn'⟩ := h.last_poll htorn hi ht
    -- more steps would not change a poll that is over
    rw [← Machine.pollTask_mono (Nat.le_max_left budget enough) hhalt,
      hpoll _ (Nat.le_max_right budget enough)]
    exact htorn'
  · have hno : ∀ i < L.count, id ≠ L.first + i := fun i hi heq => hstage ⟨i, hi, heq⟩
    have hoperates := h.works.operates ht hpool hno
    obtain ⟨hharmless, t', htasks, -⟩ :=
      Machine.pollTask_operates (m := m.unready id) ht hoperates budget
    have hraised := (Machine.pollTask_raises (m := m.unready id) hoperates budget id 0 0).1
    have hunready : L.Torn (m.unready id).job m.task? := ⟨htorn.level, htorn.pipes, htorn.timers⟩
    refine (hunready.serve hharmless.serves hraised fun _ => not_false).congr fun i hi => ?_
    rw [htasks, Function.update_of_ne (Ne.symm (hno i hi))]
    rfl

/-! ## What may happen to a line at work -/

namespace Machine

/-- What may happen to a pool of tasks and to the pipe that somebody reads. -/
inductive Move (pool pipe : Nat) : Machine → Machine → Prop
  /-- A task of the pool is polled, woken or not. -/
  | poll {m : Machine} {id : Nat} {t : Task} (budget : Nat) : m.task? id = some t → t.pool = pool →
      ((m.unready id).pollTask budget id t).2.halt = none →
      Move pool pipe m ((m.unready id).pollTask budget id t).2
  /-- Tasks that have been started are put on the ready list. -/
  | enqueue (m : Machine) : Move pool pipe m (m.enqueue pool)
  /-- Somebody reads the pipe. -/
  | read (m : Machine) (fuel : Nat) (c : Collector) : c.pipe = pipe →
      Move pool pipe m { m with job := (pollMain fuel c { m.job with mainWoken := false }).2.2 }
  /-- A reader of the pipe is released. -/
  | leave (m : Machine) : Move pool pipe m (m.onJob fun job => (job.closeRead pipe).2)
  /-- Time passes. -/
  | advance (m : Machine) (moment : Nat) : Move pool pipe m (m.advance moment)
  /-- Time passes up to the next deadline. -/
  | pass (m : Machine) : Move pool pipe m (m.passTime pool)
  /-- The line is interrupted. -/
  | interrupt (m : Machine) : Move pool pipe m (m.onJob (·.interrupt))
  /-- The line is interrupted at once to the end. -/
  | interruptHard (m : Machine) : Move pool pipe m (m.onJob (·.interruptHard))
  /-- What still waits is torn down. -/
  | teardown (m : Machine) : Move pool pipe m (m.onJob (·.teardown))

/-- The second state comes from the first by moves. -/
def Reaches (pool pipe : Nat) : Machine → Machine → Prop :=
  Relation.ReflTransGen (Move pool pipe)

/-- An interrupt at once to the end; an interrupt that is not the first; or the poll of a watch that
interrupts the line for the second time. -/
inductive Struck (pool pipe : Nat) : Machine → Machine → Prop
  | hard (m : Machine) : Struck pool pipe m (m.onJob (·.interruptHard))
  | again (m : Machine) : 1 ≤ m.job.level → Struck pool pipe m (m.onJob (·.interrupt))
  | raised {m m' : Machine} : Move pool pipe m m' → m.job.level < Job.hardLevel →
      Job.hardLevel ≤ m'.job.level → Struck pool pipe m m'

/-- Turns are made of moves. -/
theorem keeps_reaches (pool pipe : Nat) (m₀ : Machine) : Keeps pool (Reaches pool pipe m₀) where
  poll budget h _ ht hpool hhalt := .tail h (.poll budget ht hpool hhalt)
  enqueue h := .tail h (.enqueue _)

/-- A run up to the end of the main future is made of moves. -/
theorem reaches_runUntil (fuel pool : Nat) (c : Collector)
    (hhalt : (m.runUntil fuel pool c).2.halt = none) :
    Reaches pool c.pipe m (m.runUntil fuel pool c).2 :=
  (keeps_reaches pool c.pipe m).runUntil (fun fuel _ hc h => .tail h (.read _ fuel _ hc))
    (fun h => .tail h (.pass _)) fuel rfl .refl hhalt

/-- Letting a pool come to rest is made of moves. -/
theorem reaches_settle (fuel pool pipe : Nat) (hhalt : (m.settle fuel pool).halt = none) :
    Reaches pool pipe m (m.settle fuel pool) := by
  have hkeeps := keeps_reaches pool pipe m
  exact (hkeeps.settle hkeeps (fun h _ => .tail h (.teardown _)) (hkeeps.enqueue .refl) fuel hhalt).1

theorem level_advance (moment : Nat) (m : Machine) : (m.advance moment).job.level = m.job.level :=
  congrArg Prod.fst (Job.standing_eq (Job.core_foldl _ (fun job _ => job.core_wake _) _))

theorem level_passTime (pool : Nat) (m : Machine) : (m.passTime pool).job.level = m.job.level := by
  unfold passTime
  split
  · rfl
  · exact level_advance _ m

end Machine

/-! ## What moves keep -/

theorem Job.harmless_closeRead (i : Nat) (job : Job) : job.Harmless (job.closeRead i).2 where
  serves := serves_closeRead i
  running := by
    rw [closeRead, running_query]
    exact List.Subset.refl _

theorem Job.harmless_teardown (job : Job) : job.Harmless job.teardown where
  serves := serves_teardown
  running := job.running_teardown.symm ▸ List.nil_subset _

/-- A line stays alive when somebody does no harm. -/
theorem Alive.harmless (h : Alive L m) (hjob : m.job.Harmless m'.job) (htasks : m'.tasks = m.tasks)
    (hincoming : m'.incoming = m.incoming) : Alive L m' where
  works := h.works.harmless hjob htasks hincoming
  perishable i hi t ht := by
    unfold Machine.task? at ht
    rw [htasks] at ht
    exact h.perishable i hi t ht

/-- Every move keeps a line alive. -/
theorem Alive.move (h : Alive L m) (hmove : Machine.Move L.pool (L.base + (L.count - 1)) m m') :
    Alive L m' := by
  cases hmove with
  | poll budget ht hpool hhalt => exact h.pollTask ht hpool budget hhalt
  | enqueue => exact ⟨h.works.enqueue.works, h.perishable⟩
  | read fuel c hpipe => exact ⟨h.works.pollMain fuel hpipe, h.perishable⟩
  | leave => exact h.harmless (m.job.harmless_closeRead _) rfl rfl
  | advance moment => exact h.harmless (m.harmless_advance moment) rfl rfl
  | pass =>
    exact h.harmless (m.harmless_passTime _) (m.tasks_passTime _) (m.incoming_passTime _)
  | interrupt => exact h.harmless ⟨Job.serves_interrupt, m.job.running_interrupt⟩ rfl rfl
  | interruptHard =>
    exact h.harmless ⟨Job.serves_interruptHard, m.job.running_interruptHard⟩ rfl rfl
  | teardown => exact h.harmless m.job.harmless_teardown rfl rfl

/-- What has been torn down stays so when somebody does no harm. -/
theorem Span.Torn.harmless (h : L.Torn m.job m.task?) (hjob : m.job.Harmless m'.job)
    (hlevel : m.job.level ≤ m'.job.level) (htasks : m'.tasks = m.tasks) :
    L.Torn m'.job m'.task? := by
  refine (h.serve hjob.serves hlevel fun _ => not_false).congr fun i _ => ?_
  simp only [Machine.task?, htasks]

/-- Every move leaves what has been torn down as it is. -/
theorem Alive.torn_move (h : Alive L m) (htorn : L.Torn m.job m.task?)
    (hmove : Machine.Move L.pool (L.base + (L.count - 1)) m m') : L.Torn m'.job m'.task? := by
  cases hmove with
  | poll budget ht hpool hhalt => exact h.torn_pollTask htorn ht hpool budget hhalt
  | enqueue => exact ⟨htorn.level, htorn.pipes, htorn.timers⟩
  | read fuel c hpipe =>
    refine Machine.pollMain_keeps (P := fun job => L.Torn job m.task?) (fun reading job h => ?_)
      fuel rfl ⟨htorn.level, htorn.pipes, htorn.timers⟩
    set st : Station := { input := some c.pipe, reading := reading }
    exact h.serve (st.tryRead_serves job (fun _ => False) .main)
      (congrArg Prod.fst (Job.standing_eq (st.core_tryRead job .main))).ge fun _ => not_false
  | leave =>
    refine htorn.harmless (m.job.harmless_closeRead _) ?_ rfl
    exact (congrArg Prod.fst (Job.standing_eq (Job.core_query ..))).ge
  | advance moment =>
    exact htorn.harmless (m.harmless_advance moment) (m.level_advance moment).ge rfl
  | pass =>
    exact htorn.harmless (m.harmless_passTime _) (m.level_passTime _).ge (m.tasks_passTime _)
  | interrupt =>
    exact htorn.harmless ⟨Job.serves_interrupt, m.job.running_interrupt⟩ (Nat.le_succ _) rfl
  | interruptHard =>
    exact htorn.harmless ⟨Job.serves_interruptHard, m.job.running_interruptHard⟩
      ((Nat.le_succ _).trans (Nat.le_max_left _ _)) rfl
  | teardown =>
    exact htorn.harmless m.job.harmless_teardown (congrArg Prod.fst (Job.standing_eq m.job.core_teardown)).ge rfl

/-- A line that is shut at the level of a teardown has been torn down by an interrupt. -/
theorem Alive.torn (h : Alive L m) (hshut : L.Shut m.job) (hlevel : Job.hardLevel ≤ m.job.level) :
    L.Torn m.job m.task? := by
  obtain ⟨incoming, -, hwired⟩ := h.works.wired
  refine ⟨hlevel, fun i hi => hshut.pipes _ (Nat.le_add_right ..) (by omega), fun i hi t ht => ?_⟩
  exact ((hwired.fit i hi t ht).still hshut).timers

/-- A move that raises the level to that of a teardown has torn the line down. -/
theorem Alive.shut_move (h : Alive L m) (hmove : Machine.Move L.pool (L.base + (L.count - 1)) m m')
    (hlow : m.job.level < Job.hardLevel) (hhigh : Job.hardLevel ≤ m'.job.level) :
    L.Shut m'.job := by
  have hsame : m'.job.level ≠ m.job.level := by omega
  cases hmove with
  | @poll id t budget ht hpool hhalt =>
    by_cases hstage : ∃ i < L.count, id = L.first + i
    · obtain ⟨i, hi, rfl⟩ := hstage
      have hstanding := Machine.standing_pollTask (m := m.unready (L.first + i))
        (h.perishable i hi t ht).mortal budget (L.first + i)
      exact absurd (congrArg Prod.fst hstanding) hsame
    · have hno : ∀ i < L.count, id ≠ L.first + i := fun i hi heq => hstage ⟨i, hi, heq⟩
      have hraised := Machine.pollTask_raises (m := m.unready id) (h.works.operates ht hpool hno)
        budget id L.base (L.base + L.count)
      exact (hraised.2 hlow).resolve_left (Nat.not_lt.mpr hhigh)
  | enqueue => exact absurd rfl hsame
  | read fuel c hpipe =>
    refine absurd ?_ hsame
    refine Machine.pollMain_keeps (P := fun job => job.level = m.job.level)
      (fun reading job hjob => ?_) fuel rfl rfl
    set st : Station := { input := some c.pipe, reading := reading }
    exact (congrArg Prod.fst (Job.standing_eq (st.core_tryRead job .main))).trans hjob
  | leave => exact absurd (congrArg Prod.fst (Job.standing_eq (Job.core_query ..))) hsame
  | advance moment => exact absurd (m.level_advance moment) hsame
  | pass => exact absurd (m.level_passTime _) hsame
  | interrupt =>
    have hlevel : m.job.interrupt.level = m.job.level + 1 := rfl
    have hhigh : 2 ≤ m.job.interrupt.level := hhigh
    exact Job.shut_interrupt (by omega) _ _
  | interruptHard => exact m.job.shut_interruptHard _ _
  | teardown => exact absurd (congrArg Prod.fst (Job.standing_eq m.job.core_teardown)) hsame

/-- An interrupt that strikes tears the line down. -/
theorem Alive.struck (h : Alive L m) (hstruck : Machine.Struck L.pool (L.base + (L.count - 1)) m m') :
    Alive L m' ∧ L.Torn m'.job m'.task? := by
  cases hstruck with
  | hard =>
    have halive := h.move (.interruptHard m)
    exact ⟨halive, halive.torn (m.job.shut_interruptHard _ _) (Nat.le_max_right _ _)⟩
  | again hlevel =>
    have halive := h.move (.interrupt m)
    exact ⟨halive, halive.torn (Job.shut_interrupt hlevel _ _) (Nat.succ_le_succ hlevel)⟩
  | raised hmove hlow hhigh =>
    have halive := h.move hmove
    exact ⟨halive, halive.torn (h.shut_move hmove hlow hhigh) hhigh⟩

/-! ## Turns after an interrupt -/

/-- How many stages are left. -/
def Span.left (L : Span) (m : Machine) : Nat :=
  ((Finset.range L.count).filter fun i => (m.task? (L.first + i)).isSome).card

theorem Span.left_put {i : Nat} (hi : i < L.count) (h : (m.task? (L.first + i)).isSome)
    (htasks : m'.task? = L.put i none m.task?) : L.left m' < L.left m := by
  refine Finset.card_lt_card (Finset.ssubset_iff_of_subset ?_ |>.mpr ⟨i, ?_, ?_⟩)
  · intro k hk
    obtain ⟨hcount, hsome⟩ := Finset.mem_filter.mp hk
    refine Finset.mem_filter.mpr ⟨hcount, ?_⟩
    rw [htasks] at hsome
    by_cases hki : L.first + k = L.first + i
    · rw [hki]
      exact h
    · rwa [L.put_other hki] at hsome
  · exact Finset.mem_filter.mpr ⟨Finset.mem_range.mpr hi, h⟩
  · intro hmem
    have hsome := (Finset.mem_filter.mp hmem).2
    rw [htasks, L.put_self] at hsome
    exact absurd hsome (by simp)

/-- A line that an interrupt has torn down, all of whose stages have been on the ready list. -/
structure Dying (L : Span) (now : Nat) (m : Machine) : Prop where
  working : Working L m
  alive : Alive L m
  torn : L.Torn m.job m.task?
  now : m.job.now = now

/-- After a teardown a stage is ready, or about to be. -/
theorem Alive.awake (h : Alive L m) (htorn : L.Torn m.job m.task?) {i : Nat} (hi : i < L.count)
    {t : Task} (ht : m.task? (L.first + i) = some t) :
    L.first + i ∈ m.job.ready ∨ L.first + i ∈ m.incoming := by
  obtain ⟨incoming, hincoming, hwired⟩ := h.works.wired
  rcases hwired.awake i hi t ht with hnone | hready | hnew | hawaits
  · exact absurd hnone (by simp)
  · exact .inl hready
  · exact .inr (hincoming hnew)
  · exact absurd hawaits (hwired.not_awaits hi ht (htorn.still hi ht))

/-- Among no watches, each poll is the last of a stage. -/
theorem wanes_dying (hwatches : L.watches = []) (now : Nat) :
    Machine.Wanes L.pool fun k m => Dying L now m ∧ L.left m ≤ k where
  poll := by
    rintro k m id t ⟨h, hleft⟩ hhalt hready ht hpool
    obtain ⟨i, hi, rfl⟩ : ∃ i < L.count, id = L.first + i := by
      by_contra hstage
      have hno : ∀ i < L.count, id ≠ L.first + i := fun i hi heq => hstage ⟨i, hi, heq⟩
      have hwatch := (h.working.wired.others id t ht hpool hno).1
      rw [hwatches] at hwatch
      exact absurd hwatch List.not_mem_nil
    obtain ⟨budget, m', hpoll, hhalt', htasks, hstanding, htorn⟩ := h.alive.last_poll h.torn hi ht
    have hnow : m'.job.now = now := (congrArg Prod.snd hstanding).trans h.now
    have hover : ((m.unready (L.first + i)).pollTask budget (L.first + i) t).2.halt = none := by
      rw [hpoll budget (Nat.le_refl _)]
      exact hhalt'.trans hhalt
    have hworking := (keeps_working L).poll budget h.working hready ht hpool hover
    have halive := h.alive.pollTask ht hpool budget hover
    rw [hpoll budget (Nat.le_refl _)] at hworking halive
    have hless : L.left m' < L.left m := L.left_put hi (ht ▸ rfl) htasks
    exact ⟨budget, true, m', hpoll, hhalt'.trans hhalt, L.left m', hless.trans_le hleft,
      ⟨hworking, halive, htorn, hnow⟩, Nat.le_refl _⟩
  enqueue := fun ⟨h, hleft⟩ =>
    ⟨⟨h.working.works.enqueue, h.alive.move (.enqueue _), h.alive.torn_move h.torn (.enqueue _),
      h.now⟩, hleft⟩

/-- Turns bring every stage to its end, and no time passes. -/
theorem Alive.runStalled (h : Alive L m) (htorn : L.Torn m.job m.task?) (hwatches : L.watches = [])
    (hhalt : m.halt = none) :
    ∃ enough m', (∀ fuel ≥ enough, m.runStalled fuel L.pool = m') ∧ m'.halt = none ∧
      m'.job.now = m.job.now ∧ ∀ i < L.count, m'.task? (L.first + i) = none := by
  have hdying : Dying L m.job.now (m.enqueue L.pool) :=
    ⟨h.works.enqueue, h.move (.enqueue m), h.torn_move htorn (.enqueue m), rfl⟩
  obtain ⟨enough, m', hrun, hhalt', ⟨k', -, hdying', -⟩, hover⟩ :=
    (wanes_dying hwatches _).runStalled ⟨hdying, Nat.le_refl _⟩ hhalt
  refine ⟨enough, m', hrun, hhalt', hdying'.now, fun i hi => ?_⟩
  refine Option.eq_none_iff_forall_ne_some.mpr fun t ht => ?_
  have hwired := hdying'.working.wired
  have hasleep := Machine.nextReady?_none hover ht (hwired.fit i hi t ht).pool
  rcases hwired.awake i hi t ht with hnone | hready | hnew | hawaits
  · exact absurd hnone (by simp)
  · exact hasleep hready
  · exact absurd hnew List.not_mem_nil
  · exact hwired.not_awaits hi ht (hdying'.torn.still hi ht) hawaits

/-! ## Lines -/

/-- What a stage does comes to an end after a teardown, unless its request is fatal. -/
theorem Pipeline.brief_stageBehavior (spec : CommandSpec) (hasInput : Bool) {args : Option String}
    (hfatal : ¬ Command.Fatal spec.name args) :
    (stageBehavior Command.program? spec hasInput args).Brief := by
  refine Behavior.Brief.bind (.perform trivial) fun _ => ?_
  obtain hnone | ⟨program, hprogram⟩ := Option.eq_none_or_eq_some (Command.program? spec.name)
  · simp only [hnone]
    exact .forAll brief_read ends_read brief_write
  · simp only [hprogram]
    exact Command.brief_program hprogram hasInput hfatal

/-- A stage of a validated line is called by its canonical name. -/
theorem Pipeline.name_of_stage {line : String} {m m' : Machine} {p' : Pipeline}
    (hregistry : m.job.shell.registry.Named)
    (h : (create line m).1.validate (create line m).2 = (.ok (), p', m')) {stage : Stage}
    (hstage : stage ∈ p'.line.stages) {spec : CommandSpec}
    (hspec : m'.job.shell.command? stage.command = some spec) : spec.name = stage.command := by
  obtain ⟨hcommands, hstages, -, rfl⟩ := validate_create h
  rw [hstages] at hstage
  obtain ⟨typed, htyped, rfl⟩ := List.mem_map.mp hstage
  obtain ⟨found, hfound⟩ := hcommands typed htyped
  have hname : m.job.shell.resolve? typed.command = some found.name := by
    rw [Shell.resolve?, hfound, Option.map_some]
  simp only [CommandLine.resolveStage, hname] at hspec ⊢
  have hcanonical := Shell.command?_canonical hregistry hfound
  rw [Option.some.inj (hspec.symm.trans hcanonical)]

/-- A line that has just been started is alive, unless a request is fatal. -/
theorem Pipeline.Executed.alive {p : Pipeline} {pool : Nat} (h : p.Executed pool m m')
    (hready : p.Ready m) (hfree : m.Free pool) (hprograms : m.programs = Command.program?)
    (hfatal : ∀ stage ∈ p.line.stages, ∀ spec, m.job.shell.command? stage.command = some spec →
      ¬ Command.Fatal spec.name stage.args) : Alive (p.span pool m) m' where
  works := h.works hready hfree hprograms
  perishable := by
    intro i hi t ht
    obtain ⟨spec, hspec, htask⟩ := h.task i _ (List.getElem?_eq_getElem hi)
    obtain rfl := Option.some.inj (ht.symm.trans htask)
    have hbrief := brief_stageBehavior spec (feed none m.job.pipes.size i).isSome
      (hfatal _ (List.getElem_mem hi) spec hspec)
    rw [← hprograms] at hbrief
    exact ⟨hbrief.mortal, .inr ⟨rfl, hbrief.ends⟩⟩

/-- Moves keep a line alive, and torn down if it was. -/
theorem Alive.reaches {m₀ : Machine} (h : Alive L m₀)
    (hreaches : m₀.Reaches L.pool (L.base + (L.count - 1)) m) :
    Alive L m ∧ (L.Torn m₀.job m₀.task? → L.Torn m.job m.task?) := by
  induction hreaches with
  | refl => exact ⟨h, id⟩
  | tail _ hmove ih => exact ⟨ih.1.move hmove, fun htorn => ih.1.torn_move (ih.2 htorn) hmove⟩

/-- A line that has been interrupted for good. -/
structure Stopped (L : Span) (m : Machine) : Prop where
  /-- No pipe takes an item. -/
  refuses : ∀ i < L.count, ∃ p, m.job.pipes[L.base + i]? = some p ∧
    ∀ v waker, ∃ events, p.offer v waker = (.failed (.brokenPipe p.name), p, events)
  /-- A stage that is left is ready, or about to be. -/
  awake : ∀ i < L.count, ∀ t, m.task? (L.first + i) = some t →
    L.first + i ∈ m.job.ready ∨ L.first + i ∈ m.incoming
  /-- The next poll of a stage is its last, and takes no time. -/
  polls : ∀ i < L.count, ∀ t, m.task? (L.first + i) = some t → ∃ budget m',
    (∀ n ≥ budget, (m.unready (L.first + i)).pollTask n (L.first + i) t = (true, m')) ∧
    m'.halt = m.halt ∧ m'.task? (L.first + i) = none ∧ m'.job.now = m.job.now
  /-- On a pool of its own turns bring every stage to its end, without any time passing. -/
  turns : L.watches = [] → m.halt = none → ∃ enough m',
    (∀ fuel ≥ enough, m.runStalled fuel L.pool = m') ∧ m'.halt = none ∧
    m'.job.now = m.job.now ∧ ∀ i < L.count, m'.task? (L.first + i) = none

theorem Alive.stopped (h : Alive L m) (htorn : L.Torn m.job m.task?) : Stopped L m where
  refuses i hi := by
    obtain ⟨incoming, -, hwired⟩ := h.works.wired
    obtain ⟨p, hp, -⟩ := hwired.pipes i hi
    refine ⟨p, hp, fun v waker => ⟨_, if_pos (htorn.pipes i hi p hp).1⟩⟩
  awake i hi t ht := h.awake htorn hi ht
  polls i hi t ht := by
    obtain ⟨budget, m', hpoll, hhalt, htasks, hstanding, -⟩ := h.last_poll htorn hi ht
    refine ⟨budget, m', hpoll, hhalt, ?_, congrArg Prod.snd hstanding⟩
    rw [htasks, L.put_self]
  turns hwatches hhalt := h.runStalled htorn hwatches hhalt

/-- **Interrupted lines end.** Of a line none of whose requests is fatal, in whatever state of its
run it is interrupted at once to the end, or not for the first time: from then on no pipe of the
line takes an item, and the next poll of each stage that is left is its last. -/
theorem interrupted_line_ends {line : String} {m m₀ m₁ m₂ m₃ m₄ : Machine} {p : Pipeline}
    {pool last : Nat} (hregistry : m.job.shell.registry = .builtin)
    (hprograms : m.programs = Command.program?) (hfree : m.Free pool)
    (hvalid : (Pipeline.create line m).1.validate (Pipeline.create line m).2 = (.ok (), p, m₀))
    (hfatal : ∀ stage ∈ p.line.stages, ¬ Command.Fatal stage.command stage.args)
    (hexecute : p.execute (some pool) m₀ = (.ok last, p, m₁))
    (hbefore : m₁.Reaches pool last m₂) (hstruck : Machine.Struck pool last m₂ m₃)
    (hafter : m₃.Reaches pool last m₄) : Stopped (p.span pool m₀) m₄ := by
  have hnamed : m.job.shell.registry.Named := hregistry ▸ Registry.named_builtin
  have hready : p.Ready m₀ := Pipeline.ready_create hnamed hvalid
  obtain ⟨-, -, -, hm₀⟩ := Pipeline.validate_create hvalid
  have hfree₀ : m₀.Free pool := by
    rw [hm₀]
    exact ⟨hfree.numbered, hfree.indexed, hfree.watches⟩
  have hprograms₀ : m₀.programs = Command.program? := by rw [hm₀]; exact hprograms
  obtain ⟨m', hexecute', hexecuted⟩ := p.execute_ready pool hready hfree₀.numbered
  obtain ⟨rfl, rfl⟩ : last = m₀.job.pipes.size + (p.line.stages.length - 1) ∧ m₁ = m' := by
    simpa using hexecute.symm.trans hexecute'
  have halive := hexecuted.alive hready hfree₀ hprograms₀ fun stage hstage spec hspec => by
    rw [Pipeline.name_of_stage hnamed hvalid hstage hspec]
    exact hfatal stage hstage
  obtain ⟨halive₃, htorn₃⟩ := (halive.reaches hbefore).1.struck hstruck
  obtain ⟨halive₄, htorn₄⟩ := halive₃.reaches hafter
  exact halive₄.stopped (htorn₄ htorn₃)

/-- A line whose stages are parked on timers, a read and a full pipe when it is interrupted a second
time. -/
theorem interrupted_line_ends_parked :
    let m : Machine :=
      { job := { shell := { config := { Config.standard with capacity := 1 } } },
        programs := Command.program? }
    let line := "yes 20 | chunk 2 | tick 100 | wait 50"
    let validated := (Pipeline.create line m).1.validate (Pipeline.create line m).2
    let executed := validated.2.1.execute (some 0) validated.2.2
    let parked := executed.2.2.runStalled 90 0
    let interrupted := (parked.onJob (·.interrupt)).onJob (·.interrupt)
    Stopped (validated.2.1.span 0 validated.2.2) interrupted ∧
      interrupted.poolTasks 0 ≠ [] ∧ (interrupted.runStalled 90 0).poolTasks 0 = [] := by
  intro m line validated executed parked interrupted
  have hok : validated.1 = .ok () := by decide +kernel
  have hvalid : validated = (.ok (), validated.2.1, validated.2.2) := Prod.ext hok rfl
  have hfree : m.Free 0 :=
    ⟨fun e he => absurd he List.not_mem_nil, fun e he => absurd he List.not_mem_nil,
      fun id t ht => absurd ht (by simp [Machine.task?, m])⟩
  have hready : validated.2.1.Ready validated.2.2 :=
    Pipeline.ready_create Registry.named_builtin hvalid
  have hnumbered : ∀ e ∈ validated.2.2.tasks, e.1 < validated.2.2.nextTask := by
    obtain ⟨-, -, -, hm⟩ := Pipeline.validate_create hvalid
    rw [hm]
    exact fun e he => absurd he List.not_mem_nil
  obtain ⟨m', hexecute, -⟩ := validated.2.1.execute_ready 0 hready hnumbered
  have hstarted : executed.2.2 = m' := by rw [show executed = _ from hexecute]
  have hhalt : parked.halt = none := by decide +kernel
  have hkeeps := Machine.keeps_reaches 0 (validated.2.2.job.pipes.size + 3) m'
  have hreached := (hkeeps.runStalled 90 (hkeeps.enqueue .refl) (hstarted ▸ hhalt)).1
  have hlast : validated.2.1.line.stages.length = 4 := by decide +kernel
  rw [hlast] at hexecute
  refine ⟨?_, by decide +kernel, by decide +kernel⟩
  refine interrupted_line_ends rfl rfl hfree hvalid (by decide +kernel) hexecute
    (.tail hreached (.interrupt _)) (.again _ (Nat.le_add_left 1 _)) ?_
  rw [← hstarted]
  exact .refl

end Pipework
