import Pipework.Proofs.Command.Traits
import Pipework.Proofs.Job.Interrupted
import Pipework.Proofs.Job.Lasting

/-!
# Presses and interrupts

A watch takes the presses of the interrupt key and interrupts the line once for each of them before
it looks again. So the interrupts of a line and the presses that nobody has noticed yet make up a sum
that no task changes (`Machine.Balanced`):

* a behavior that has taken presses owes an interrupt for each, and owes nothing when it waits or is
  over (`Behavior.Owes`); a run pays what is owed (`Station.run_owes`);
* a watch owes nothing where it begins (`Watch.owes_behavior`), and neither does any command, which
  takes no presses (`Pipeline.owes_stageBehavior`);
* whatever a machine does while it runs a line (`Machine.Step`), only a press of the key and an
  interrupt from elsewhere add to the sum, one each (`Machine.Course.balanced`).
-/

namespace Pipework

/-! ## What is owed -/

/-- The interrupts owed before and after an answered action. Nobody interrupts without owing it, or
at once to the end. -/
def Action.Charges : {β : Type} → Action β → Nat → β → Nat → Prop
  | _, .interrupt false, before, _, after => before = after + 1
  | _, .interrupt true, _, _, _ => False
  | _, .takePresses, before, presses, after => after = before + presses
  | _, _, before, _, after => after = before

namespace Behavior

variable {α β σ : Type} {n : Nat}

/-- The behavior owes so many interrupts. It pays them before it waits or is over. -/
def Owes : {α : Type} → Nat → Behavior α → Prop
  | _, n, .result _ | _, n, .fail _ => n = 0
  | _, _, .crash => True
  | _, n, .act action next =>
      (action.Waits → n = 0) ∧
        ∀ answer, ∃ n', action.Charges n answer n' ∧ (next answer).Owes n'
  | _, n, .loop _ body next => n = 0 ∧ (∀ s, (body s).Owes 0) ∧ ∀ b, (next b).Owes 0

theorem Owes.bind {b : Behavior α} {f : α → Behavior β} (hb : b.Owes n) (hf : ∀ a, (f a).Owes 0) :
    (b.bind f).Owes n := by
  induction b generalizing n with
  | result a =>
    obtain rfl : n = 0 := hb
    exact hf a
  | fail e => exact hb
  | crash => trivial
  | act action next ih =>
    refine ⟨hb.1, fun answer => ?_⟩
    obtain ⟨n', hcharges, hnext⟩ := hb.2 answer
    exact ⟨n', hcharges, ih answer hnext hf⟩
  | loop s body next _ ih => exact ⟨hb.1, hb.2.1, fun b => ih b (hb.2.2 b) hf⟩

theorem Owes.unfold {s : σ} {body : σ → Behavior (σ ⊕ β)} {next : β → Behavior α}
    (h : (Behavior.loop s body next).Owes n) : (Behavior.unfold s body next).Owes n := by
  obtain ⟨rfl, hbody, hnext⟩ := h
  refine Owes.bind (hbody s) fun step => ?_
  cases step with
  | inl s => exact ⟨rfl, hbody, hnext⟩
  | inr b => exact hnext b

theorem Owes.perform {action : Action α} (h : action.Discreet) : (Behavior.perform action).Owes 0 := by
  refine ⟨fun _ => rfl, fun answer => ⟨0, ?_, rfl⟩⟩
  cases action with
  | interrupt hard => exact h.elim
  | takePresses => exact h.elim
  | _ => rfl

/-- What owes nothing is put together from such behaviors. -/
theorem trait_owes : Trait (fun b => b.Owes 0) fun _ _ => True where
  result _ := rfl
  fail _ := rfl
  perform := Owes.perform
  write v := by
    refine Owes.bind (.perform trivial) fun answer => ?_
    cases answer <;> rfl
  bind := Owes.bind
  forever hbody _ _ := ⟨rfl, hbody, fun _ => rfl⟩
  lastResult _ := trivial
  lastBind _ _ := trivial
  lastRead := trivial
  lastUndisturbed := trivial
  lastForever _ := trivial

theorem owes_require (o : Input) : o.require.Owes 0 := by
  refine Owes.bind ?_ fun items => ?_
  · exact (trait_owes.readFlags o).bind fun _ => trait_owes.take o fun _ => trivial
  · split
    · rfl
    · rfl

end Behavior

open Behavior

/-- No command owes an interrupt. -/
theorem Command.owes_program {name : String} {program : StageProgram}
    (h : program? name = some program) (hasInput : Bool) (args : Option String) :
    (program hasInput args).Owes 0 :=
  trait_owes.program (R := (·.Owes 0)) (fun _ hb => hb) h hasInput
    (fun _ _ _ => ⟨trivial, trivial⟩)
    fun o _ text _ _ hf => (trait_owes.openText o hasInput text).bind fun _ => (owes_require o).bind hf

/-- No stage owes an interrupt. -/
theorem Pipeline.owes_stageBehavior (spec : CommandSpec) (hasInput : Bool) (args : Option String) :
    (stageBehavior Command.program? spec hasInput args).Owes 0 := by
  refine Owes.bind (.perform trivial) fun _ => ?_
  split
  · rename_i program hprogram
    exact Command.owes_program hprogram hasInput args
  · exact trait_owes.forAll trait_owes.read trivial trait_owes.write

namespace Watch

/-- So many interrupts pay so many. -/
theorem owes_interrupt (count : Nat) : (interrupt count).Owes count := by
  induction count with
  | zero => rfl
  | succ count ih => exact ⟨False.elim, fun _ => ⟨count, rfl, ih⟩⟩

/-- A watch owes nothing where it begins, and pays in each round for the presses that it takes. -/
theorem owes_behavior (w : Watch) : w.behavior.Owes 0 := by
  refine ⟨rfl, fun _ => ?_, fun _ => rfl⟩
  refine Owes.bind (.perform trivial) fun _ => ⟨fun _ => rfl, fun count => ⟨count, ?_, ?_⟩⟩
  · exact (Nat.zero_add count).symm
  · show Owes count (if count ≠ 0 then _ else _)
    split
    · -- the note is made while the interrupts are owed
      exact ⟨False.elim, fun _ => ⟨count, rfl, (owes_interrupt count).bind fun _ => rfl⟩⟩
    · rename_i hnone
      exact not_not.mp hnone

end Watch

/-! ## Running a behavior -/

theorem Job.presses_interrupt (job : Job) : job.interrupt.presses = job.presses := by
  have hteardown : ∀ job : Job, job.teardown.presses = job.presses := fun job =>
    congrArg (·.2.2.2.1) job.core_teardown
  unfold Job.interrupt
  dsimp only
  split
  · exact hteardown _
  · rfl

namespace Station

variable {β : Type} {st st' : Station} {who : Waker} {job job' : Job} {n : Nat}

theorem discreet_of_waits {action : Action β} (h : action.Waits) : action.Discreet := by
  cases action with
  | interrupt hard => exact h.elim
  | takePresses => exact h.elim
  | _ => trivial

/-- A discreet action changes neither level nor presses. -/
theorem attempt_discreet (st : Station) (who : Waker) (job : Job) {action : Action β}
    (h : action.Discreet) : (st.attempt who action job).2.2.level = job.level ∧
      (st.attempt who action job).2.2.presses = job.presses := by
  by_cases hplain : action.Plain
  · have hcore := st.core_attempt job who hplain
    exact ⟨congrArg (·.2.1) hcore, congrArg (·.2.2.2.1) hcore⟩
  · cases action with
    | interrupt hard => exact h.elim
    | takePresses => exact h.elim
    | setShell s => exact ⟨rfl, rfl⟩
    | clearScreen => exact ⟨rfl, rfl⟩
    | _ => exact absurd trivial hplain

/-- What an answered action adds to the interrupts and the presses together is no longer owed. -/
theorem attempt_charges {action : Action β} {answer : β} {n' : Nat}
    (hcharges : action.Charges n answer n')
    (ha : st.attempt who action job = (.ready answer, st', job')) :
    job'.level + job'.presses + n' = job.level + job.presses + n := by
  by_cases hdiscreet : action.Discreet
  · obtain ⟨hlevel, hpresses⟩ := st.attempt_discreet who job hdiscreet
    rw [ha] at hlevel hpresses
    have hsame : n' = n := by
      cases action with
      | interrupt hard => exact hdiscreet.elim
      | takePresses => exact hdiscreet.elim
      | _ => exact hcharges
    rw [hsame, ← hlevel, ← hpresses]
  · cases action with
    | interrupt hard =>
      cases hard with
      | true => exact hcharges.elim
      | false =>
        obtain ⟨rfl, rfl⟩ : st = st' ∧ job.interrupt = job' := by simpa [attempt] using ha
        have hlevel : job.interrupt.level = job.level + 1 := rfl
        have hpaid : n = n' + 1 := hcharges
        rw [hlevel, job.presses_interrupt]
        omega
    | takePresses =>
      obtain ⟨rfl, -, rfl⟩ : job.presses = answer ∧ st = st' ∧ { job with presses := 0 } = job' := by
        simpa [attempt] using ha
      have htaken : n' = n + job.presses := hcharges
      show job.level + 0 + n' = job.level + job.presses + n
      omega
    | _ => exact absurd trivial hdiscreet

/-- A run that gets to the next wait or to the end pays what is owed. -/
theorem run_owes {α : Type} {b : Behavior α} (hb : b.Owes n) {fuel : Nat} {progress : Progress α}
    (hrun : st.run fuel who job b = (progress, st', job')) (hcrashed : progress ≠ .crashed)
    (hunfinished : ∀ rest, progress ≠ .unfinished rest) :
    job'.level + job'.presses = job.level + job.presses + n ∧
      ∀ rest, progress = .waiting rest → rest.Owes 0 := by
  induction fuel generalizing st job b n with
  | zero =>
    obtain ⟨rfl, rfl, rfl⟩ : .unfinished b = progress ∧ st = st' ∧ job = job' := by
      simpa [run] using hrun
    exact absurd rfl (hunfinished b)
  | succ fuel ih =>
    cases b with
    | result a =>
      obtain ⟨rfl, rfl, rfl⟩ : .done a = progress ∧ st = st' ∧ job = job' := by
        simpa [run] using hrun
      obtain rfl : n = 0 := hb
      exact ⟨rfl, by simp⟩
    | fail e =>
      obtain ⟨rfl, rfl, rfl⟩ : .failed e = progress ∧ st = st' ∧ job = job' := by
        simpa [run] using hrun
      obtain rfl : n = 0 := hb
      exact ⟨rfl, by simp⟩
    | crash =>
      obtain ⟨rfl, rfl, rfl⟩ : .crashed = progress ∧ st = st' ∧ job = job' := by
        simpa [run] using hrun
      exact absurd rfl hcrashed
    | loop s body next => exact ih hb.unfold hrun
    | act action next =>
      rcases ha : st.attempt who action job with ⟨_ | answer, st₁, job₁⟩ <;>
        simp only [run, ha, Prod.mk.injEq] at hrun
      · -- it waits, and so owes nothing
        obtain ⟨rfl, rfl, rfl⟩ := hrun
        have hwaits := Station.waits_of_pending ha
        obtain rfl : n = 0 := hb.1 hwaits
        obtain ⟨hlevel, hpresses⟩ := st.attempt_discreet who job (discreet_of_waits hwaits)
        rw [ha] at hlevel hpresses
        refine ⟨by rw [← hlevel, ← hpresses, Nat.add_zero], fun rest hrest => ?_⟩
        obtain rfl := Progress.waiting.inj hrest
        exact hb
      · obtain ⟨n', hcharges, hnext⟩ := hb.2 answer
        obtain ⟨hsum, hrest⟩ := ih hnext hrun
        exact ⟨hsum.trans (attempt_charges hcharges ha), hrest⟩

end Station

namespace Machine

/-! ## The sum of interrupts and presses -/

/-- The line has been interrupted so often that this and the presses not yet noticed make up the sum,
and no task owes an interrupt. -/
structure Balanced (sum : Nat) (m : Machine) : Prop where
  sum_eq : m.job.level + m.job.presses = sum
  tasks : ∀ e ∈ m.tasks, e.2.behavior.Owes 0

variable {m m' m₀ : Machine} {pool pipe sum : Nat}

/-- Interrupts and presses belong to the core of a job. -/
theorem Balanced.of_core (h : m.Balanced sum) (htasks : m'.tasks = m.tasks)
    (hlevel : m'.job.level = m.job.level) (hpresses : m'.job.presses = m.job.presses) :
    m'.Balanced sum := by
  refine ⟨?_, htasks ▸ h.tasks⟩
  rw [hlevel, hpresses]
  exact h.sum_eq

theorem Balanced.onCore (h : m.Balanced sum) {job : Job} (hcore : job.core = m.job.core) :
    ({ m with job := job } : Machine).Balanced sum :=
  h.of_core rfl (congrArg (·.2.1) hcore) (congrArg (·.2.2.2.1) hcore)

/-- A poll keeps the sum. -/
theorem Balanced.pollTask (h : m.Balanced sum) {t : Task} (ht : t.behavior.Owes 0) (budget id : Nat)
    (hhalt : (m.pollTask budget id t).2.halt = none) : (m.pollTask budget id t).2.Balanced sum := by
  rcases hrun : t.station.run budget (.task id) m.job t.behavior with ⟨progress, st, job⟩
  have hpaid := Station.run_owes ht hrun
  have hend : ∀ outcome, job.level + job.presses = m.job.level + m.job.presses →
      (m.endTask id t.name st outcome job).Balanced sum := by
    intro outcome hsum
    have hcore : (logEnd t.name outcome (st.release job)).core = job.core := by
      rw [core_logEnd, st.core_release]
    have hlevel : (logEnd t.name outcome (st.release job)).level = job.level :=
      congrArg (·.2.1) hcore
    have hpresses : (logEnd t.name outcome (st.release job)).presses = job.presses :=
      congrArg (·.2.2.2.1) hcore
    refine ⟨?_, fun e he => h.tasks e (List.mem_of_mem_filter he)⟩
    show (logEnd _ _ _).level + (logEnd _ _ _).presses = sum
    rw [hlevel, hpresses, hsum]
    exact h.sum_eq
  cases progress <;> simp only [Machine.pollTask, hrun] at hhalt ⊢
  case done a => exact hend _ (hpaid (by simp) (by simp)).1
  case failed e => exact hend _ (hpaid (by simp) (by simp)).1
  case waiting rest =>
    obtain ⟨hsum, hrest⟩ := hpaid (by simp) (by simp)
    refine ⟨hsum.trans h.sum_eq, fun e he => ?_⟩
    obtain ⟨old, hold, rfl⟩ := List.mem_map.mp he
    split
    · exact hrest rest rfl
    · exact h.tasks old hold
  case crashed => simp at hhalt
  case unfinished rest => simp at hhalt

/-! ## What happens while a line runs -/

/-- What a machine does to run a line. Somebody reads the last pipe of the line, `pipe`. -/
inductive Step (pool pipe : Nat) : Machine → Machine → Prop
  /-- A task of the pool is polled. -/
  | poll {m : Machine} {id : Nat} {t : Task} (budget : Nat) : m.task? id = some t → t.pool = pool →
      ((m.unready id).pollTask budget id t).2.halt = none →
      Step pool pipe m ((m.unready id).pollTask budget id t).2
  /-- Tasks that have been started are put on the ready list. -/
  | enqueue (m : Machine) : Step pool pipe m (m.enqueue pool)
  /-- Somebody reads the pipe. -/
  | read (m : Machine) (fuel : Nat) (c : Collector) : c.pipe = pipe →
      Step pool pipe m { m with job := (pollMain fuel c { m.job with mainWoken := false }).2.2 }
  /-- A reader of the pipe is released. -/
  | leave (m : Machine) : Step pool pipe m (m.onJob fun job => (job.closeRead pipe).2)
  /-- Time passes up to the next deadline. -/
  | pass (m : Machine) : Step pool pipe m (m.passTime pool)
  /-- What still waits is torn down. -/
  | teardown (m : Machine) : Step pool pipe m (m.onJob (·.teardown))

/-- What happens to a machine while it runs a line, with so many presses of the interrupt key, at
whatever times, and so many interrupts that come from elsewhere. -/
inductive Course (pool pipe : Nat) (m₀ : Machine) : Nat → Nat → Machine → Prop
  | start : Course pool pipe m₀ 0 0 m₀
  | step {pressed others : Nat} {m m' : Machine} : Course pool pipe m₀ pressed others m →
      Step pool pipe m m' → Course pool pipe m₀ pressed others m'
  /-- The key is pressed. -/
  | press {pressed others : Nat} {m : Machine} : Course pool pipe m₀ pressed others m →
      Course pool pipe m₀ (pressed + 1) others
        (m.onJob fun job => { job with presses := job.presses + 1 })
  /-- Somebody else interrupts the line. -/
  | interrupt {pressed others : Nat} {m : Machine} : Course pool pipe m₀ pressed others m →
      Course pool pipe m₀ pressed (others + 1) (m.onJob (·.interrupt))

theorem Balanced.passTime (h : m.Balanced sum) : (m.passTime pool).Balanced sum := by
  unfold Machine.passTime
  split
  · exact h.of_core rfl rfl rfl
  · rename_i deadline _
    have hcore := core_advance deadline m
    exact h.of_core rfl (congrArg (·.2.1) hcore) (congrArg (·.2.2.2.1) hcore)

/-- What a machine does to run a line keeps the sum. -/
theorem Balanced.step (h : m.Balanced sum) (hstep : Step pool pipe m m') : m'.Balanced sum := by
  cases hstep with
  | @poll id t budget ht _ hhalt =>
    obtain ⟨e, hfound, rfl⟩ := Option.map_eq_some_iff.mp ht
    have hunready : (m.unready id).Balanced sum := h.of_core rfl rfl rfl
    exact hunready.pollTask (h.tasks e (List.mem_of_find?_eq_some hfound)) budget id hhalt
  | enqueue => exact h.of_core rfl rfl rfl
  | read fuel c _ => exact h.onCore (core_pollMain fuel c _)
  | leave => exact h.onCore (Job.core_query ..)
  | pass => exact h.passTime
  | teardown => exact h.onCore m.job.core_teardown

/-- A press of the key and an interrupt from elsewhere add one each to the sum, and nothing else
changes it. -/
theorem Course.balanced {pressed others : Nat} (h : Course pool pipe m₀ pressed others m)
    (hstart : m₀.Balanced sum) : m.Balanced (sum + pressed + others) := by
  induction h with
  | start => exact hstart
  | step _ hstep ih => exact ih.step hstep
  | @press pressed others m _ ih =>
    refine ⟨?_, ih.tasks⟩
    have hsum := ih.sum_eq
    show m.job.level + (m.job.presses + 1) = _
    omega
  | @interrupt pressed others m _ ih =>
    refine ⟨?_, ih.tasks⟩
    have hsum := ih.sum_eq
    show (m.job.level + 1) + m.job.interrupt.presses = _
    rw [m.job.presses_interrupt]
    omega

/-! ## Runs as courses -/

/-- Turns are made of steps. -/
theorem keeps_course (pool pipe : Nat) (m₀ : Machine) (pressed others : Nat) :
    Keeps pool (Course pool pipe m₀ pressed others) where
  poll budget h _ ht hpool hhalt := .step h (.poll budget ht hpool hhalt)
  enqueue h := .step h (.enqueue _)

variable {pressed others : Nat}

/-- A run up to the end of the main future is made of steps. -/
theorem Course.runUntil (h : Course pool pipe m₀ pressed others m) (fuel : Nat) {c : Collector}
    (hc : c.pipe = pipe) (hhalt : (m.runUntil fuel pool c).2.halt = none) :
    Course pool pipe m₀ pressed others (m.runUntil fuel pool c).2 :=
  (keeps_course pool pipe m₀ pressed others).runUntil
    (fun fuel _ hc h => .step h (.read _ fuel _ hc)) (fun h => .step h (.pass _)) fuel hc h hhalt

/-- Letting a pool come to rest is made of steps. -/
theorem Course.settle (h : Course pool pipe m₀ pressed others m) (fuel : Nat)
    (hhalt : (m.settle fuel pool).halt = none) :
    Course pool pipe m₀ pressed others (m.settle fuel pool) := by
  have hkeeps := keeps_course pool pipe m₀ pressed others
  exact (hkeeps.settle hkeeps (fun h _ => .step h (.teardown _)) (hkeeps.enqueue h) fuel hhalt).1

end Machine

end Pipework
