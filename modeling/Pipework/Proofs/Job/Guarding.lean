import Pipework.Proofs.Job.Lasting
import Pipework.Proofs.Job.Manners

/-!
# Promises about the shell

The stages of a line share one shell, and a stage may change it in several steps. A behavior *guards*
a promise about the shell if the promise holds whenever the behavior waits and when it is over,
provided that it holds whenever the behavior is taken up again (`Behavior.Guards`). Between two
waits nobody else runs, so the promise may be broken and mended there.

If every task guards a promise, the machine keeps it (`Machine.lasts_guarded`). A behavior that never
sets the shell to one that breaks the promise guards it (`Behavior.Obeys.guards`).
-/

namespace Pipework

/-- What a stage knows of itself and of what it shares: the shell and its own arguments. -/
structure View where
  shell : Shell
  arguments : Arguments

/-- What a stage at a station knows. -/
def Station.view (st : Station) (job : Job) : View := ⟨job.shell, st.arguments⟩

namespace Action

/-- What an answered action tells and changes. A stage without a reader is told that its input is
closed. -/
def Sees (hasInput : Bool) : {β : Type} → Action β → View → β → View → Prop
  | _, .shell, s, answer, s' => answer = s.shell ∧ s' = s
  | _, .setShell t, s, _, s' => s' = { s with shell := t }
  | _, .arguments, s, answer, s' => answer = s.arguments ∧ s' = s
  | _, .setArguments a, s, _, s' => s' = { s with arguments := a }
  | _, .inputClosed, s, answer, s' => (hasInput = false → answer = true) ∧ s' = s
  | _, _, s, _, s' => s' = s

/-- The action leaves the arguments alone. -/
def KeepsArguments : {β : Type} → Action β → Prop
  | _, .setArguments _ => False
  | _, _ => True

/-- The action does not break the promise. -/
def Respects (I : Shell → Prop) : {β : Type} → Action β → Prop
  | _, .setShell t => I t
  | _, _ => True

/-- The answers to an action while the promise holds. -/
def AnsweredUnder (I : Shell → Prop) : {β : Type} → Action β → β → Prop
  | _, .shell, answer => I answer
  | _, _, _ => True

end Action

/-- With a promise about the shell that is never broken. -/
def Manners.respecting (I : Shell → Prop) : Manners := ⟨Action.Respects I, Action.AnsweredUnder I⟩

namespace Behavior

variable {α β σ : Type} {hasInput : Bool} {I : Shell → Prop}

/-- From what it knows on, the behavior guards the promise, and `Q` holds of its result. -/
def Guards (hasInput : Bool) (I : Shell → Prop) :
    {α : Type} → Behavior α → (α → View → Prop) → View → Prop
  | _, .result a, Q, s => Q a s
  | _, .fail _, _, s => I s.shell
  | _, .crash, _, _ => True
  | _, .act action next, Q, s =>
      (action.Waits → I s.shell) ∧
        ∀ shell, shell = s.shell ∨ action.Waits ∧ I shell → ∀ answer s',
          action.Sees hasInput { s with shell := shell } answer s' →
            (next answer).Guards hasInput I Q s'
  | _, @loop _ σ β x body next, Q, s =>
      ∃ (J : σ → View → Prop) (K : β → View → Prop), J x s ∧
        (∀ x s, J x s → (body x).Guards hasInput I (fun r s => r.elim (J · s) (K · s)) s) ∧
        ∀ b s, K b s → (next b).Guards hasInput I Q s

theorem Guards.mono {b : Behavior α} {Q Q' : α → View → Prop} {s : View}
    (h : b.Guards hasInput I Q s) (hQ : ∀ a s, Q a s → Q' a s) : b.Guards hasInput I Q' s := by
  induction b generalizing s with
  | result a => exact hQ a s h
  | fail e => exact h
  | crash => trivial
  | act action next ih =>
    refine ⟨h.1, fun shell hshell answer s' hsees => ?_⟩
    exact ih answer (h.2 shell hshell answer s' hsees) hQ
  | loop x body next _ ih =>
    obtain ⟨J, K, hstart, hbody, hnext⟩ := h
    exact ⟨J, K, hstart, hbody, fun b s hs => ih b (hnext b s hs) hQ⟩

theorem Guards.bind {b : Behavior α} {f : α → Behavior β} {Q : α → View → Prop}
    {R : β → View → Prop} {s : View} (h : b.Guards hasInput I Q s)
    (hf : ∀ a s, Q a s → (f a).Guards hasInput I R s) : (b.bind f).Guards hasInput I R s := by
  induction b generalizing s with
  | result a => exact hf a s h
  | fail e => exact h
  | crash => trivial
  | act action next ih =>
    refine ⟨h.1, fun shell hshell answer s' hsees => ?_⟩
    exact ih answer (h.2 shell hshell answer s' hsees) hf
  | loop x body next _ ih =>
    obtain ⟨J, K, hstart, hbody, hnext⟩ := h
    exact ⟨J, K, hstart, hbody, fun b s hs => ih b (hnext b s hs) hf⟩

theorem Guards.unfold {x : σ} {body : σ → Behavior (σ ⊕ β)} {next : β → Behavior α}
    {Q : α → View → Prop} {s : View} (h : (Behavior.loop x body next).Guards hasInput I Q s) :
    (Behavior.unfold x body next).Guards hasInput I Q s := by
  obtain ⟨J, K, hstart, hbody, hnext⟩ := h
  refine Guards.bind (hbody x s hstart) fun r s hr => ?_
  cases r with
  | inl x => exact ⟨J, K, hr, hbody, hnext⟩
  | inr b => exact hnext b s hr

/-- An action that answers at once. -/
theorem guards_act {action : Action β} (haction : ¬ action.Waits) {f : β → Behavior α}
    {Q : α → View → Prop} {s : View}
    (hf : ∀ answer s', action.Sees hasInput s answer s' → (f answer).Guards hasInput I Q s') :
    (Behavior.act action f).Guards hasInput I Q s := by
  refine ⟨fun hwaits => absurd hwaits haction, ?_⟩
  rintro shell (rfl | ⟨hwaits, -⟩)
  · exact hf
  · exact absurd hwaits haction

theorem guards_perform {action : Action β} (haction : ¬ action.Waits) {f : β → Behavior α}
    {Q : α → View → Prop} {s : View}
    (hf : ∀ answer s', action.Sees hasInput s answer s' → (f answer).Guards hasInput I Q s') :
    ((Behavior.perform action).bind f).Guards hasInput I Q s := guards_act haction hf

/-- What never breaks a promise guards it. -/
theorem Obeys.guards {b : Behavior α} {Q : α → View → Prop} {s : View}
    (h : b.Obeys (.respecting I)) (hs : I s.shell) (hQ : ∀ a s, I s.shell → Q a s) :
    b.Guards hasInput I Q s := by
  induction b generalizing s with
  | result a => exact hQ a s hs
  | fail e => exact hs
  | crash => trivial
  | act action next ih =>
    refine ⟨fun _ => hs, fun shell hshell answer s' hsees => ?_⟩
    have hkept : I shell := hshell.elim (fun heq => heq ▸ hs) And.right
    have hanswered : action.AnsweredUnder I answer ∧ I s'.shell := by
      cases action with
      | shell =>
        obtain ⟨rfl, rfl⟩ := hsees
        exact ⟨hkept, hkept⟩
      | setShell t =>
        subst hsees
        exact ⟨trivial, h.1⟩
      | arguments =>
        obtain ⟨-, rfl⟩ := hsees
        exact ⟨trivial, hkept⟩
      | inputClosed =>
        obtain ⟨-, rfl⟩ := hsees
        exact ⟨trivial, hkept⟩
      | _ =>
        subst hsees
        exact ⟨trivial, hkept⟩
    exact ih answer (h.2 answer hanswered.1) hanswered.2 hQ
  | loop x body next ihbody ih =>
    refine ⟨fun _ s => I s.shell, fun _ s => I s.shell, hs, fun x s hs => ?_, fun b s hs => ?_⟩
    · refine ihbody x (h.1 x) hs fun r s hs => ?_
      cases r with
      | inl x => exact hs
      | inr b => exact hs
    · exact ih b (h.2 b) hs hQ

theorem Obeys.bindShell {f : Shell → Behavior α} (hf : ∀ s, I s → (f s).Obeys (.respecting I)) :
    (shell.bind f).Obeys (.respecting I) := ⟨trivial, hf⟩

theorem Obeys.respecting {b : Behavior α} (h : b.Obeys .quiet) : b.Obeys (.respecting I) := by
  refine h.mono (fun action => ?_) fun _ _ _ => trivial
  cases action with
  | setShell s => exact False.elim
  | _ => exact fun _ => trivial

end Behavior

/-! ## Running a behavior -/

namespace Station

variable {β : Type} {hasInput : Bool} {I : Shell → Prop} {st st' : Station} {job job' : Job}
  {who : Waker}

/-- No action opens a reader, and only the one for it changes the arguments. -/
theorem own_attempt (st : Station) (who : Waker) (action : Action β) (job : Job) :
    ((st.attempt who action job).2.1.input = st.input ∨
      (st.attempt who action job).2.1.input = none) ∧
    (action.KeepsArguments → (st.attempt who action job).2.1.arguments = st.arguments) := by
  cases action with
  | read =>
    simp only [attempt, tryRead]
    split
    · simp
    · split <;> simp
  | write v =>
    simp only [attempt, tryWrite]
    split <;> simp
  | closeInput =>
    simp only [attempt, closeInput]
    split <;> simp
  | closeOutput =>
    simp only [attempt, closeOutput]
    split <;> simp
  | awaitTimer id ms =>
    simp only [attempt, tryWait]
    split <;> simp
  | pause ms =>
    simp only [attempt, tryWait]
    split <;> simp
  | setArguments a => exact ⟨.inl rfl, False.elim⟩
  | _ => exact ⟨.inl rfl, fun _ => rfl⟩

theorem shell_interrupt (job : Job) (hard : Bool) :
    (if hard then job.interruptHard else job.interrupt).shell = job.shell := by
  have hteardown : ∀ job : Job, job.teardown.shell = job.shell :=
    fun job => congrArg Prod.fst job.core_teardown
  cases hard with
  | true => exact hteardown _
  | false =>
    show job.interrupt.shell = job.shell
    unfold Job.interrupt
    dsimp only
    split
    · exact hteardown _
    · rfl

/-- What is known after an answer is what the action tells and changes, and no action opens a
reader. -/
theorem attempt_sees {action : Action β} {answer : β} (hinput : hasInput = false → st.input = none)
    (h : st.attempt who action job = (.ready answer, st', job')) :
    action.Sees hasInput (st.view job) answer (st'.view job') ∧
      (hasInput = false → st'.input = none) := by
  have hown := st.own_attempt who action job
  have hcore : action.Plain → (st.attempt who action job).2.2.core = job.core :=
    st.core_attempt job who
  rw [h] at hown hcore
  refine ⟨?_, fun hnone => hown.1.elim (·.trans (hinput hnone)) id⟩
  have hview : job'.shell = job.shell → action.KeepsArguments → st'.view job' = st.view job := by
    intro hshell haction
    rw [view, hshell, hown.2 haction, view]
  cases action with
  | setShell t =>
    simp only [attempt, Prod.mk.injEq] at h
    obtain ⟨-, rfl, rfl⟩ := h
    rfl
  | setArguments a =>
    simp only [attempt, Prod.mk.injEq] at h
    obtain ⟨-, rfl, rfl⟩ := h
    rfl
  | shell =>
    simp only [attempt, Prod.mk.injEq, Poll.ready.injEq] at h
    obtain ⟨rfl, rfl, rfl⟩ := h
    exact ⟨rfl, rfl⟩
  | arguments =>
    simp only [attempt, Prod.mk.injEq, Poll.ready.injEq] at h
    obtain ⟨rfl, rfl, rfl⟩ := h
    exact ⟨rfl, rfl⟩
  | inputClosed =>
    simp only [attempt, Prod.mk.injEq, Poll.ready.injEq] at h
    obtain ⟨rfl, rfl, rfl⟩ := h
    refine ⟨fun hnone => ?_, rfl⟩
    rw [hinput hnone]
    rfl
  | interrupt hard =>
    simp only [attempt, Prod.mk.injEq] at h
    obtain ⟨-, rfl, rfl⟩ := h
    exact congrArg (View.mk · st.arguments) (shell_interrupt job hard)
  | takePresses =>
    simp only [attempt, Prod.mk.injEq] at h
    obtain ⟨-, rfl, rfl⟩ := h
    rfl
  | clearScreen =>
    simp only [attempt, Prod.mk.injEq] at h
    obtain ⟨-, rfl, rfl⟩ := h
    rfl
  | _ => exact hview (congrArg Prod.fst (hcore trivial)) trivial

/-- Nothing is known anew from an action that has to wait. -/
theorem attempt_waits {action : Action β} (h : st.attempt who action job = (.pending, st', job')) :
    action.Waits ∧ st'.view job' = st.view job ∧ (st'.input = st.input ∨ st'.input = none) := by
  have hown := st.own_attempt who action job
  have hcore : action.Plain → (st.attempt who action job).2.2.core = job.core :=
    st.core_attempt job who
  rw [h] at hown hcore
  have hwaits : action.Waits := by
    cases action <;> first | trivial | (simp [attempt] at h)
  refine ⟨hwaits, ?_, hown.1⟩
  have hplain : action.Plain ∧ action.KeepsArguments := by
    cases action <;> first | exact ⟨trivial, trivial⟩ | exact hwaits.elim
  have hshell : job'.shell = job.shell := congrArg Prod.fst (hcore hplain.1)
  rw [view, hshell, hown.2 hplain.2, view]

/-- What is known of a behavior that has been run as far as it goes. -/
def Kept (hasInput : Bool) (I : Shell → Prop) {α : Type} (Q : α → View → Prop) (s : View) :
    Progress α → Prop
  | .done a => Q a s
  | .failed _ => I s.shell
  | .waiting rest => I s.shell ∧ ∀ shell, I shell →
      rest.Guards hasInput I Q { s with shell := shell }
  | .crashed | .unfinished _ => True

/-- A behavior that guards a promise has kept it when it waits or is over. -/
theorem run_guards {α : Type} {b : Behavior α} {Q : α → View → Prop} {progress : Progress α}
    {fuel : Nat} (hb : b.Guards hasInput I Q (st.view job)) (hinput : hasInput = false → st.input = none)
    (hrun : st.run fuel who job b = (progress, st', job')) :
    Kept hasInput I Q (st'.view job') progress ∧ (hasInput = false → st'.input = none) := by
  induction fuel generalizing st job b with
  | zero =>
    simp only [run, Prod.mk.injEq] at hrun
    obtain ⟨rfl, rfl, rfl⟩ := hrun
    exact ⟨trivial, hinput⟩
  | succ fuel ih =>
    cases b with
    | result a =>
      simp only [run, Prod.mk.injEq] at hrun
      obtain ⟨rfl, rfl, rfl⟩ := hrun
      exact ⟨hb, hinput⟩
    | fail e =>
      simp only [run, Prod.mk.injEq] at hrun
      obtain ⟨rfl, rfl, rfl⟩ := hrun
      exact ⟨hb, hinput⟩
    | crash =>
      simp only [run, Prod.mk.injEq] at hrun
      obtain ⟨rfl, rfl, rfl⟩ := hrun
      exact ⟨trivial, hinput⟩
    | loop x body next => exact ih (Behavior.Guards.unfold hb) hinput hrun
    | act action next =>
      rcases ha : st.attempt who action job with ⟨_ | answer, st₁, job₁⟩ <;>
        simp only [run, ha] at hrun
      · simp only [Prod.mk.injEq] at hrun
        obtain ⟨rfl, rfl, rfl⟩ := hrun
        obtain ⟨hwaits, hview, hown⟩ := attempt_waits ha
        refine ⟨?_, fun hnone => hown.elim (·.trans (hinput hnone)) id⟩
        rw [hview]
        have hkept : I job.shell := hb.1 hwaits
        refine ⟨hkept, fun shell hshell => ⟨fun _ => hshell, ?_⟩⟩
        rintro other hother answer s' hsees
        exact hb.2 other (.inr ⟨hwaits, hother.elim (fun heq => heq ▸ hshell) And.right⟩) answer s' hsees
      · obtain ⟨hsees, hinput₁⟩ := attempt_sees hinput ha
        exact ih (hb.2 job.shell (.inl rfl) answer _ hsees) hinput₁ hrun

end Station

/-! ## Tasks and machines -/

/-- The task guards the promise, whenever it is taken up. -/
def Task.Guards (I : Shell → Prop) (t : Task) : Prop :=
  ∃ hasInput : Bool, (hasInput = false → t.station.input = none) ∧
    ∀ shell, I shell →
      t.behavior.Guards hasInput I (fun _ s => I s.shell) ⟨shell, t.station.arguments⟩

namespace Machine

/-- The promise holds, and every task guards it. -/
structure Guarded (I : Shell → Prop) (m : Machine) : Prop where
  shell : I m.job.shell
  tasks : ∀ e ∈ m.tasks, e.2.Guards I

variable {I : Shell → Prop} {m : Machine}

theorem Guarded.of_shell {job : Job} (h : m.Guarded I) (hshell : job.shell = m.job.shell) :
    ({ m with job := job } : Machine).Guarded I := ⟨hshell ▸ h.shell, h.tasks⟩

/-- A poll of a task that guards the promise keeps it. -/
theorem Guarded.pollTask (h : m.Guarded I) {id : Nat} {t : Task} (ht : t.Guards I) (budget : Nat)
    (hhalt : (m.pollTask budget id t).2.halt = none) : (m.pollTask budget id t).2.Guarded I := by
  obtain ⟨hasInput, hinput, hguards⟩ := ht
  rcases hrun : t.station.run budget (.task id) m.job t.behavior with ⟨progress, st, job⟩
  obtain ⟨hkept, hinput'⟩ := Station.run_guards (hguards _ h.shell) hinput hrun
  have hend : ∀ outcome, I job.shell → (m.endTask id t.name st outcome job).Guarded I := by
    intro outcome hshell
    have hcore : (logEnd t.name outcome (st.release job)).core = job.core := by
      rw [core_logEnd, st.core_release]
    refine ⟨?_, fun e he => h.tasks e (List.mem_of_mem_filter he)⟩
    rw [show (m.endTask id t.name st outcome job).job.shell = job.shell from congrArg Prod.fst hcore]
    exact hshell
  cases progress <;> simp only [Machine.pollTask, hrun] at hhalt ⊢
  case done a => exact hend _ hkept
  case failed e => exact hend _ hkept
  case waiting rest =>
    refine ⟨hkept.1, fun e he => ?_⟩
    obtain ⟨old, hold, rfl⟩ := List.mem_map.mp he
    split
    · exact ⟨hasInput, hinput', hkept.2⟩
    · exact h.tasks old hold
  case crashed => simp at hhalt
  case unfinished rest => simp at hhalt

/-- What every task guards lasts. -/
theorem lasts_guarded (pool : Nat) (I : Shell → Prop) : Lasts pool (Guarded I) where
  poll {m id t} budget hm _ ht _ hhalt := by
    obtain ⟨e, hfound, rfl⟩ := Option.map_eq_some_iff.mp ht
    have hguards := hm.tasks e (List.mem_of_find?_eq_some hfound)
    have hunready : (m.unready id).Guarded I := hm.of_shell rfl
    exact hunready.pollTask hguards budget hhalt
  of_eq hm htasks hshell _ := ⟨hshell ▸ hm.shell, htasks ▸ hm.tasks⟩

end Machine

end Pipework
