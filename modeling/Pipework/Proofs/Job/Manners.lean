import Mathlib
import Pipework.Job.Behavior

/-!
# How behaviors may go on

A behavior obeys `Manners` if it performs only actions that they allow, whatever it is answered
among the answers that they consider possible. These manners matter:

* `timeless` — no timers, no pauses and no interrupts;
* `quiet` — moreover the shell is left alone;
* `receiving` — nothing but what takes input: nothing is written, and nothing is reported;
* `meek` — no interrupts;
* `operating` — what a watch does: look at the job, interrupt it, and pause;
* `closing` — what a stage may do once everything is closed: nothing that waits on a timer, while
  every write fails.

`Behavior.Tidy` says of a stage that it waits only on timers it holds, and that from wherever it
waits it obeys `closing`, so that it comes to an end once everything has been closed around it.
-/

namespace Pipework

/-- What actions a behavior may perform, and which answers are possible. -/
structure Manners where
  /-- The action is allowed. -/
  allowed : {β : Type} → Action β → Prop
  /-- The action may be answered so. -/
  possible : {β : Type} → Action β → β → Prop

namespace Action

/-- The action may have to wait. -/
def Waits : {β : Type} → Action β → Prop
  | _, .read | _, .write _ | _, .awaitTimer .. | _, .pause _ => True
  | _, _ => False

/-- The action needs no clock. -/
def Clockless : {β : Type} → Action β → Prop
  | _, .startTimer _ | _, .awaitTimer .. | _, .forgetTimer _ | _, .pause _ => False
  | _, _ => True

/-- The action interrupts nobody. -/
def Meek : {β : Type} → Action β → Prop
  | _, .interrupt _ => False
  | _, _ => True

/-- The action needs no clock and interrupts nobody. -/
def Orderly : {β : Type} → Action β → Prop
  | _, .startTimer _ | _, .awaitTimer .. | _, .forgetTimer _ | _, .pause _ | _, .interrupt _ => False
  | _, _ => True

/-- The action needs no clock, interrupts nobody and leaves the shell alone. -/
def Quiet : {β : Type} → Action β → Prop
  | _, .startTimer _ | _, .awaitTimer .. | _, .forgetTimer _ | _, .pause _ | _, .interrupt _
  | _, .setShell _ => False
  | _, _ => True

/-- What taking input does. -/
def Receives : {β : Type} → Action β → Prop
  | _, .read | _, .inputClosed | _, .level | _, .log .. | _, .arguments | _, .setArguments _ => True
  | _, _ => False

/-- An action that may still be performed once everything is closed. -/
def Late : {β : Type} → Action β → Prop
  | _, .startTimer _ | _, .awaitTimer .. | _, .pause _ => False
  | _, _ => True

/-- The answers to an action once everything is closed. -/
def AnsweredLate : {β : Type} → Action β → β → Prop
  | _, .write _, answer => ∃ e, answer = .error e
  | _, .awaitTimer .., answer => answer = false
  | _, _, _ => True

/-- What a watch does. -/
def Operates : {β : Type} → Action β → Prop
  | _, .level | _, .interrupt _ | _, .pause _ | _, .takePresses | _, .log .. => True
  | _, _ => False

/-- The action uses only timers that are held. -/
def Permitted (held : List Nat) : {β : Type} → Action β → Prop
  | _, .awaitTimer id _ | _, .forgetTimer id => id ∈ held
  | _, .pause _ => False
  | _, _ => True

/-- The timers held after an action. -/
def holds (held : List Nat) : {β : Type} → Action β → β → List Nat
  | _, .startTimer _, id => id :: held
  | _, .forgetTimer id, _ => held.filter (· != id)
  | _, _, _ => held

end Action

namespace Manners

/-- Without interrupts. -/
def meek : Manners := ⟨Action.Meek, fun _ _ => True⟩

/-- Without a clock and without interrupts. -/
def timeless : Manners := ⟨Action.Orderly, fun _ _ => True⟩

/-- Without a clock, without interrupts, and without changing the shell. -/
def quiet : Manners := ⟨Action.Quiet, fun _ _ => True⟩

/-- As the input of a command does. -/
def receiving : Manners := ⟨Action.Receives, fun _ _ => True⟩

/-- As a watch does. -/
def operating : Manners := ⟨Action.Operates, fun _ _ => True⟩

/-- After everything has been closed. -/
def closing : Manners := ⟨Action.Late, Action.AnsweredLate⟩

end Manners

namespace Behavior

variable {α β σ : Type}

/-- The behavior obeys the manners. -/
def Obeys (m : Manners) : {α : Type} → Behavior α → Prop
  | _, .result _ | _, .fail _ | _, .crash => True
  | _, .act action next => m.allowed action ∧ ∀ answer, m.possible action answer → (next answer).Obeys m
  | _, .loop _ body next => (∀ s, (body s).Obeys m) ∧ ∀ b, (next b).Obeys m

/-- The behavior waits only on timers that it holds, and holds the timers `rest` at its end. From
wherever it waits it would go on as is due once everything is closed. -/
def Tidy (rest : List Nat) : {α : Type} → List Nat → Behavior α → Prop
  | _, held, .result _ => rest ⊆ held
  | _, _, .fail _ | _, _, .crash => True
  | _, held, .act action next => action.Permitted held ∧ ∀ answer,
      (next answer).Tidy rest (action.holds held answer) ∧
        (action.Waits → action.AnsweredLate answer → (next answer).Obeys .closing)
  | _, held, .loop _ body next =>
      ((∀ s, (body s).Obeys .closing) ∧ ∀ b, (next b).Obeys .closing) ∧
        ∃ inv ⊆ held, (∀ s, (body s).Tidy inv inv) ∧ ∀ b, (next b).Tidy rest inv

/-! ## Putting behaviors together -/

theorem Obeys.bind {m : Manners} {b : Behavior α} {f : α → Behavior β} (hb : b.Obeys m)
    (hf : ∀ a, (f a).Obeys m) : (b.bind f).Obeys m := by
  induction b with
  | result a => exact hf a
  | fail e => trivial
  | crash => trivial
  | act action next ih => exact ⟨hb.1, fun answer hanswer => ih answer (hb.2 answer hanswer) hf⟩
  | loop s body next _ ih => exact ⟨hb.1, fun b => ih b (hb.2 b) hf⟩

theorem Obeys.mono {m m' : Manners} {b : Behavior α} (h : b.Obeys m)
    (hallowed : ∀ {γ} (action : Action γ), m.allowed action → m'.allowed action)
    (hpossible : ∀ {γ} (action : Action γ) answer, m'.possible action answer →
      m.possible action answer) : b.Obeys m' := by
  induction b with
  | result a => trivial
  | fail e => trivial
  | crash => trivial
  | act action next ih =>
    exact ⟨hallowed action h.1, fun answer hanswer =>
      ih answer (h.2 answer (hpossible action answer hanswer))⟩
  | loop s body next ihbody ih => exact ⟨fun s => ihbody s (h.1 s), fun b => ih b (h.2 b)⟩

theorem Obeys.unfold {m : Manners} {s : σ} {body : σ → Behavior (σ ⊕ β)} {next : β → Behavior α}
    (h : (Behavior.loop s body next).Obeys m) : (Behavior.unfold s body next).Obeys m := by
  refine Obeys.bind (h.1 s) fun step => ?_
  cases step with
  | inl s => exact h
  | inr b => exact h.2 b

/-- Where all is allowed that taking input does. -/
theorem Obeys.of_receiving {m : Manners} {b : Behavior α} (h : b.Obeys .receiving)
    (hm : ∀ {γ} (action : Action γ), action.Receives → m.allowed action) : b.Obeys m :=
  h.mono hm fun _ _ _ => trivial

theorem Obeys.quiet {b : Behavior α} (h : b.Obeys .receiving) : b.Obeys .quiet := by
  refine h.of_receiving fun action haction => ?_
  cases action with
  | read | inputClosed | level | log | arguments | setArguments => trivial
  | _ => exact haction.elim

theorem Obeys.timeless {b : Behavior α} (h : b.Obeys .quiet) : b.Obeys .timeless := by
  refine h.mono (fun action => ?_) fun _ _ _ => trivial
  cases action with
  | setShell s => exact fun _ => trivial
  | _ => exact id

theorem Obeys.meek {b : Behavior α} (h : b.Obeys .timeless) : b.Obeys .meek := by
  refine h.mono (fun action => ?_) fun _ _ _ => trivial
  cases action with
  | interrupt hard => exact False.elim
  | _ => exact fun _ => trivial

theorem Obeys.closing {b : Behavior α} (h : b.Obeys .timeless) : b.Obeys .closing := by
  refine h.mono (fun action => ?_) fun _ _ _ => trivial
  cases action with
  | forgetTimer id => exact fun _ => trivial
  | interrupt hard => exact False.elim
  | _ => exact id

/-- The timers held after an action grow with those held before. -/
theorem holds_mono {held held' : List Nat} (h : held ⊆ held') (action : Action β) (answer : β) :
    action.holds held answer ⊆ action.holds held' answer := by
  cases action with
  | startTimer kind => exact List.cons_subset_cons _ h
  | forgetTimer id =>
    intro x hx
    obtain ⟨hmem, hne⟩ := List.mem_filter.mp hx
    exact List.mem_filter.mpr ⟨h hmem, hne⟩
  | _ => exact h

theorem permitted_mono {held held' : List Nat} (h : held ⊆ held') {action : Action β}
    (hp : action.Permitted held) : action.Permitted held' := by
  cases action with
  | awaitTimer id ms => exact h hp
  | forgetTimer id => exact h hp
  | pause ms => exact hp
  | _ => trivial

theorem Tidy.mono {rest held held' : List Nat} {b : Behavior α} (hb : b.Tidy rest held)
    (h : held ⊆ held') : b.Tidy rest held' := by
  induction b generalizing held held' with
  | result a => exact List.Subset.trans hb h
  | fail e => trivial
  | crash => trivial
  | act action next ih =>
    refine ⟨permitted_mono h hb.1, fun answer => ⟨?_, (hb.2 answer).2⟩⟩
    exact ih answer (hb.2 answer).1 (holds_mono h action answer)
  | loop s body next ihbody ih =>
    obtain ⟨hclosing, inv, hinv, hbody, hnext⟩ := hb
    exact ⟨hclosing, inv, List.Subset.trans hinv h, hbody, hnext⟩

theorem Tidy.weaken {rest rest' held : List Nat} {b : Behavior α} (hb : b.Tidy rest held)
    (h : rest' ⊆ rest) : b.Tidy rest' held := by
  induction b generalizing rest rest' held with
  | result a => exact List.Subset.trans h hb
  | fail e => trivial
  | crash => trivial
  | act action next ih =>
    exact ⟨hb.1, fun answer => ⟨ih answer (hb.2 answer).1 h, (hb.2 answer).2⟩⟩
  | loop s body next ihbody ih =>
    obtain ⟨hclosing, inv, hinv, hbody, hnext⟩ := hb
    exact ⟨hclosing, inv, hinv, hbody, fun b => ih b (hnext b) h⟩

theorem Tidy.bind {rest mid held : List Nat} {b : Behavior α} {f : α → Behavior β}
    (hb : b.Tidy mid held) (hf : ∀ a, (f a).Tidy rest mid) (hclosing : ∀ a, (f a).Obeys .closing) :
    (b.bind f).Tidy rest held := by
  induction b generalizing held with
  | result a => exact (hf a).mono hb
  | fail e => trivial
  | crash => trivial
  | act action next ih =>
    refine ⟨hb.1, fun answer => ⟨ih answer (hb.2 answer).1 hf hclosing, ?_⟩⟩
    exact fun hwaits hanswer => ((hb.2 answer).2 hwaits hanswer).bind hclosing
  | loop s body next _ ih =>
    obtain ⟨⟨hbodies, hnexts⟩, inv, hinv, hbody, hnext⟩ := hb
    exact ⟨⟨hbodies, fun b => (hnexts b).bind hclosing⟩, inv, hinv, hbody,
      fun b => ih b (hnext b) hf hclosing⟩

theorem Tidy.unfold {rest held : List Nat} {s : σ} {body : σ → Behavior (σ ⊕ β)}
    {next : β → Behavior α} (h : (Behavior.loop s body next).Tidy rest held) :
    (Behavior.unfold s body next).Tidy rest held := by
  obtain ⟨hclosing, inv, hinv, hbody, hnext⟩ := h
  refine Tidy.bind ((hbody s).mono hinv) (fun step => ?_) fun step => ?_
  · cases step with
    | inl s => exact ⟨hclosing, inv, List.Subset.refl _, hbody, hnext⟩
    | inr b => exact hnext b
  · cases step with
    | inl s => exact hclosing
    | inr b => exact hclosing.2 b

/-- A behavior without a clock is tidy with whatever timers it holds. -/
theorem Obeys.tidy {rest held : List Nat} {b : Behavior α} (h : b.Obeys .timeless)
    (hrest : rest ⊆ held) : b.Tidy rest held := by
  induction b generalizing rest held with
  | result a => exact hrest
  | fail e => trivial
  | crash => trivial
  | act action next ih =>
    obtain ⟨haction, hnext⟩ := h
    have hkeeps : ∀ answer, action.holds held answer = held := by
      intro answer
      cases action with
      | startTimer kind => exact haction.elim
      | forgetTimer id => exact haction.elim
      | _ => rfl
    refine ⟨?_, fun answer => ⟨?_, fun _ _ => (hnext answer trivial).closing⟩⟩
    · cases action with
      | awaitTimer id ms => exact haction.elim
      | forgetTimer id => exact haction.elim
      | pause ms => exact haction.elim
      | _ => trivial
    · rw [hkeeps]
      exact ih answer (hnext answer trivial) hrest
  | loop s body next ihbody ih =>
    exact ⟨⟨fun s => (h.1 s).closing, fun b => (h.2 b).closing⟩, held, List.Subset.refl _,
      fun s => ihbody s (h.1 s) (List.Subset.refl _), fun b => ih b (h.2 b) hrest⟩

theorem Tidy.perform {rest held : List Nat} {action : Action β} {f : β → Behavior α}
    (hpermitted : action.Permitted held)
    (hf : ∀ answer, (f answer).Tidy rest (action.holds held answer))
    (hclosing : action.Waits → ∀ answer, action.AnsweredLate answer → (f answer).Obeys .closing) :
    ((Behavior.perform action).bind f).Tidy rest held :=
  ⟨hpermitted, fun answer => ⟨hf answer, fun hwaits hlate => hclosing hwaits answer hlate⟩⟩

/-- The behavior is tidy, and might be run from its beginning once everything is closed. -/
structure Neat (rest held : List Nat) (b : Behavior α) : Prop where
  tidy : b.Tidy rest held
  closing : b.Obeys .closing

theorem Obeys.neat {held : List Nat} {b : Behavior α} (h : b.Obeys .timeless) : b.Neat held held :=
  ⟨h.tidy (List.Subset.refl _), h.closing⟩

theorem Neat.bind {rest mid held : List Nat} {b : Behavior α} {f : α → Behavior β}
    (hb : b.Neat mid held) (hf : ∀ a, (f a).Neat rest mid) : (b.bind f).Neat rest held :=
  ⟨hb.tidy.bind (fun a => (hf a).tidy) fun a => (hf a).closing,
    hb.closing.bind fun a => (hf a).closing⟩

/-- A loop is as tidy as one round of it. -/
theorem Neat.forever {held : List Nat} {body : σ → Behavior (σ ⊕ β)}
    (h : ∀ s, (body s).Neat held held) (s : σ) : (Behavior.forever s body).Neat held held where
  tidy := ⟨⟨fun s => (h s).closing, fun _ => trivial⟩, held, List.Subset.refl _,
    fun s => (h s).tidy, fun _ => List.Subset.refl _⟩
  closing := ⟨fun s => (h s).closing, fun _ => trivial⟩

end Behavior

end Pipework
