import Pipework.Job.Basic
import Pipework.Proofs.Job.Manners

/-!
# How behaviors come to an end

Once a line has been torn down by an interrupt nothing answers as before: a read meets the end of
data, a write fails, a wait on a timer is cut short, and the level tells of the interrupt
(`Action.AnsweredDead`). Loops stop only because of these answers, so two facts about a behavior are
proved along its text:

* `Behavior.Ends` — begun after the teardown it comes to an end: each of its loops stops in the
  first round;
* `Behavior.Mortal` — parked at the teardown it comes to an end: from wherever it may wait, what is
  left of it ends.

A behavior of which both hold is `Behavior.Brief`; brief behaviors are put together from brief ones.
-/

namespace Pipework

namespace Action

/-- The answers to an action after a teardown, to somebody who holds no answer from before it. -/
def AnsweredDead : {β : Type} → Action β → β → Prop
  | _, .read, answer => answer = none
  | _, .write _, answer => ∃ e, answer = .error e
  | _, .awaitTimer .., answer => answer = false
  | _, .level, answer => Job.hardLevel ≤ answer
  | _, .inputClosed, answer => answer = true
  | _, .outputClosed, answer => answer = true
  | _, _, _ => True

/-- An action after a teardown. Of the timers only intervals are started then; they are cancelled
from the beginning. -/
def Fading : {β : Type} → Action β → Prop
  | _, .interrupt _ => False
  | _, .startTimer kind => kind = .interval
  | _, _ => True

theorem Fading.meek {β : Type} {action : Action β} (h : action.Fading) : action.Meek := by
  cases action with
  | interrupt hard => exact h
  | _ => trivial

theorem Waits.fading {β : Type} {action : Action β} (h : action.Waits) : action.Fading := by
  cases action with
  | interrupt hard => exact h
  | startTimer kind => exact h.elim
  | _ => trivial

/-- An answer from before a teardown is possible to somebody who waited. -/
theorem AnsweredDead.late {β : Type} {action : Action β} {answer : β}
    (h : action.AnsweredDead answer) : action.AnsweredLate answer := by
  cases action with
  | write v => exact h
  | awaitTimer id ms => exact h
  | _ => trivial

end Action

namespace Behavior

variable {α β σ : Type}

/-- Begun after a teardown the behavior fails, or comes to a result as is told. -/
def Ends : {α : Type} → (α → Prop) → Behavior α → Prop
  | _, told, .result a => told a
  | _, _, .fail _ => True
  | _, _, .crash => False
  | _, told, .act action next => action.Fading ∧ ∀ answer, action.AnsweredDead answer →
      (next answer).Ends told
  | _, told, .loop _ body next =>
      (∀ s, (body s).Ends fun step => step.isRight = true) ∧ ∀ b, (next b).Ends told

/-- From wherever the behavior waits it comes to an end after a teardown. -/
def Mortal : {α : Type} → Behavior α → Prop
  | _, .result _ | _, .fail _ => True
  | _, .crash => False
  | _, .act action next => action.Meek ∧ ∀ answer, (next answer).Mortal ∧
      (action.Waits → action.AnsweredLate answer → (next answer).Ends fun _ => True)
  | _, .loop _ body next =>
      (∀ s, (body s).Mortal ∧ (body s).Ends fun step => step.isRight = true) ∧
        ∀ b, (next b).Mortal ∧ (next b).Ends fun _ => True

/-- The behavior comes to an end after a teardown, begun before it or after it. -/
structure Brief (b : Behavior α) : Prop where
  mortal : b.Mortal
  ends : b.Ends fun _ => True

/-! ## Putting behaviors together -/

theorem Ends.mono {told told' : α → Prop} {b : Behavior α} (hb : b.Ends told)
    (h : ∀ a, told a → told' a) : b.Ends told' := by
  induction b with
  | result a => exact h a hb
  | fail e => trivial
  | crash => exact hb
  | act action next ih => exact ⟨hb.1, fun answer hanswer => ih answer (hb.2 answer hanswer) h⟩
  | loop s body next _ ih => exact ⟨hb.1, fun b => ih b (hb.2 b) h⟩

theorem Ends.bind {told : α → Prop} {told' : β → Prop} {b : Behavior α} {f : α → Behavior β}
    (hb : b.Ends told) (hf : ∀ a, told a → (f a).Ends told') : (b.bind f).Ends told' := by
  induction b with
  | result a => exact hf a hb
  | fail e => trivial
  | crash => exact hb.elim
  | act action next ih => exact ⟨hb.1, fun answer hanswer => ih answer (hb.2 answer hanswer) hf⟩
  | loop s body next _ ih => exact ⟨hb.1, fun b => ih b (hb.2 b) hf⟩

theorem Ends.act {told : α → Prop} {action : Action β} {f : β → Behavior α}
    (haction : action.Fading) (hf : ∀ answer, action.AnsweredDead answer → (f answer).Ends told) :
    ((perform action).bind f).Ends told :=
  ⟨haction, hf⟩

theorem Mortal.bind {b : Behavior α} {f : α → Behavior β} (hb : b.Mortal) (hf : ∀ a, (f a).Brief) :
    (b.bind f).Mortal := by
  induction b with
  | result a => exact (hf a).mortal
  | fail e => trivial
  | crash => exact hb.elim
  | act action next ih =>
    refine ⟨hb.1, fun answer => ⟨ih answer (hb.2 answer).1 hf, fun hwaits hlate => ?_⟩⟩
    exact ((hb.2 answer).2 hwaits hlate).bind fun a _ => (hf a).ends
  | loop s body next _ ih =>
    refine ⟨hb.1, fun b => ⟨ih b (hb.2 b).1 hf, ?_⟩⟩
    exact (hb.2 b).2.bind fun a _ => (hf a).ends

/-- What comes after an action that does not wait need not be brief. -/
theorem Mortal.act {action : Action β} {f : β → Behavior α} (hmeek : action.Meek)
    (hwaits : ¬ action.Waits) (hf : ∀ answer, (f answer).Mortal) :
    ((Behavior.perform action).bind f).Mortal :=
  ⟨hmeek, fun answer => ⟨hf answer, fun h => absurd h hwaits⟩⟩

theorem Brief.bind {b : Behavior α} {f : α → Behavior β} (hb : b.Brief) (hf : ∀ a, (f a).Brief) :
    (b.bind f).Brief :=
  ⟨hb.mortal.bind hf, hb.ends.bind fun a _ => (hf a).ends⟩

theorem Brief.result (a : α) : (Behavior.result a).Brief := ⟨trivial, trivial⟩

theorem Brief.fail (e : ShellError) : (Behavior.fail e : Behavior α).Brief := ⟨trivial, trivial⟩

theorem Brief.perform {action : Action α} (h : action.Fading) :
    (Behavior.perform action).Brief where
  mortal := ⟨h.meek, fun _ => ⟨trivial, fun _ _ => trivial⟩⟩
  ends := ⟨h, fun _ _ => trivial⟩

theorem Brief.ofExcept (r : Except ShellError α) : (Behavior.ofExcept r).Brief := by
  cases r with
  | ok a => exact .result a
  | error e => exact .fail e

/-- A loop is brief if its rounds are, and a round begun after a teardown is the last. -/
theorem Brief.forever {body : σ → Behavior (σ ⊕ β)} (hbody : ∀ s, (body s).Brief)
    (hlast : ∀ s, (body s).Ends fun step => step.isRight = true) (s : σ) :
    (Behavior.forever s body).Brief where
  mortal := ⟨fun s => ⟨(hbody s).mortal, hlast s⟩, fun _ => ⟨trivial, trivial⟩⟩
  ends := ⟨hlast, fun _ => trivial⟩

/-- Taking items to the end is brief if there is none after a teardown. -/
theorem Brief.forEach {source : Behavior (Option Value)} {body : σ → Value → Behavior σ}
    (hsource : source.Brief) (hover : source.Ends (· = none)) (hbody : ∀ s v, (body s v).Brief)
    (s : σ) : (Behavior.forEach source s body).Brief := by
  refine .forever (fun s => hsource.bind fun received => ?_) (fun s => hover.bind ?_) s
  · cases received with
    | none => exact .result _
    | some v => exact (hbody s v).bind fun _ => .result _
  · rintro received rfl
    exact rfl

theorem Brief.forAll {source : Behavior (Option Value)} {body : Value → Behavior Unit}
    (hsource : source.Brief) (hover : source.Ends (· = none)) (hbody : ∀ v, (body v).Brief) :
    (Behavior.forAll source body).Brief := .forEach hsource hover (fun _ v => hbody v) ()

theorem Mortal.meek {b : Behavior α} (h : b.Mortal) : b.Obeys .meek := by
  induction b with
  | result a => trivial
  | fail e => trivial
  | crash => trivial
  | act action next ih => exact ⟨h.1, fun answer _ => ih answer (h.2 answer).1⟩
  | loop s body next ihbody ih => exact ⟨fun s => ihbody s (h.1 s).1, fun b => ih b (h.2 b).1⟩

theorem Mortal.unfold {s : σ} {body : σ → Behavior (σ ⊕ β)} {next : β → Behavior α}
    (h : (Behavior.loop s body next).Mortal) : (Behavior.unfold s body next).Mortal := by
  refine Mortal.bind (h.1 s).1 fun step => ?_
  cases step with
  | inl s => exact ⟨h, fun s => (h.1 s).2, fun b => (h.2 b).2⟩
  | inr b => exact ⟨(h.2 b).1, (h.2 b).2⟩

end Behavior

end Pipework
