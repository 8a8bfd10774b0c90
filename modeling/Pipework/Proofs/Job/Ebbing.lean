import Mathlib.SetTheory.Ordinal.Rank
import Pipework.Proofs.Job.Manners

/-!
# How behaviors tire

After an interrupt a stage is told of it whenever it asks for the level. Most loops stop then; the
others go round again only with a new item. So between two items a stage takes only finitely many
steps, although nobody can tell beforehand how many: what it does may depend on what it is answered.

* `Behavior.Ebbs` — begun after an interrupt, and without any item, the behavior comes to its end;
* `Behavior.Tires` — each round of a loop that is begun so is the last;
* `Behavior.Fades` — one step after an interrupt that brings no item.

What tires has no infinite sequence of such steps (`Tires.acc`), so it has a rank (`Behavior.rank`)
that each of them lowers.
-/

namespace Pipework

/-- The answers after an interrupt that bring no item. -/
def Action.Dry : {β : Type} → Action β → β → Prop
  | _, .read, answer => answer = none
  | _, .level, answer => 1 ≤ answer
  | _, _, _ => True

namespace Behavior

variable {α β σ : Type}

/-- After an interrupt, and without any item, the behavior comes to a result as is told, or fails. -/
def Ebbs : {α : Type} → Behavior α → (α → Prop) → Prop
  | _, .result a, told => told a
  | _, .fail _, _ => True
  | _, .crash, _ => False
  | _, .act action next, told => ∀ answer, action.Dry answer → (next answer).Ebbs told
  | _, .loop s body next, told =>
      (body s).Ebbs fun r => r.elim (fun _ => False) fun b => (next b).Ebbs told

/-- The behavior interrupts nobody, does not end the program, and a round of a loop that is begun
after an interrupt is the last unless it takes an item. -/
def Tires : {α : Type} → Behavior α → Prop
  | _, .result _ | _, .fail _ => True
  | _, .crash => False
  | _, .act action next => action.Meek ∧ ∀ answer, (next answer).Tires
  | _, .loop _ body next =>
      (∀ s, (body s).Tires ∧ (body s).Ebbs fun r => r.isRight = true) ∧ ∀ b, (next b).Tires

/-- The second behavior comes to the first by a step after an interrupt that brings no item. -/
inductive Fades : {α : Type} → Behavior α → Behavior α → Prop
  | act {α γ : Type} {action : Action γ} {answer : γ} (next : γ → Behavior α) :
      action.Dry answer → Fades (next answer) (.act action next)
  | loop {α γ τ : Type} (s : τ) (body : τ → Behavior (τ ⊕ γ)) (next : γ → Behavior α) :
      Fades (.unfold s body next) (.loop s body next)

/-! ## Putting behaviors together -/

theorem Ebbs.mono {told told' : α → Prop} {b : Behavior α} (hb : b.Ebbs told)
    (h : ∀ a, told a → told' a) : b.Ebbs told' := by
  induction b with
  | result a => exact h a hb
  | fail e => trivial
  | crash => exact hb
  | act action next ih => exact fun answer hanswer => ih answer (hb answer hanswer) h
  | loop s body next ihbody ih =>
    refine ihbody s hb fun r hr => ?_
    cases r with
    | inl s => exact hr
    | inr b => exact ih b hr h

theorem Ebbs.bind {told : α → Prop} {told' : β → Prop} {b : Behavior α} {f : α → Behavior β}
    (hb : b.Ebbs told) (hf : ∀ a, told a → (f a).Ebbs told') : (b.bind f).Ebbs told' := by
  induction b with
  | result a => exact hf a hb
  | fail e => trivial
  | crash => exact hb.elim
  | act action next ih => exact fun answer hanswer => ih answer (hb answer hanswer) hf
  | loop s body next _ ih =>
    have hbody : (body s).Ebbs fun r => r.elim (fun _ => False) fun b => (next b).Ebbs told := hb
    refine hbody.mono fun r hr => ?_
    cases r with
    | inl s => exact hr
    | inr b => exact ih b hr hf

theorem Tires.bind {b : Behavior α} {f : α → Behavior β} (hb : b.Tires) (hf : ∀ a, (f a).Tires) :
    (b.bind f).Tires := by
  induction b with
  | result a => exact hf a
  | fail e => trivial
  | crash => exact hb.elim
  | act action next ih => exact ⟨hb.1, fun answer => ih answer (hb.2 answer) hf⟩
  | loop s body next _ ih => exact ⟨hb.1, fun b => ih b (hb.2 b) hf⟩

theorem Tires.result (a : α) : (Behavior.result a).Tires := trivial

theorem Tires.fail (e : ShellError) : (Behavior.fail e : Behavior α).Tires := trivial

theorem Tires.perform {action : Action α} (h : action.Meek) : (Behavior.perform action).Tires :=
  ⟨h, fun _ => trivial⟩

theorem Tires.ofExcept (r : Except ShellError α) : (Behavior.ofExcept r).Tires := by
  cases r with
  | ok a => exact .result a
  | error e => exact .fail e

theorem Tires.forever {body : σ → Behavior (σ ⊕ β)} (hbody : ∀ s, (body s).Tires)
    (hlast : ∀ s, (body s).Ebbs fun r => r.isRight = true) (s : σ) :
    (Behavior.forever s body).Tires :=
  ⟨fun s => ⟨hbody s, hlast s⟩, fun _ => trivial⟩

theorem Tires.unfold {s : σ} {body : σ → Behavior (σ ⊕ β)} {next : β → Behavior α}
    (h : (Behavior.loop s body next).Tires) : (Behavior.unfold s body next).Tires := by
  refine Tires.bind (h.1 s).1 fun r => ?_
  cases r with
  | inl s => exact h
  | inr b => exact h.2 b

/-! ## Rank -/

/-- A behavior that ebbs has no infinite sequence of steps before what comes after it. -/
theorem Ebbs.acc {b : Behavior α} {told : α → Prop} (hb : b.Ebbs told) {f : α → Behavior β}
    (hf : ∀ a, told a → Acc Fades (f a)) : Acc Fades (b.bind f) := by
  induction b with
  | result a => exact hf a hb
  | fail e => exact ⟨_, by rintro _ ⟨⟩⟩
  | crash => exact hb.elim
  | act action next ih =>
    refine ⟨_, ?_⟩
    rintro _ ⟨_, hanswer⟩
    exact ih _ (hb _ hanswer) hf
  | loop s body next ihbody ih =>
    refine ⟨_, ?_⟩
    rintro _ ⟨⟩
    refine ihbody s hb fun r hr => ?_
    cases r with
    | inl s => exact hr.elim
    | inr b => exact ih b hr hf

/-- A behavior that tires has no infinite sequence of steps. -/
theorem Tires.acc {b : Behavior α} (hb : b.Tires) : Acc Fades b := by
  induction b with
  | result a => exact ⟨_, by rintro _ ⟨⟩⟩
  | fail e => exact ⟨_, by rintro _ ⟨⟩⟩
  | crash => exact hb.elim
  | act action next ih =>
    refine ⟨_, ?_⟩
    rintro _ ⟨⟩
    exact ih _ (hb.2 _)
  | loop s body next _ ih =>
    refine ⟨_, ?_⟩
    rintro _ ⟨⟩
    refine (hb.1 s).2.acc fun r hr => ?_
    cases r with
    | inl s => cases hr
    | inr b => exact ih b (hb.2 b)

open Classical in
/-- How far the behavior is from its end, or from its next item. -/
noncomputable def rank (b : Behavior α) : Ordinal.{1} := if h : Acc Fades b then h.rank else 0

theorem Tires.rank_lt {b b' : Behavior α} (hb : b.Tires) (h : Fades b' b) : b'.rank < b.rank := by
  rw [rank, rank, dif_pos hb.acc, dif_pos (hb.acc.inv h)]
  exact Acc.rank_lt_of_rel hb.acc h

end Behavior

end Pipework
