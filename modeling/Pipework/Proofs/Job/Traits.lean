import Pipework.Proofs.Job.Manners

/-!
# Traits of behaviors

A trait is a property of behaviors that a whole has if its parts have it. A loop has it if every round
does, and if a round that is begun after an interrupt is the last one; what this means is up to the
trait, too (`Behavior.Trait`). Whoever has shown that something is a trait has shown it of all commands
(`Trait.program`).
-/

namespace Pipework

/-- The error tells of missing arguments. -/
def ShellError.IsMissing : ShellError → Prop
  | .missingArgument .. => True
  | _ => False

/-- The action interrupts nobody and leaves the presses of the interrupt key to others. -/
def Action.Discreet : {β : Type} → Action β → Prop
  | _, .interrupt _ | _, .takePresses => False
  | _, _ => True

theorem Action.Discreet.meek {β : Type} {action : Action β} (h : action.Discreet) : action.Meek := by
  cases action with
  | interrupt hard => exact h.elim
  | _ => trivial

namespace Behavior

/-- A property of behaviors that they have if their parts have it. `Last b told` says that `b`, begun
after an interrupt and without any item, comes to a result as is told. -/
structure Trait (P : {α : Type} → Behavior α → Prop)
    (Last : {α : Type} → Behavior α → (α → Prop) → Prop) : Prop where
  result {α : Type} (a : α) : P (.result a)
  fail {α : Type} {e : ShellError} : ¬ e.IsMissing → P (.fail e : Behavior α)
  perform {α : Type} {action : Action α} : action.Discreet → P (.perform action)
  write (v : Value) : P (write v)
  bind {α β : Type} {b : Behavior α} {f : α → Behavior β} : P b → (∀ a, P (f a)) → P (b.bind f)
  forever {β σ : Type} {body : σ → Behavior (σ ⊕ β)} : (∀ s, P (body s)) →
    (∀ s, Last (body s) fun r => r.isRight = true) → ∀ s, P (.forever s body)
  lastResult {α : Type} {told : α → Prop} {a : α} : told a → Last (.result a) told
  lastBind {α β : Type} {told : α → Prop} {told' : β → Prop} {b : Behavior α} {f : α → Behavior β} :
    Last b told → (∀ a, told a → Last (f a) told') → Last (b.bind f) told'
  lastRead : Last read (· = none)
  lastUndisturbed : Last undisturbed (· = false)
  lastForever {β σ : Type} {told : β → Prop} {body : σ → Behavior (σ ⊕ β)} {s : σ} :
    Last (body s) (fun r => ∃ b, r = .inr b ∧ told b) → Last (.forever s body) told

variable {P : {α : Type} → Behavior α → Prop} {Last : {α : Type} → Behavior α → (α → Prop) → Prop}
  {α σ : Type}

theorem Trait.ofExcept (ht : Trait P Last) {r : Except ShellError α}
    (hr : ∀ e, r = .error e → ¬ e.IsMissing) : P (.ofExcept r) := by
  cases r with
  | ok a => exact ht.result a
  | error e => exact ht.fail (hr e rfl)

/-- Taking items to the end, if there is none after an interrupt. -/
theorem Trait.forEach (ht : Trait P Last) {source : Behavior (Option Value)}
    {body : σ → Value → Behavior σ} (hsource : P source) (hover : Last source (· = none))
    (hbody : ∀ s v, P (body s v)) (s : σ) : P (.forEach source s body) := by
  refine ht.forever (fun s => ht.bind hsource fun received => ?_) (fun s => ht.lastBind hover ?_) s
  · cases received with
    | none => exact ht.result _
    | some v => exact ht.bind (hbody s v) fun _ => ht.result _
  · rintro received rfl
    exact ht.lastResult rfl

theorem Trait.forAll (ht : Trait P Last) {source : Behavior (Option Value)}
    {body : Value → Behavior Unit} (hsource : P source) (hover : Last source (· = none))
    (hbody : ∀ v, P (body v)) : P (.forAll source body) :=
  ht.forEach hsource hover (fun _ v => hbody v) ()

end Behavior

end Pipework
