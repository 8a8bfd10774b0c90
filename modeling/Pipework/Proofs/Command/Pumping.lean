import Pipework.Command.Programs
import Pipework.Proofs.Job.Flowing

/-!
# Commands that pass items on

`yes` without an interval makes copies of its text, a stage without a program of its own passes its
input on, and `head` does so up to its count. Each of them rests in front of its loop between two
items, and goes from one item to the next as a `Plan` has it: `goes_yes`, `goes_forward` and
`goes_head`; and so it does from the moment when its stage has been started (`goes_stage_yes` and so
on).
-/

namespace Pipework

open Behavior

variable {P : Plan} {i sent n : Nat} {hand : Hand} {arguments : Arguments} {text : String}

/-! ## One step -/

namespace Plan.Goes

theorem loop {σ β : Type} {s : σ} {body : σ → Behavior (σ ⊕ β)} {next : β → Behavior Unit}
    (h : P.Goes i sent n hand arguments (.unfold s body next)) :
    P.Goes i sent (n + 1) hand arguments (.loop s body next) := h

theorem read {next : Option Value → Behavior Unit} (hpos : 0 < i)
    (hitem : P.Goes i sent n .full arguments (next (some P.item)))
    (hend : P.Goes i sent n .done arguments (next none)) :
    P.Goes i sent (n + 1) .empty arguments (.act .read next) := ⟨hpos, rfl, hitem, hend⟩

theorem write {v : Value} {next : Except ShellError Unit → Behavior Unit} (hv : v = P.item)
    (hlimit : ∀ limit, P.limit i = some limit → sent < limit) (hstrict : ∀ e, next (.error e) = .fail e)
    (hrests : P.Rests i (sent + 1) arguments (next (.ok ()))) :
    P.Goes i sent (n + 1) .full arguments (.act (.write v) next) :=
  ⟨rfl, hv, hlimit, hstrict, hrests⟩

theorem result (hpos : 0 < i) (h : hand = .done ∨ hand = .empty ∧ P.limit i = some sent) :
    P.Goes i sent (n + 1) hand arguments (.result ()) := ⟨hpos, h⟩

/-- An action that touches no pipe. -/
theorem quiet {β : Type} {action : Action β} {next : β → Behavior Unit} {answer : β}
    {arguments' : Arguments} (hq : action.quiet? i arguments = some (answer, arguments'))
    (h : P.Goes i sent n hand arguments' (next answer)) :
    P.Goes i sent (n + 1) hand arguments (.act action next) := by
  cases action with
  | read => simp [Action.quiet?] at hq
  | write v => simp [Action.quiet?] at hq
  | _ => exact ⟨answer, arguments', hq, h⟩

end Plan.Goes

/-! ## One round -/

namespace Command

/-- One round of `yes` without an interval. -/
def yesRound (text : String) (fromInput : Bool) : Behavior (Bool ⊕ Unit) := do
  if !(← undisturbed) then return .inr ()
  if ← perform .outputClosed then return .inr ()
  let received : Option Value ← if fromInput then Behavior.read else pure none
  if received.isNone then perform .closeInput
  Behavior.write (received.getD (.text text))
  return if ← awaitInterval none then .inl received.isSome else .inr ()

theorem yes_eq {args : Option String} (h : yesArgs args = (none, text)) (hasInput : Bool) :
    yes hasInput args = .loop hasInput (yesRound text) .result := by
  unfold yes
  rw [h]
  rfl

/-- One round of `head`. -/
def headRound (left : Nat) : Behavior (Nat ⊕ Unit) := do
  if left = 0 then return .inr ()
  match ← ({ name := "head" } : Input).next with
  | some v =>
    Behavior.write v
    return .inl (left - 1)
  | none => return .inr ()

theorem head_eq (hasInput : Bool) (args : Option String) :
    head hasInput args = (({ name := "head" } : Input).openText hasInput none).bind fun _ =>
      .loop (countOr 5 args) headRound .result := rfl

end Command

open Command

/-- The first stage makes another copy of its text. -/
theorem goes_yes (hitem : P.item = .text text) (hlimit : P.limit 0 = none)
    (hrests : P.Rests 0 (sent + 1) arguments (.loop false (yesRound text) .result)) :
    P.Goes 0 sent (n + 5) .full arguments (.loop false (yesRound text) .result) := by
  refine .loop (.quiet rfl (.quiet rfl (.quiet rfl (.write hitem.symm ?_ ?_ hrests))))
  · simp [hlimit]
  · exact fun _ => rfl

/-- A stage without a program passes an item on. -/
theorem goes_forward (hi : 0 < i) (hlimit : P.limit i = none)
    (hrests : P.Rests i (sent + 1) arguments (.forAll .read .write)) :
    P.Goes i sent (n + 3) .empty arguments (.forAll .read .write) := by
  refine .loop (.read hi (.write rfl ?_ ?_ hrests) (.result hi (.inl rfl)))
  · simp [hlimit]
  · exact fun _ => rfl

/-- `head` passes an item on while some are left. -/
theorem goes_head {left : Nat} (hi : 0 < i) (hitem : P.item = .text text)
    (hlimit : P.limit i = some (sent + left)) (hqueue : arguments.queue = [])
    (hrests : 0 < left → P.Rests i (sent + 1) arguments (.loop (left - 1) headRound .result)) :
    P.Goes i sent (n + 6) .empty arguments (.loop left headRound .result) := by
  obtain ⟨queue, flags⟩ := arguments
  obtain rfl : queue = [] := hqueue
  refine .loop ?_
  rcases Nat.eq_zero_or_pos left with rfl | hleft
  · exact .result hi (.inr ⟨rfl, hlimit⟩)
  · have hround : headRound left = _ := if_neg hleft.ne'
    rw [Behavior.unfold, hround]
    refine .quiet rfl (.quiet rfl (.quiet (if_neg hi.ne')
      (.read hi (.write ?_ ?_ ?_ (hrests hleft)) (.result hi (.inl rfl)))))
    · rw [hitem]
      rfl
    · intro limit hlimit'
      rw [hlimit] at hlimit'
      have hsent := Option.some.inj hlimit'
      omega
    · exact fun _ => rfl

/-! ## Stages that have just been started -/

section Started

variable {spec : CommandSpec} {args : Option String}

theorem goes_stage_yes (hspec : spec.name = "yes") (hargs : yesArgs args = (none, text))
    (hitem : P.item = .text text) (hlimit : P.limit 0 = none)
    (hrests : P.Rests 0 1 {} (.loop false (yesRound text) .result)) :
    P.Goes 0 0 (n + 6) .full {} (Pipeline.stageBehavior program? spec false args) := by
  have hprogram : program? spec.name = some yes := by rw [hspec]; rfl
  simp only [Pipeline.stageBehavior, hprogram, yes_eq hargs]
  exact .quiet rfl (goes_yes hitem hlimit hrests)

theorem goes_stage_forward (hspec : program? spec.name = none) (hi : 0 < i) (hlimit : P.limit i = none)
    (hrests : P.Rests i 1 {} (.forAll .read .write)) :
    P.Goes i 0 (n + 4) .empty {} (Pipeline.stageBehavior program? spec true args) := by
  simp only [Pipeline.stageBehavior, hspec]
  exact .quiet rfl (goes_forward hi hlimit hrests)

theorem goes_stage_head (hspec : spec.name = "head") (hi : 0 < i) (hitem : P.item = .text text)
    (hlimit : P.limit i = some (countOr 5 args))
    (hrests : 0 < countOr 5 args → P.Rests i 1 {} (.loop (countOr 5 args - 1) headRound .result)) :
    P.Goes i 0 (n + 9) .empty {} (Pipeline.stageBehavior program? spec true args) := by
  have hprogram : program? spec.name = some head := by rw [hspec]; rfl
  simp only [Pipeline.stageBehavior, hprogram, head_eq]
  refine .quiet rfl (.quiet rfl (.quiet rfl (goes_head hi hitem ?_ rfl hrests)))
  rw [hlimit, Nat.zero_add]

end Started

end Pipework
