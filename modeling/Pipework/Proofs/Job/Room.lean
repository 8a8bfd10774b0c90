import Pipework.Proofs.Job.Alone
import Pipework.Proofs.Job.Manners

/-!
# A stage on its own, with the shell

Some stages look at the shell or change it, and some end the program. What such a stage does when
nobody disturbs it is told from a run in which nothing ever waits, as at a `Desk`, but in a `Room`: at
a desk, with the shell of the job to itself.

* `Behavior.PlaysIn n r b out e` — in `n` steps the behavior comes to its end: it has written `out`,
  and `e` tells how it has ended, and how it leaves the room;
* `Behavior.Plays r b out e` — it does so in some number of steps;
* `Behavior.Concludes r b` — it comes to its end, and does not end the program.

There is only one way in which a behavior plays (`Plays.unique`).
-/

namespace Pipework

/-- A stage that nobody disturbs: what it has before it, and the shell. -/
structure Room extends Desk where
  /-- The shell. -/
  shell : Shell

/-- The answer to an action when nothing ever waits, with what it writes and the room after it. Other
actions have no answer. -/
def Room.answer {β : Type} (r : Room) : Action β → Option (β × List Value × Room)
  | .shell => some (r.shell, [], r)
  | .setShell s => some ((), [], { r with shell := s })
  | .report _ => none
  | action => (r.toDesk.answer action).map fun (answer, written, d) =>
    (answer, written, { r with toDesk := d })

/-- How a behavior has ended. -/
inductive Finish (α : Type) where
  /-- With this result. -/
  | done (a : α)
  /-- With this error. -/
  | failed (e : ShellError)
  /-- It has ended the program. -/
  | crashed

/-- A result, or failure with an error. -/
def Finish.ofExcept {α : Type} : Except ShellError α → Finish α
  | .ok a => .done a
  | .error e => .failed e

namespace Behavior

variable {α β σ : Type}

/-- In `n` steps the behavior comes to its end. -/
def PlaysIn {α : Type} : Nat → Room → Behavior α → List Value → Finish α × Room → Prop
  | 0, _, _, _, _ => False
  | n + 1, r, b, out, e => match b with
    | .result a => out = [] ∧ e = (.done a, r)
    | .fail error => out = [] ∧ e = (.failed error, r)
    | .crash => out = [] ∧ e = (.crashed, r)
    | .loop s body next => PlaysIn n r (unfold s body next) out e
    | .act action next => ∃ answer written r' rest, r.answer action = some (answer, written, r') ∧
        out = written ++ rest ∧ PlaysIn n r' (next answer) rest e

/-- The behavior comes to its end. -/
def Plays (r : Room) (b : Behavior α) (out : List Value) (e : Finish α × Room) : Prop :=
  ∃ n, b.PlaysIn n r out e

variable {r r' : Room} {b : Behavior α} {f : α → Behavior β} {out out' : List Value}

/-- What a behavior does is determined by the room. -/
theorem Plays.unique {e e' : Finish α × Room} (h : b.Plays r out e) (h' : b.Plays r out' e') :
    out = out' ∧ e = e' := by
  obtain ⟨n, h⟩ := h
  obtain ⟨k, h'⟩ := h'
  induction n generalizing r b out out' k with
  | zero => exact h.elim
  | succ n ih =>
    cases k with
    | zero => exact h'.elim
    | succ k =>
      cases b with
      | result | fail | crash =>
        obtain ⟨rfl, rfl⟩ := h
        obtain ⟨rfl, rfl⟩ := h'
        exact ⟨rfl, rfl⟩
      | loop s body next => exact ih (b := unfold s body next) h k h'
      | act action next =>
        obtain ⟨answer, written, r₁, rest, hanswer, rfl, hrest⟩ := h
        obtain ⟨answer', written', r₁', rest', hanswer', rfl, hrest'⟩ := h'
        rw [hanswer, Option.some.injEq, Prod.mk.injEq, Prod.mk.injEq] at hanswer'
        obtain ⟨rfl, rfl, rfl⟩ := hanswer'
        obtain ⟨rfl, rfl⟩ := ih hrest k hrest'
        exact ⟨rfl, rfl⟩

/-! ## From a desk to a room -/

/-- What only takes input does at a desk it does in a room with this desk, and the shell stays. -/
theorem Yields.plays {d d' : Desk} {result : Except ShellError α} (h : b.Yields d out (result, d'))
    (hb : b.Obeys .receiving) (s : Shell) : b.Plays ⟨d, s⟩ out (.ofExcept result, ⟨d', s⟩) := by
  obtain ⟨n, h⟩ := h
  induction n generalizing d b out with
  | zero => exact h.elim
  | succ n ih =>
    cases b with
    | result a =>
      obtain ⟨rfl, h⟩ := h
      cases h
      exact ⟨1, rfl, rfl⟩
    | fail e =>
      obtain ⟨rfl, h⟩ := h
      cases h
      exact ⟨1, rfl, rfl⟩
    | crash => exact h.elim
    | loop x body next =>
      obtain ⟨k, h⟩ := ih hb.unfold h
      exact ⟨k + 1, h⟩
    | act action next =>
      obtain ⟨answer, written, d₁, rest, hanswer, -, rfl, hrest⟩ := h
      obtain ⟨k, h⟩ := ih (hb.2 answer trivial) hrest
      have hroom : Room.answer ⟨d, s⟩ action = some (answer, written, ⟨d₁, s⟩) := by
        have hreceives := hb.1
        cases action with
        | read | inputClosed | level | log | arguments | setArguments =>
          simp only [Room.answer, hanswer, Option.map_some]
        | _ => exact hreceives.elim
      exact ⟨k + 1, answer, written, ⟨d₁, s⟩, rest, hroom, rfl, h⟩

/-! ## Putting runs together -/

/-- One behavior after another. -/
theorem Plays.bind {a : α} {e : Finish β × Room} (hb : b.Plays r out (.done a, r'))
    (hf : (f a).Plays r' out' e) : (b.bind f).Plays r (out ++ out') e := by
  obtain ⟨n, hb⟩ := hb
  obtain ⟨k, hf⟩ := hf
  induction n generalizing r b out with
  | zero => exact hb.elim
  | succ n ih =>
    cases b with
    | result a' =>
      obtain ⟨rfl, h⟩ := hb
      obtain ⟨rfl, rfl⟩ : a = a' ∧ r' = r := by simpa using h
      exact ⟨k, hf⟩
    | fail | crash => simp [PlaysIn] at hb
    | loop s body next =>
      obtain ⟨k', h⟩ := ih (b := unfold s body next) hb
      rw [unfold_bind] at h
      exact ⟨k' + 1, h⟩
    | act action next =>
      obtain ⟨answer, written, r₁, rest, hanswer, rfl, hrest⟩ := hb
      obtain ⟨k', h⟩ := ih hrest
      exact ⟨k' + 1, answer, written, r₁, rest ++ out', hanswer, List.append_assoc .., h⟩

/-- A behavior that writes nothing, and another after it. -/
theorem Plays.then {a : α} {e : Finish β × Room} (hb : b.Plays r [] (.done a, r'))
    (hf : (f a).Plays r' out e) : (b.bind f).Plays r out e := hb.bind hf

theorem plays_result (r : Room) (a : α) : (result a).Plays r [] (.done a, r) := ⟨1, rfl, rfl⟩

theorem plays_fail (r : Room) (error : ShellError) :
    (fail error : Behavior α).Plays r [] (.failed error, r) := ⟨1, rfl, rfl⟩

theorem plays_crash (r : Room) : (crash : Behavior α).Plays r [] (.crashed, r) := ⟨1, rfl, rfl⟩

/-- An action that writes nothing. -/
theorem plays_perform {action : Action β} {answer : β} (h : r.answer action = some (answer, [], r')) :
    (perform action).Plays r [] (.done answer, r') := ⟨2, answer, [], r', [], h, rfl, rfl, rfl⟩

/-- The behavior comes to its end, with a result or an error. -/
def Concludes (r : Room) (b : Behavior Unit) : Prop :=
  ∃ out result left, b.Plays r out (.ofExcept result, left)

theorem Plays.concludes {b : Behavior Unit} (h : b.Plays r out (.done (), r')) : b.Concludes r :=
  ⟨out, .ok (), r', h⟩

theorem concludes_fail (r : Room) (error : ShellError) : (fail error).Concludes r :=
  ⟨[], .error error, r, plays_fail r error⟩

/-- After a behavior that writes nothing. -/
theorem Concludes.after {a : α} {f : α → Behavior Unit} (hf : (f a).Concludes r')
    (hb : b.Plays r [] (.done a, r')) : (b.bind f).Concludes r := by
  obtain ⟨out, result, left, hplays⟩ := hf
  exact ⟨out, result, left, hb.then hplays⟩

theorem plays_write (r : Room) (v : Value) : (write v).Plays r [v] (.done (), r) :=
  ⟨2, .ok (), [v], r, [], rfl, rfl, rfl, rfl⟩

theorem plays_writeAll (r : Room) (vs : List Value) : (writeAll vs).Plays r vs (.done (), r) := by
  induction vs with
  | nil => exact plays_result r ()
  | cons v vs ih => exact (plays_write r v).bind ih

theorem plays_note (r : Room) (subsystem message : String) :
    (note subsystem message).Plays r [] (.done (), r) := plays_perform rfl

theorem plays_shell (r : Room) : shell.Plays r [] (.done r.shell, r) := plays_perform rfl

theorem plays_setConfig (r : Room) (c : Config) :
    (setConfig c).Plays r [] (.done (), { r with shell := { r.shell with config := c } }) :=
  (plays_shell r).then (plays_perform rfl)

theorem plays_setFilter (r : Room) (f : Filter) :
    (setFilter f).Plays r [] (.done (), { r with shell := { r.shell with filter := f } }) :=
  (plays_shell r).then (plays_perform rfl)

/-- A stage that reads its input to the end, and forgets it. -/
theorem plays_drain (r : Room) : drain.Plays r [] (.done (), { r with input := none }) := by
  obtain ⟨⟨arguments, input⟩, shell⟩ := r
  have hclose : ∀ input : Option (List Value),
      (perform .closeInput).Plays ⟨⟨arguments, input⟩, shell⟩ [] (.done (), ⟨⟨arguments, none⟩, shell⟩) :=
    fun _ => plays_perform rfl
  -- each item is taken in one round of the loop
  have hread : ∀ items : List Value, (forAll read fun _ => result ()).Plays
      ⟨⟨arguments, some items⟩, shell⟩ [] (.done (), ⟨⟨arguments, some []⟩, shell⟩) := by
    intro items
    induction items with
    | nil => exact ⟨3, none, [], _, [], rfl, rfl, rfl, rfl⟩
    | cons v items ih =>
      obtain ⟨n, h⟩ := ih
      exact ⟨n + 2, some v, [], _, [], rfl, rfl, h⟩
  cases input with
  | none =>
    have hnothing : (forAll read fun _ => result ()).Plays ⟨⟨arguments, none⟩, shell⟩ []
        (.done (), ⟨⟨arguments, none⟩, shell⟩) := ⟨3, none, [], _, [], rfl, rfl, rfl, rfl⟩
    exact hnothing.then (hclose none)
  | some items => exact (hread items).then (hclose (some []))

end Behavior

end Pipework
