import Mathlib
import Pipework.Job.Behavior

/-!
# A stage on its own

What a stage writes does not depend on when its reads and writes are answered, so it can be told
from a run in which nothing ever waits. There the stage sits at a `Desk`, with all the items that
its reader will ever give, and every write succeeds.

* `Behavior.Runs n d b out r` — in `n` steps the behavior comes to its end: it has written `out`, and
  `r` is its result, or the error with which it has failed, and the desk it leaves;
* `Behavior.Yields d b out r` — it does so in some number of steps;
* `Behavior.Writes d b out` — it does so, however it ends.

A behavior that runs is also *strict*: it fails with the error of a write that fails, so a broken
pipe cuts its output short and nothing else.
-/

namespace Pipework

/-- What a stage has before it. -/
structure Desk where
  /-- What is left of its arguments. -/
  arguments : Arguments := {}
  /-- The items that its reader will give; none without an open reader. -/
  input : Option (List Value) := none

/-- The answer to an action when nothing ever waits, with what it writes and the desk after it. Other
actions have no answer. -/
def Desk.answer {β : Type} (d : Desk) : Action β → Option (β × List Value × Desk)
  | .read => match d.input with
    | some (v :: rest) => some (some v, [], { d with input := some rest })
    | _ => some (none, [], d)
  | .write v => some (.ok (), [v], d)
  | .closeInput => some ((), [], { d with input := none })
  | .inputClosed => some (d.input.isNone, [], d)
  | .level => some (0, [], d)
  | .log .. | .report _ => some ((), [], d)
  | .arguments => some (d.arguments, [], d)
  | .setArguments a => some ((), [], { d with arguments := a })
  | _ => none

/-- Whoever performs a write fails when it does. -/
def Action.Strict {α β : Type} : Action β → (β → Behavior α) → Prop
  | .write _, next => ∀ e, next (.error e) = .fail e
  | _, _ => True

namespace Behavior

variable {α β σ : Type}

/-- In `n` steps the behavior comes to its end. -/
def Runs {α : Type} : Nat → Desk → Behavior α → List Value → Except ShellError α × Desk → Prop
  | 0, _, _, _, _ => False
  | n + 1, d, b, out, r => match b with
    | .result a => out = [] ∧ r = (.ok a, d)
    | .fail e => out = [] ∧ r = (.error e, d)
    | .crash => False
    | .loop s body next => Runs n d (unfold s body next) out r
    | .act action next => ∃ answer written d' rest, d.answer action = some (answer, written, d') ∧
        action.Strict next ∧ out = written ++ rest ∧ Runs n d' (next answer) rest r

/-- The behavior comes to its end. -/
def Yields (d : Desk) (b : Behavior α) (out : List Value) (r : Except ShellError α × Desk) : Prop :=
  ∃ n, b.Runs n d out r

/-- The behavior comes to its end, in success or failure, and writes these items. -/
def Writes (d : Desk) (b : Behavior α) (out : List Value) : Prop := ∃ r, b.Yields d out r

/-! ## Putting runs together -/

theorem bind_assoc {γ : Type} (b : Behavior α) (f : α → Behavior β) (g : β → Behavior γ) :
    (b.bind f).bind g = b.bind fun a => (f a).bind g := by
  induction b with
  | result a => rfl
  | fail e => rfl
  | crash => rfl
  | act action next ih => simp only [Behavior.bind, ih]
  | loop s body next _ ih => simp only [Behavior.bind, ih]

theorem unfold_bind (s : σ) (body : σ → Behavior (σ ⊕ α)) (next : α → Behavior β)
    {γ : Type} (f : β → Behavior γ) :
    (unfold s body next).bind f = unfold s body fun a => (next a).bind f := by
  rw [unfold, bind_assoc, unfold]
  congr 1
  funext x
  cases x <;> rfl

theorem strict_bind {action : Action σ} {next : σ → Behavior α} (h : action.Strict next)
    (f : α → Behavior β) : action.Strict fun answer => (next answer).bind f := by
  cases action with
  | write v => exact fun e => congrArg (·.bind f) (h e)
  | _ => trivial

/-- One behavior after another. -/
theorem Yields.bind {d d' : Desk} {b : Behavior α} {f : α → Behavior β} {out out' : List Value}
    {a : α} {r : Except ShellError β × Desk} (hb : b.Yields d out (.ok a, d')) (hf : (f a).Yields d' out' r) :
    (b.bind f).Yields d (out ++ out') r := by
  obtain ⟨n, hb⟩ := hb
  obtain ⟨k, hf⟩ := hf
  induction n generalizing d b out with
  | zero => exact hb.elim
  | succ n ih =>
    cases b with
    | result a' =>
      obtain ⟨rfl, h⟩ := hb
      obtain ⟨rfl, rfl⟩ : a = a' ∧ d' = d := by simpa using h
      exact ⟨k, hf⟩
    | fail e => simp [Runs] at hb
    | crash => exact hb.elim
    | loop s body next =>
      obtain ⟨k', h⟩ := ih (b := unfold s body next) hb
      rw [unfold_bind] at h
      exact ⟨k' + 1, h⟩
    | act action next =>
      obtain ⟨answer, written, d₁, rest, hanswer, hstrict, rfl, hrest⟩ := hb
      obtain ⟨k', h⟩ := ih hrest
      exact ⟨k' + 1, answer, written, d₁, rest ++ out', hanswer, strict_bind hstrict f,
        List.append_assoc .., h⟩

/-- What comes after a failure does not matter. -/
theorem Yields.bind_fail {d d' : Desk} {b : Behavior α} {out : List Value} {e : ShellError}
    (hb : b.Yields d out (.error e, d')) (f : α → Behavior β) :
    (b.bind f).Yields d out (.error e, d') := by
  obtain ⟨n, hb⟩ := hb
  induction n generalizing d b out with
  | zero => exact hb.elim
  | succ n ih =>
    cases b with
    | result a => simp [Runs] at hb
    | fail e' =>
      obtain ⟨rfl, h⟩ := hb
      obtain ⟨rfl, rfl⟩ : e = e' ∧ d' = d := by simpa using h
      exact ⟨1, rfl, rfl⟩
    | crash => exact hb.elim
    | loop s body next =>
      obtain ⟨k, h⟩ := ih (b := unfold s body next) hb
      rw [unfold_bind] at h
      exact ⟨k + 1, h⟩
    | act action next =>
      obtain ⟨answer, written, d₁, rest, hanswer, hstrict, rfl, hrest⟩ := hb
      obtain ⟨k, h⟩ := ih hrest
      exact ⟨k + 1, answer, written, d₁, rest, hanswer, strict_bind hstrict f, rfl, h⟩

/-- A behavior that writes nothing, and another after it. -/
theorem Yields.then {d d' : Desk} {b : Behavior α} {f : α → Behavior β} {out : List Value} {a : α}
    {r : Except ShellError β × Desk} (hb : b.Yields d [] (.ok a, d')) (hf : (f a).Yields d' out r) :
    (b.bind f).Yields d out r :=
  hb.bind hf

theorem Yields.writes {d : Desk} {b : Behavior α} {out : List Value} {r : Except ShellError α × Desk}
    (h : b.Yields d out r) : b.Writes d out := ⟨r, h⟩

theorem Yields.thenWrites {d d' : Desk} {b : Behavior α} {f : α → Behavior β} {out : List Value}
    {a : α} (hb : b.Yields d [] (.ok a, d')) (hf : (f a).Writes d' out) :
    (b.bind f).Writes d out := by
  obtain ⟨r, hf⟩ := hf
  exact ⟨r, hb.then hf⟩

theorem yields_result (d : Desk) (a : α) : (result a).Yields d [] (.ok a, d) := ⟨1, rfl, rfl⟩

theorem yields_fail (d : Desk) (e : ShellError) : (fail e : Behavior α).Yields d [] (.error e, d) :=
  ⟨1, rfl, rfl⟩

/-- What follows from a result that there may be. -/
theorem writes_ofExcept {d : Desk} {a? : Except ShellError α} {f : α → Behavior β} {out : List Value}
    (hok : ∀ a, a? = .ok a → (f a).Writes d out) (herror : ∀ e, a? = .error e → out = []) :
    ((Behavior.ofExcept a?).bind f).Writes d out := by
  cases a? with
  | ok a => exact hok a rfl
  | error e =>
    rw [herror e rfl]
    exact (yields_fail d e).writes

/-- An action that writes nothing. -/
theorem yields_perform {d d' : Desk} {action : Action β} {answer : β}
    (h : d.answer action = some (answer, [], d')) :
    (perform action).Yields d [] (.ok answer, d') := by
  refine ⟨2, answer, [], d', [], h, ?_, rfl, rfl, rfl⟩
  cases action with
  | write v => simp [Desk.answer] at h
  | _ => trivial

theorem yields_write (d : Desk) (v : Value) : (write v).Yields d [v] (.ok (), d) :=
  ⟨2, .ok (), [v], d, [], rfl, fun _ => rfl, rfl, rfl, rfl⟩

theorem yields_writeAll (d : Desk) (vs : List Value) : (writeAll vs).Yields d vs (.ok (), d) := by
  induction vs with
  | nil => exact yields_result d ()
  | cons v vs ih => exact (yields_write d v).bind ih

/-! ## Loops -/

section Loops

variable {d d' : Desk} {body : σ → Behavior (σ ⊕ β)} {s s' : σ} {out out' : List Value}

theorem Yields.loop {next : β → Behavior α} {r : Except ShellError α × Desk}
    (h : (unfold s body next).Yields d out r) : (loop s body next).Yields d out r := by
  obtain ⟨n, h⟩ := h
  exact ⟨n + 1, h⟩

/-- One round of a loop, and then the rest of it. -/
theorem Yields.round {r : Except ShellError β × Desk} (hbody : (body s).Yields d out (.ok (.inl s'), d'))
    (hrest : (forever s' body).Yields d' out' r) : (forever s body).Yields d (out ++ out') r := by
  refine .loop ?_
  unfold unfold
  exact hbody.bind hrest

/-- A round that writes nothing. -/
theorem Yields.again {r : Except ShellError β × Desk} (hbody : (body s).Yields d [] (.ok (.inl s'), d'))
    (hrest : (forever s' body).Yields d' out r) : (forever s body).Yields d out r :=
  .round hbody hrest

/-- The last round of a loop. -/
theorem Yields.stop {b : β} (hbody : (body s).Yields d out (.ok (.inr b), d')) :
    (forever s body).Yields d out (.ok b, d') := by
  refine .loop ?_
  unfold unfold
  rw [← List.append_nil out]
  exact hbody.bind (yields_result d' b)

/-- A round that fails. -/
theorem Yields.break {e : ShellError} (hbody : (body s).Yields d out (.error e, d')) :
    (forever s body).Yields d out (.error e, d') := by
  refine .loop ?_
  unfold unfold
  exact hbody.bind_fail _

end Loops

/-! ## Sources -/

/-- At a desk that `holds` items the source takes the first of them, and at one that holds none it
meets the end of data. -/
structure Feeds (source : Behavior (Option Value)) (holds : List Value → Desk → Prop) : Prop where
  cons : ∀ {v items d}, holds (v :: items) d →
    ∃ d', source.Yields d [] (.ok (some v), d') ∧ holds items d'
  nil : ∀ {d}, holds [] d → ∃ d', source.Yields d [] (.ok none, d') ∧ holds [] d'

/-- What is written while the items are taken, with a state that each item changes. -/
def emitted (change : σ → Value → σ) (written : σ → Value → List Value) :
    σ → List Value → List Value
  | _, [] => []
  | s, v :: items => written s v ++ emitted change written (change s v) items

/-- A loop that takes items. In each round the body comes to an end, or it goes on with fewer items
before it: `out` is what the loop writes, `post` what holds at its end. -/
theorem yields_loop {holds : List Value → Desk → Prop} {body : σ → Behavior (σ ⊕ β)}
    (out : σ → List Value → List Value) (post : σ → List Value → Except ShellError β × Desk → Prop)
    (hround : ∀ s items d, holds items d →
      (∃ r, (body s).Yields d (out s items) (r.1.map .inr, r.2) ∧ post s items r) ∨
      ∃ written s' left d', (body s).Yields d written (.ok (.inl s'), d') ∧ holds left d' ∧
        left.length < items.length ∧ out s items = written ++ out s' left ∧
        ∀ r, post s' left r → post s items r)
    (s : σ) {items : List Value} {d : Desk} (hd : holds items d) :
    ∃ r, (forever s body).Yields d (out s items) r ∧ post s items r := by
  induction hlength : items.length using Nat.strong_induction_on generalizing s items d with
  | _ length ih =>
    obtain ⟨⟨result, d'⟩, hover, hpost⟩ | ⟨written, s', left, d', hbody, hleft, hlt, hout, hpost⟩ :=
      hround s items d hd
    · refine ⟨(result, d'), ?_, hpost⟩
      cases result with
      | error e => exact .break hover
      | ok b => exact .stop hover
    · obtain ⟨r, hrest, hr⟩ := ih _ (hlength ▸ hlt) s' hleft rfl
      exact ⟨r, hout ▸ .round hbody hrest, hpost r hr⟩

theorem writes_loop {holds : List Value → Desk → Prop} {body : σ → Behavior (σ ⊕ β)}
    (out : σ → List Value → List Value)
    (hround : ∀ s items d, holds items d →
      (∃ b d', (body s).Yields d (out s items) (.ok (.inr b), d')) ∨
      ∃ written s' left d', (body s).Yields d written (.ok (.inl s'), d') ∧ holds left d' ∧
        left.length < items.length ∧ out s items = written ++ out s' left)
    (s : σ) {items : List Value} {d : Desk} (hd : holds items d) :
    (forever s body).Writes d (out s items) := by
  refine (yields_loop out (fun _ _ _ => True) (fun s items d hd => ?_) s hd).imp fun _ => And.left
  obtain ⟨b, d', hover⟩ | ⟨written, s', left, d', hbody, hleft, hlt, hout⟩ := hround s items d hd
  · exact .inl ⟨(.ok b, d'), hover, trivial⟩
  · exact .inr ⟨written, s', left, d', hbody, hleft, hlt, hout, fun _ => id⟩

/-- A loop over all items. Its body leaves the desk alone. -/
theorem yields_forEach {source : Behavior (Option Value)} {holds : List Value → Desk → Prop}
    (hsource : Feeds source holds) {body : σ → Value → Behavior σ} {change : σ → Value → σ}
    {written : σ → Value → List Value}
    (hbody : ∀ d s v, (body s v).Yields d (written s v) (.ok (change s v), d)) (s : σ)
    {items : List Value} {d : Desk} (hd : holds items d) :
    ∃ d', (forEach source s body).Yields d (emitted change written s items)
      (.ok (items.foldl change s), d') ∧ holds [] d' := by
  suffices h : ∃ r, (forEach source s body).Yields d (emitted change written s items) r ∧
      r.1 = .ok (items.foldl change s) ∧ holds [] r.2 by
    obtain ⟨⟨_, d'⟩, h, rfl, hd'⟩ := h
    exact ⟨d', h, hd'⟩
  refine yields_loop (emitted change written)
    (fun s items r => r.1 = .ok (items.foldl change s) ∧ holds [] r.2) (fun s items d hd => ?_) s hd
  cases items with
  | nil =>
    obtain ⟨d', hnone, hd'⟩ := hsource.nil hd
    exact .inl ⟨(.ok s, d'), hnone.then (yields_result d' _), rfl, hd'⟩
  | cons v items =>
    obtain ⟨d', htaken, hd'⟩ := hsource.cons hd
    refine .inr ⟨written s v, change s v, items, d', htaken.then ?_, hd', Nat.lt_succ_self _, rfl,
      fun _ => id⟩
    rw [← List.append_nil (written s v)]
    exact (hbody d' s v).bind (yields_result d' _)

theorem emitted_unit (written : Value → List Value) (items : List Value) :
    emitted (fun (_ : Unit) _ => ()) (fun _ v => written v) () items = items.flatMap written := by
  induction items with
  | nil => rfl
  | cons v items ih => rw [emitted, ih, List.flatMap_cons]

theorem writes_forAll {source : Behavior (Option Value)} {holds : List Value → Desk → Prop}
    (hsource : Feeds source holds) {body : Value → Behavior Unit} {written : Value → List Value}
    (hbody : ∀ d v, (body v).Yields d (written v) (.ok (), d)) {items : List Value} {d : Desk}
    (hd : holds items d) : (forAll source body).Writes d (items.flatMap written) := by
  obtain ⟨d', h, -⟩ :=
    yields_forEach hsource (fun d _ v => hbody d v) () hd
  rw [emitted_unit] at h
  exact h.writes

theorem yields_closeInput (d : Desk) :
    (perform .closeInput).Yields d [] (.ok (), { d with input := none }) := yields_perform rfl

theorem yields_read_nil {d : Desk} (hd : d.input.getD [] = []) : read.Yields d [] (.ok none, d) := by
  obtain ⟨arguments, _ | input⟩ := d
  · exact yields_perform rfl
  · obtain rfl : input = [] := hd
    exact yields_perform rfl

/-- What a reader gives. -/
theorem feeds_read (a : Arguments) :
    Feeds read fun items d => d.arguments = a ∧ d.input.getD [] = items where
  cons {v items d} := by
    rintro ⟨ha, hitems⟩
    obtain ⟨arguments, _ | input⟩ := d
    · simp at hitems
    · obtain rfl : input = v :: items := hitems
      exact ⟨⟨arguments, some items⟩, yields_perform rfl, ha, rfl⟩
  nil hd := ⟨_, yields_read_nil hd.2, hd⟩

theorem yields_readAll {a : Arguments} {items : List Value} {d : Desk}
    (hd : d.arguments = a ∧ d.input.getD [] = items) :
    ∃ d', readAll.Yields d [] (.ok items, d') ∧ d'.arguments = a ∧ d'.input.getD [] = [] := by
  obtain ⟨d', h, hd'⟩ :=
    yields_forEach (feeds_read a) (fun d s v => yields_result d (v :: s)) [] hd
  have hnothing : ∀ s, emitted (fun items v => v :: items) (fun _ _ => []) s items = [] := by
    clear h hd
    induction items with
    | nil => exact fun _ => rfl
    | cons v items ih => exact fun s => ih (v :: s)
  have hall : items.foldl (fun items v => v :: items) [] = items.reverse := by
    rw [List.foldl_flip_cons_eq_append', List.append_nil]
  rw [hnothing, hall] at h
  refine ⟨d', h.then ?_, hd'⟩
  rw [List.reverse_reverse]
  exact yields_result d' items

end Behavior

end Pipework
