import Pipework.Proofs.Pipe.Attempts
import Pipework.Proofs.Pipe.Handles

/-!
# Close callbacks

A callback that is registered on a side of a pipe waits for that side to close. Whatever is done to
the pipe and its handles meanwhile:

* **waiting** — an open side has exactly the callbacks that have been registered on it, in the
  order of their registration, and a closed side has none (`Traffic.Awaiting`);
* **at once** — what is registered on a closed side runs in the call that registers it;
* **at the closing** — the call that closes a side runs all that waits for it, and where one call
  closes both sides, the callbacks of the writing side run first (`Pipe.Fires`);
* **once** — all in all, what has run are the callbacks of the sides that have closed, each as often
  as it has been registered.
-/

namespace Pipework

namespace Pipe

variable {α : Type} {p p' p'' : Pipe α} {events later : List Event} {ran : List Nat}

/-! ## Callbacks among events -/

/-- The callback that runs, if the event is one. -/
def Event.callback? : Event → Option Nat
  | .call label => some label
  | _ => none

/-- The callbacks that run, in order. -/
def fired (events : List Event) : List Nat := events.filterMap Event.callback?

@[simp] theorem fired_nil : fired [] = [] := rfl

@[simp] theorem fired_append (events later : List Event) :
    fired (events ++ later) = fired events ++ fired later := List.filterMap_append

@[simp] theorem fired_note (text : String) (events : List Event) :
    fired (.note text :: events) = fired events := rfl

@[simp] theorem fired_wakes {β : Type} (f : β → Waker) (xs : List β) :
    fired (xs.map fun x => .wake (f x)) = [] := by
  rw [fired, List.filterMap_map, List.filterMap_eq_nil_iff]
  exact fun _ _ => rfl

@[simp] theorem fired_blocked (wakers : List Waker) : fired (wakers.map .wake) = [] :=
  fired_wakes id wakers

@[simp] theorem fired_calls (labels : List Nat) : fired (labels.map .call) = labels := by
  rw [fired, List.filterMap_map]
  exact List.filterMap_some

/-! ## One call -/

/-- The callbacks that wait for a side to close. -/
def callbacks (p : Pipe α) : Side → List Nat
  | .read => p.onReadClose
  | .write => p.onWriteClose

/-- The callbacks that are due because the side closes between two states of the pipe. -/
def due (p p' : Pipe α) (side : Side) : List Nat :=
  if !p.closed side && p'.closed side then p.callbacks side else []

/-- No callback is registered: a side that closes lets go of its callbacks, and they run, those of
the writing side first. -/
structure Fires (p p' : Pipe α) (ran : List Nat) : Prop where
  stays : ∀ side, p.closed side = true → p'.closed side = true
  callbacks : ∀ side, p'.callbacks side =
    if !p.closed side && p'.closed side then [] else p.callbacks side
  ran : ran = p.due p' .write ++ p.due p' .read

/-- Nothing closes and nothing is registered. -/
structure Idle (p p' : Pipe α) (events : List Event) : Prop where
  closed : ∀ side, p'.closed side = p.closed side
  callbacks : ∀ side, p'.callbacks side = p.callbacks side
  fired : fired events = []

namespace Idle

theorem refl : Idle p p [] := ⟨fun _ => rfl, fun _ => rfl, rfl⟩

theorem trans (h : Idle p p' events) (h' : Idle p' p'' later) : Idle p p'' (events ++ later) where
  closed side := (h'.closed side).trans (h.closed side)
  callbacks side := (h'.callbacks side).trans (h.callbacks side)
  fired := by rw [fired_append, h.fired, h'.fired]; rfl

theorem of_eq (readClosed : p'.readClosed = p.readClosed) (writeClosed : p'.writeClosed = p.writeClosed)
    (onReadClose : p'.onReadClose = p.onReadClose) (onWriteClose : p'.onWriteClose = p.onWriteClose)
    (hfired : Pipe.fired events = []) : Idle p p' events where
  closed side := by
    cases side with
    | read => exact readClosed
    | write => exact writeClosed
  callbacks side := by
    cases side with
    | read => exact onReadClose
    | write => exact onWriteClose
  fired := hfired

theorem due (h : Idle p p' events) (side : Side) : p.due p' side = [] := by
  rw [Pipe.due, h.closed]
  simp

theorem fires (h : Idle p p' events) : Fires p p' (Pipe.fired events) where
  stays side hclosed := (h.closed side).trans hclosed
  callbacks side := by
    rw [h.closed, h.callbacks]
    simp
  ran := by rw [h.fired, h.due, h.due]; rfl

/-- What comes before a closing does not count. -/
theorem before (h : Idle p p' events) (h' : Fires p' p'' ran) : Fires p p'' ran := by
  have hdue : ∀ side, p.due p'' side = p'.due p'' side := fun side => by
    rw [Pipe.due, Pipe.due, h.closed, h.callbacks]
  exact
    { stays := fun side hclosed => h'.stays side ((h.closed side).trans hclosed)
      callbacks := fun side => by rw [h'.callbacks, h.closed, h.callbacks]
      ran := by rw [hdue, hdue, ← h'.ran] }

end Idle

theorem idle_block (p : Pipe α) (waker : Option Waker) : Idle p (p.block waker) [] := by
  rw [(p.block_spec waker).1]
  exact .of_eq rfl rfl rfl rfl rfl

theorem idle_handOver (p : Pipe α) (item : α) {events : List Event} (hfired : fired events = []) :
    Idle p (p.handOver item) events := by
  unfold handOver
  split <;> exact .of_eq rfl rfl rfl rfl hfired

theorem idle_offer (p : Pipe α) (item : α) (waker : Option Waker) :
    Idle p (p.offer item waker).2.1 (p.offer item waker).2.2 := by
  obtain ⟨-, ho⟩ | ⟨-, -, ho⟩ | ⟨-, -, ⟨_, _, _, -, ho⟩ | ⟨-, -, ho⟩ | ⟨-, -, ho⟩⟩ :=
    p.offer_cases item waker <;> rw [ho]
  · exact .of_eq rfl rfl rfl rfl rfl
  · exact .refl
  · exact p.idle_handOver item rfl
  · exact .of_eq rfl rfl rfl rfl rfl
  · exact p.idle_block waker

theorem idle_pollRead (p : Pipe α) (waker : Waker) (state : ReadState) :
    Idle p (p.pollRead waker state).2.2.1 (p.pollRead waker state).2.2.2 := by
  obtain ⟨-, hp⟩ | ⟨_, -, ⟨_, -, hp⟩ | ⟨-, hp⟩⟩ |
    ⟨-, ⟨-, hp⟩ | ⟨-, ⟨_, _, -, hp⟩ | ⟨-, ⟨-, hp⟩ | ⟨-, hp⟩⟩⟩⟩ :=
    p.pollRead_cases waker state <;> rw [hp]
  case inr.inr.inr.inl => exact .of_eq rfl rfl rfl rfl (fired_blocked p.blocked)
  all_goals exact .of_eq rfl rfl rfl rfl rfl

theorem idle_dropRead (p : Pipe α) (state : ReadState) :
    Idle p (p.dropRead state).1 (p.dropRead state).2 := by
  obtain ⟨-, hd⟩ | ⟨ticket, -, ⟨item, -, hd⟩ | ⟨-, hd⟩ | ⟨-, hd⟩⟩ := p.dropRead_cases state <;>
    rw [hd]
  · exact .refl
  · have hcollect : Idle p (p.collect ticket) [] := .of_eq rfl rfl rfl rfl rfl
    refine hcollect.trans ?_
    obtain ⟨-, hp⟩ | ⟨-, ⟨_, _, _, -, hp⟩ | ⟨-, hp⟩⟩ := (p.collect ticket).restore_cases item <;>
      rw [hp]
    · exact .refl
    · exact (p.collect ticket).idle_handOver item rfl
    · exact .of_eq rfl rfl rfl rfl rfl
  · exact .of_eq rfl rfl rfl rfl rfl
  · exact .of_eq rfl rfl rfl rfl rfl

/-- Moving items closes nothing and registers nothing. -/
theorem Goes.idle (h : Goes Call.moves p p' events) : Idle p p' events := by
  induction h with
  | start => exact .refl
  | @call q _ call kept _ ih =>
    refine ih.trans ?_
    cases call with
    | pollRead waker state => exact q.idle_pollRead waker state
    | dropRead state => exact q.idle_dropRead state
    | tryWrite item =>
      simp only [Call.apply, tryWrite_eq]
      exact q.idle_offer item none
    | pollWrite waker item =>
      simp only [Call.apply, pollWrite_eq]
      exact q.idle_offer item (some waker)
    | _ => exact kept.elim

/-! ## Closing -/

theorem fires_finishWrite (p : Pipe α) : Fires p p.finishWrite.2.1 (fired p.finishWrite.2.2) := by
  cases hw : p.writeClosed with
  | true =>
    rw [finishWrite, if_pos hw]
    exact Idle.refl.fires
  | false =>
    have hfinish : p.finishWrite.2.1 =
        { p.endParked with writeClosed := true, blocked := [], onWriteClose := [] } := by
      simp [finishWrite, hw]
    have hfired : fired p.finishWrite.2.2 = p.onWriteClose := by simp [finishWrite, hw]
    rw [hfinish, hfired]
    refine ⟨?_, ?_, ?_⟩
    · rintro (_ | _) hclosed
      · exact hclosed
      · rfl
    · rintro (_ | _) <;> simp [closed, callbacks, endParked, hw]
    · simp [due, closed, callbacks, endParked, hw]

theorem fires_finishRead (p : Pipe α) : Fires p p.finishRead.2.1 (fired p.finishRead.2.2) := by
  cases hr : p.readClosed with
  | true =>
    rw [finishRead, if_pos hr]
    exact Idle.refl.fires
  | false =>
    have hfinish : p.finishRead.2.1 =
        { p.endParked with readClosed := true, buffer := [], blocked := [], onReadClose := [] } := by
      simp [finishRead, hr]
    have hfired : fired p.finishRead.2.2 = p.onReadClose := by simp [finishRead, hr]
    rw [hfinish, hfired]
    refine ⟨?_, ?_, ?_⟩
    · rintro (_ | _) hclosed
      · rfl
      · exact hclosed
    · rintro (_ | _) <;> simp [closed, callbacks, endParked, hr]
    · simp [due, closed, callbacks, endParked, hr]

theorem idle_counted (p : Pipe α) (readers writers : Nat) :
    Idle p { p with readers := readers, writers := writers } [] := .of_eq rfl rfl rfl rfl rfl

theorem fires_closeWrite (p : Pipe α) : Fires p p.closeWrite.2.1 (fired p.closeWrite.2.2) := by
  obtain ⟨-, hc⟩ | ⟨-, hc⟩ | ⟨n, -, hc⟩ := p.closeWrite_cases <;> rw [hc]
  · exact Idle.refl.fires
  · exact (p.idle_counted p.readers 0).before (fires_finishWrite _)
  · exact (p.idle_counted p.readers (n + 1)).fires

theorem fires_closeRead (p : Pipe α) : Fires p p.closeRead.2.1 (fired p.closeRead.2.2) := by
  obtain ⟨-, hc⟩ | ⟨-, hc⟩ | ⟨n, -, hc⟩ := p.closeRead_cases <;> rw [hc]
  · exact Idle.refl.fires
  · exact (p.idle_counted 0 p.writers).before (fires_finishRead _)
  · exact (p.idle_counted (n + 1) p.writers).fires

theorem finishWrite_read (p : Pipe α) : p.finishWrite.2.1.readClosed = p.readClosed ∧
    p.finishWrite.2.1.onReadClose = p.onReadClose := by
  unfold finishWrite
  split <;> exact ⟨rfl, rfl⟩

theorem finishRead_write (p : Pipe α) : p.finishRead.2.1.writeClosed = p.writeClosed ∧
    p.finishRead.2.1.onWriteClose = p.onWriteClose := by
  unfold finishRead
  split <;> exact ⟨rfl, rfl⟩

/-- The writing side closes first, and each side as if it were alone. -/
theorem fires_finish (p : Pipe α) : Fires p p.finishWrite.2.1.finishRead.2.1
    (fired (p.finishWrite.2.2 ++ p.finishWrite.2.1.finishRead.2.2)) := by
  have hwrite := p.fires_finishWrite
  have hread := p.finishWrite.2.1.fires_finishRead
  obtain ⟨hreadClosed, honRead⟩ := p.finishWrite_read
  obtain ⟨hwriteClosed, honWrite⟩ := p.finishWrite.2.1.finishRead_write
  set q := p.finishWrite.2.1
  set r := q.finishRead.2.1
  have hnotRead : p.due q .read = [] := by simp [due, closed, hreadClosed]
  have hnotWrite : q.due r .write = [] := by simp [due, closed, hwriteClosed]
  refine ⟨fun side hclosed => hread.stays side (hwrite.stays side hclosed), ?_, ?_⟩
  · rintro (_ | _)
    · rw [hread.callbacks]
      simp [closed, callbacks, hreadClosed, honRead]
    · have hcallbacks := hwrite.callbacks .write
      simpa [closed, callbacks, hwriteClosed, honWrite] using hcallbacks
  · rw [fired_append, hwrite.ran, hread.ran, hnotRead, hnotWrite, List.append_nil,
      List.nil_append]
    simp [due, closed, callbacks, hreadClosed, honRead, hwriteClosed]

theorem fires_forceClose (p : Pipe α) : Fires p p.forceClose.1 (fired p.forceClose.2) :=
  (p.idle_counted 0 0).before (fires_finish _)

/-- The callback that a call registers, if it does. -/
def Call.label? : Call α → Option Nat
  | .onReadClose label => some label
  | .onWriteClose label => some label
  | _ => none

/-- **One call.** Where nothing is registered, the callbacks of a side run in the call that closes
it. -/
theorem Call.fires (p : Pipe α) (call : Call α) (h : call.label? = none) :
    Fires p (call.apply p).2.1 (fired (call.apply p).2.2) := by
  have hmoves : call.moves → Fires p (call.apply p).2.1 (fired (call.apply p).2.2) :=
    fun hmoves => (Goes.one call hmoves).idle.fires
  cases call with
  | openRead => exact Idle.fires (.of_eq rfl rfl rfl rfl rfl)
  | openWrite => exact Idle.fires (.of_eq rfl rfl rfl rfl rfl)
  | closeRead => exact p.fires_closeRead
  | closeWrite => exact p.fires_closeWrite
  | forceClose => exact p.fires_forceClose
  | onReadClose label => exact nomatch h
  | onWriteClose label => exact nomatch h
  | _ => exact hmoves trivial

/-! ## Registering -/

/-- Register a callback on a side. -/
def addCallback (p : Pipe α) : Side → Nat → Pipe α × List Event
  | .read, label => p.addReadCallback label
  | .write, label => p.addWriteCallback label

/-- What is registered on a closed side runs at once, and waits its turn on an open one. -/
theorem addCallback_spec (p : Pipe α) (side : Side) (label : Nat) :
    (∀ other, (p.addCallback side label).1.closed other = p.closed other) ∧
    (∀ other, (p.addCallback side label).1.callbacks other =
      p.callbacks other ++ if side = other ∧ p.closed side = false then [label] else []) ∧
    fired (p.addCallback side label).2 = if p.closed side then [label] else [] := by
  cases side with
  | read =>
    cases hr : p.readClosed <;> refine ⟨?_, ?_, ?_⟩ <;> try rintro (_ | _)
    all_goals simp [addCallback, addReadCallback, closed, callbacks, hr, fired, Event.callback?]
  | write =>
    cases hw : p.writeClosed <;> refine ⟨?_, ?_, ?_⟩ <;> try rintro (_ | _)
    all_goals simp [addCallback, addWriteCallback, closed, callbacks, hw, fired, Event.callback?]

end Pipe

namespace Traffic

variable {α : Type} {t : Traffic α}

open Pipe (Fires Idle fired)

/-! ## One operation -/

theorem idle_openSide (p : Pipe α) (side : Side) :
    Idle p (openSide p side).1 (openSide p side).2 := by
  cases side <;> exact .of_eq rfl rfl rfl rfl rfl

theorem fires_closeSide (p : Pipe α) (side : Side) :
    Fires p (closeSide p side).2.1 (fired (closeSide p side).2.2) := by
  cases side with
  | read => exact p.fires_closeRead
  | write => exact p.fires_closeWrite

theorem fires_release (t : Traffic α) (id : String) (h : Handle) :
    Fires t.pipe (t.releaseHandle id h).2.1.pipe (fired (t.releaseHandle id h).2.2) := by
  simp only [releaseHandle]
  split
  · exact Idle.refl.fires
  · exact fires_closeSide t.pipe h.side

theorem fires_open (t : Traffic α) (side : Side) (id : String) :
    Fires t.pipe (t.openHandle side id).1.pipe (fired (t.openHandle side id).2) := by
  have hopen := idle_openSide t.pipe side
  simp only [openHandle]
  split
  · rename_i old _
    rw [Pipe.fired_append, hopen.fired, List.nil_append]
    exact hopen.before (fires_release { t with pipe := (openSide t.pipe side).1 } id old)
  · rw [List.append_nil]
    exact hopen.fires

/-- An operation that registers nothing runs the callbacks of the sides that it closes. -/
theorem fires_step (t : Traffic α) {op : PipeOp α}
    (hop : ∀ side handle label, op ≠ .onClose side handle label) :
    Fires t.pipe (t.step op).2.1.pipe (fired (t.step op).2.2) := by
  have hidle : Fires t.pipe t.pipe (fired []) := Idle.refl.fires
  cases op with
  | openHandle side id =>
    simp only [Traffic.step]
    split
    · exact hidle
    · exact t.fires_open side id
  | clone name id =>
    simp only [Traffic.step]
    split
    · exact hidle
    · split
      · exact hidle
      · exact t.fires_open _ id
  | close name =>
    simp only [Traffic.step]
    split
    · exact hidle
    · exact t.fires_release name _
  | drop name =>
    simp only [Traffic.step]
    split
    · exact hidle
    · split
      · exact hidle
      · exact t.fires_release name _
  | tryWrite handle item =>
    have hwrite : Fires t.pipe (t.pipe.tryWrite item).2.1 (fired (t.pipe.tryWrite item).2.2) :=
      Pipe.Call.fires t.pipe (.tryWrite item) rfl
    cases handle with
    | none => exact hwrite
    | some name =>
      simp only [Traffic.step]
      split
      · exact hidle
      · split
        · exact hidle
        · exact hwrite
  | read handle id => exact (t.goes_startOn _ _ _ _ _).idle.fires
  | write handle id item => exact (t.goes_startOn _ _ _ _ _).idle.fires
  | readAll handle id => exact (t.goes_startOn _ _ _ _ _).idle.fires
  | writeAll handle id items => exact (t.goes_startOn _ _ _ _ _).idle.fires
  | poll id =>
    simp only [Traffic.step]
    split
    · exact hidle
    · rename_i f _
      have hpoll := (t.goes_pollFuture f).idle.fires
      split <;> rename_i hp <;> rw [hp] at hpoll <;> exact hpoll
  | forget id =>
    simp only [Traffic.step]
    split
    · exact hidle
    · exact (t.goes_forget id _).idle.fires
  | closeSide side => exact fires_closeSide t.pipe side
  | forceClose => exact t.pipe.fires_forceClose
  | onClose side handle label => exact absurd rfl (hop side handle label)
  | isClosed name =>
    simp only [Traffic.step]
    split <;> exact hidle
  | name handle =>
    simp only [Traffic.step]
    split <;> exact hidle
  | describe handle =>
    cases handle with
    | none => exact hidle
    | some name =>
      simp only [Traffic.step]
      split <;> exact hidle

/-- The callback that an operation registers on a side: none where it names a handle that is not
there. -/
def registration (t : Traffic α) (side : Side) : PipeOp α → List Nat
  | .onClose other handle label =>
    if other = side ∧ handle.all fun name => (t.handleOn? other name).isSome then [label] else []
  | _ => []

/-- What an operation does to the sides of the pipe and to their callbacks. -/
structure Rings (t : Traffic α) (op : PipeOp α) (p : Pipe α) (ran : List Nat) : Prop where
  stays : ∀ side, t.pipe.closed side = true → p.closed side = true
  /-- An operation that registers a callback closes nothing. -/
  apart : ∀ side other, t.registration side op ≠ [] → p.closed other = t.pipe.closed other
  callbacks : ∀ side, p.callbacks side =
    if !t.pipe.closed side && p.closed side then []
    else t.pipe.callbacks side ++ if t.pipe.closed side then [] else t.registration side op
  ran : ran = (if t.pipe.closed .write then t.registration .write op else []) ++
    (if t.pipe.closed .read then t.registration .read op else []) ++
    (t.pipe.due p .write ++ t.pipe.due p .read)

/-- The pipe and the callbacks that have run after one operation. -/
theorem rings_step (t : Traffic α) (op : PipeOp α) :
    Rings t op (t.step op).2.1.pipe (fired (t.step op).2.2) := by
  by_cases hop : ∀ side handle label, op ≠ .onClose side handle label
  · have hnone : ∀ side, t.registration side op = [] := fun side => by
      cases op with
      | onClose other handle label => exact absurd rfl (hop other handle label)
      | _ => rfl
    obtain ⟨hstays, hcallbacks, hran⟩ := t.fires_step hop
    exact
      { stays := hstays
        apart := fun side other hregisters => absurd (hnone side) hregisters
        callbacks := fun side => by rw [hcallbacks, hnone]; simp
        ran := by rw [hran, hnone, hnone]; simp }
  · simp only [ne_eq, not_forall, not_not] at hop
    obtain ⟨side, handle, label, rfl⟩ := hop
    -- through a handle that is not there nothing is registered
    by_cases hthere : handle.all fun name => (t.handleOn? side name).isSome
    · have hstep : (t.step (.onClose side handle label)).2 =
          ({ t with pipe := (t.pipe.addCallback side label).1 },
            (t.pipe.addCallback side label).2) := by
        have hnot : (handle.any fun name => (t.handleOn? side name).isNone) = false := by
          cases handle with
          | none => rfl
          | some name => simpa using hthere
        cases side <;> simp [Traffic.step, hnot, Pipe.addCallback]
      obtain ⟨hclosed, hcallbacks, hran⟩ := t.pipe.addCallback_spec side label
      rw [hstep]
      refine ⟨fun s hs => (hclosed s).trans hs, fun _ other _ => hclosed other, fun s => ?_, ?_⟩
      · rw [hclosed, hcallbacks]
        by_cases hs : side = s
        · subst hs
          cases t.pipe.closed side <;> simp [registration, hthere]
        · simp [registration, hs]
      · rw [hran, Pipe.due, Pipe.due, hclosed, hclosed]
        cases side <;> simp [registration, hthere]
    · have hnone : ∀ s, t.registration s (.onClose side handle label) = [] := fun s => by
        simp [registration, hthere]
      have hstep : (t.step (.onClose side handle label)).2 = (t, []) := by
        have hnot : (handle.any fun name => (t.handleOn? side name).isNone) = true := by
          cases handle with
          | none => simp at hthere
          | some name => simpa using hthere
        simp [Traffic.step, hnot]
      obtain ⟨hstays, hcallbacks, hran⟩ := Idle.fires (p := t.pipe) .refl
      rw [hstep]
      exact
        { stays := hstays
          apart := fun s other hregisters => absurd (hnone s) hregisters
          callbacks := fun s => by rw [hcallbacks, hnone]; simp
          ran := by rw [hran, hnone, hnone]; simp }

/-! ## A run -/

/-- The callbacks that the operations register on a side, in order. -/
def registered (t : Traffic α) (side : Side) : List (PipeOp α) → List Nat
  | [] => []
  | op :: ops => t.registration side op ++ (t.step op).2.1.registered side ops

/-- The callbacks that run in the course of the operations, in order. -/
def firedIn (t : Traffic α) (ops : List (PipeOp α)) : List Nat :=
  (t.run ops).1.flatMap fun e => fired e.2

theorem registered_concat (t : Traffic α) (side : Side) (ops : List (PipeOp α)) (op : PipeOp α) :
    t.registered side (ops ++ [op]) =
      t.registered side ops ++ (t.run ops).2.registration side op := by
  induction ops generalizing t with
  | nil => simp [registered, Traffic.run]
  | cons op' ops ih =>
    rw [List.cons_append, registered, registered, ih, run_cons, List.append_assoc]

theorem firedIn_concat (t : Traffic α) (ops : List (PipeOp α)) (op : PipeOp α) :
    t.firedIn (ops ++ [op]) = t.firedIn ops ++ fired ((t.run ops).2.step op).2.2 := by
  induction ops generalizing t with
  | nil => simp [firedIn, Traffic.run]
  | cons op' ops ih =>
    have hcons : ∀ more, t.firedIn (op' :: more) =
        fired (t.step op').2.2 ++ (t.step op').2.1.firedIn more := fun _ => rfl
    rw [List.cons_append, hcons, hcons, ih, run_cons, List.append_assoc]

/-- An open side has the callbacks that have been registered on it, a closed one has none. -/
def Awaiting (t : Traffic α) (labels : Side → List Nat) : Prop :=
  ∀ side, t.pipe.callbacks side = if t.pipe.closed side then [] else labels side

theorem Rings.awaiting {t t' : Traffic α} {op : PipeOp α} {ran : List Nat} {labels : Side → List Nat}
    (h : Rings t op t'.pipe ran) (ht : t.Awaiting labels) :
    t'.Awaiting fun side => labels side ++ t.registration side op := by
  intro side
  have hstays := h.stays side
  rw [h.callbacks, ht side]
  cases hopen : t.pipe.closed side with
  | true => simp [hstays hopen]
  | false => cases t'.pipe.closed side <;> simp

theorem awaiting_run {start : Traffic α} (hstart : start.Awaiting fun _ => [])
    (ops : List (PipeOp α)) : (start.run ops).2.Awaiting fun side => start.registered side ops := by
  induction ops using List.reverseRecOn with
  | nil => exact hstart
  | append_singleton ops op ih =>
    simp only [registered_concat]
    rw [run_concat]
    exact ((start.run ops).2.rings_step op).awaiting ih

theorem closed_step {side : Side} (t : Traffic α) (op : PipeOp α)
    (hclosed : t.pipe.closed side = true) : (t.step op).2.1.pipe.closed side = true :=
  (t.rings_step op).stays side hclosed

theorem closed_append {side : Side} (t : Traffic α) (ops more : List (PipeOp α))
    (hclosed : (t.run ops).2.pipe.closed side = true) :
    (t.run (ops ++ more)).2.pipe.closed side = true := by
  induction more using List.reverseRecOn with
  | nil => simpa using hclosed
  | append_singleton more op ih =>
    rw [← List.append_assoc, run_concat]
    exact closed_step _ op ih

/-- The callbacks that an operation runs: those that it registers on a closed side, and all that
have been registered on a side that it closes. -/
theorem fired_step {labels : Side → List Nat} (ht : t.Awaiting labels) (op : PipeOp α) :
    fired (t.step op).2.2 =
      (if t.pipe.closed .write then t.registration .write op
        else if (t.step op).2.1.pipe.closed .write then labels .write else []) ++
      (if t.pipe.closed .read then t.registration .read op
        else if (t.step op).2.1.pipe.closed .read then labels .read else []) := by
  have hrings := t.rings_step op
  have hdue : ∀ side, t.pipe.due (t.step op).2.1.pipe side =
      if t.pipe.closed side then []
      else if (t.step op).2.1.pipe.closed side then labels side else [] := fun side => by
    rw [Pipe.due, ht side]
    cases t.pipe.closed side <;> simp
  rw [hrings.ran, hdue, hdue]
  -- where a callback is registered on one side, the other does not close
  by_cases hregisters : t.registration .read op = []
  · cases t.pipe.closed .write <;> cases t.pipe.closed .read <;> simp [hregisters]
  · have hsame := hrings.apart .read .write hregisters
    rw [hsame]
    cases t.pipe.closed .write <;> cases t.pipe.closed .read <;> simp

/-- All that has run are the callbacks of the sides that have closed. -/
theorem firedIn_perm {start : Traffic α} (hopen : ∀ side, start.pipe.closed side = false)
    (hstart : start.Awaiting fun _ => []) (ops : List (PipeOp α)) :
    (start.firedIn ops).Perm
      ((if (start.run ops).2.pipe.closed .write then start.registered .write ops else []) ++
        if (start.run ops).2.pipe.closed .read then start.registered .read ops else []) := by
  induction ops using List.reverseRecOn with
  | nil => simp [firedIn, Traffic.run, hopen]
  | append_singleton ops op ih =>
    have hfired := fired_step (awaiting_run hstart ops) op
    have hrings := (start.run ops).2.rings_step op
    simp only [firedIn_concat, registered_concat, run_concat]
    set t := (start.run ops).2
    set t' := (t.step op).2.1
    -- side by side: what had run and what runs now
    have hside : ∀ side, ((if t.pipe.closed side then start.registered side ops else []) ++
        (if t.pipe.closed side then t.registration side op
          else if t'.pipe.closed side then start.registered side ops else [])) =
        if t'.pipe.closed side then start.registered side ops ++ t.registration side op else [] := by
      intro side
      have hstays := hrings.stays side
      cases hnow : t.pipe.closed side with
      | true => simp [hstays hnow]
      | false =>
        cases hthen : t'.pipe.closed side with
        | false => simp
        | true =>
          have hnone : t.registration side op = [] := by
            by_contra hregisters
            have hsame := hrings.apart side side hregisters
            rw [hthen, hnow] at hsame
            exact Bool.noConfusion hsame
          simp [hnone]
    rw [← hside, ← hside, hfired]
    refine (ih.append_right _).trans ?_
    -- the two sides are interleaved differently, so only the counts agree
    rw [List.perm_iff_count]
    intro label
    simp only [List.count_append]
    omega

/-! ## The theorem -/

/-- **Close callbacks run exactly once.** Whatever is done to a new pipe, its handles and its reads
and writes, over any number of operations: a side that has closed stays closed; an operation runs
the callback that it registers on a side that has closed, and all that have been registered on a
side that it closes, in the order of their registration, those of the writing side first, and no
others; closing both sides by force while both are open runs all that have been registered, and
closes them; and all in all, what has run are the callbacks registered on the sides that have
closed, each as often as it has been registered. -/
theorem callbacks_run_once (name : String) (capacity : Nat) (ops : List (PipeOp α)) :
    let start : Traffic α := (create name capacity).1
    let t := (start.run ops).2
    (∀ side more, t.pipe.closed side = true →
      (start.run (ops ++ more)).2.pipe.closed side = true) ∧
    (∀ op, let t' := (t.step op).2.1
      fired (t.step op).2.2 =
        (if t.pipe.closed .write then t.registration .write op
          else if t'.pipe.closed .write then start.registered .write ops else []) ++
        (if t.pipe.closed .read then t.registration .read op
          else if t'.pipe.closed .read then start.registered .read ops else [])) ∧
    ((∀ side, t.pipe.closed side = false) → let forced := t.step .forceClose
      fired forced.2.2 = start.registered .write ops ++ start.registered .read ops ∧
        ∀ side, forced.2.1.pipe.closed side = true) ∧
    (start.firedIn ops).Perm
      ((if t.pipe.closed .write then start.registered .write ops else []) ++
        if t.pipe.closed .read then start.registered .read ops else []) := by
  intro start t
  have hopen : ∀ side, start.pipe.closed side = false := by rintro (_ | _) <;> rfl
  have hstart : start.Awaiting fun _ => [] := by rintro (_ | _) <;> rfl
  have hawaiting : t.Awaiting fun side => start.registered side ops := awaiting_run hstart ops
  refine ⟨fun side more hclosed => start.closed_append ops more hclosed,
    fun op => fired_step hawaiting op, fun hboth => ?_, firedIn_perm hopen hstart ops⟩
  have hforced : ∀ side, (t.step .forceClose).2.1.pipe.closed side = true := by
    rintro (_ | _)
    · exact t.pipe.readClosed_forceClose
    · exact t.pipe.writeClosed_forceClose
  refine ⟨?_, hforced⟩
  rw [fired_step hawaiting .forceClose, hforced, hforced, hboth, hboth]
  simp

end Traffic

end Pipework
