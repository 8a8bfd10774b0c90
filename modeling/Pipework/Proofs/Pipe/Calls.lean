import Pipework.Pipe.Traffic
import Pipework.Proofs.Pipe.Link

/-!
# What can be done to a pipe

A `Pipe.Call` is one thing that is done to a pipe, by a handle, by a read or write under way, or by
the pipe's owner; whatever becomes of a pipe comes of calls, one after another (`Pipe.Reaches`).

* **writes** — `Pipe.Judged` is the whole table of what a write comes to, by the closed sides, the
  parked reads and the room in the buffer;
* **signals** — a call causes a signal exactly where it is a write that fails on a broken pipe
  (`Call.signals_apply`);
* **order** — the reads in the queue stand in the order of their tickets, so the first of them is
  the oldest (`Pipe.Ascending`).
-/

namespace Pipework

/-- How a poll of a write ends. -/
abbrev WriteOutcome := Poll (Except ShellError Unit)

/-- The name of the pipe that a write found broken. -/
def WriteOutcome.broken? : WriteOutcome → Option String
  | .ready (.error (.brokenPipe name)) => some name
  | _ => none

namespace Pipe

variable {α : Type} {p p' : Pipe α}

/-- The signal of a write to a pipe without readers. -/
def brokenSignal (name : String) : String × String := (name, s!"pipe is read-closed '{name}'")

/-- The signal among the events, if it is one. -/
def Event.signal? : Event → Option (String × String)
  | .signal pipe message => some (pipe, message)
  | _ => none

/-- The signals among events, in order. -/
def signals (events : List Event) : List (String × String) := events.filterMap Event.signal?

@[simp] theorem signals_nil : signals [] = [] := rfl

@[simp] theorem signals_append (events later : List Event) :
    signals (events ++ later) = signals events ++ signals later := List.filterMap_append

@[simp] theorem signals_note (text : String) (events : List Event) :
    signals (.note text :: events) = signals events := rfl

@[simp] theorem signals_wakes {β : Type} (f : β → Waker) (xs : List β) :
    signals (xs.map fun x => .wake (f x)) = [] := by
  rw [signals, List.filterMap_map, List.filterMap_eq_nil_iff]
  exact fun _ _ => rfl

@[simp] theorem signals_blocked (wakers : List Waker) : signals (wakers.map .wake) = [] :=
  signals_wakes id wakers

@[simp] theorem signals_calls (labels : List Nat) : signals (labels.map .call) = [] := by
  rw [signals, List.filterMap_map, List.filterMap_eq_nil_iff]
  exact fun _ _ => rfl

/-! ## Writes -/

/-- What an offer to a pipe `p` comes to: the pipe `p'` after it and its events. -/
structure Judged (p : Pipe α) (item : α) (waker : Option Waker) (offer : Offer) (p' : Pipe α)
    (events : List Event) : Prop where
  /-- The pipe is broken where nobody can read it any more, be it closed for writing or not. -/
  broken : offer = .failed (.brokenPipe p.name) ↔ p.readClosed = true
  /-- It takes nothing more where only the writing side has closed. -/
  closed : offer = .failed (.alreadyWriteClosed p.name) ↔
    p.readClosed = false ∧ p.writeClosed = true
  /-- It takes the item where a read waits or there is room. -/
  accepted : offer = .accepted ↔ p.readClosed = false ∧ p.writeClosed = false ∧
    (p.parked ≠ [] ∨ p.buffer.length < p.capacity)
  /-- The write has to wait where nobody waits and there is no room. -/
  full : offer = .full ↔ p.readClosed = false ∧ p.writeClosed = false ∧ p.parked = [] ∧
    p.capacity ≤ p.buffer.length
  /-- The first read in the queue takes the item, and is woken. -/
  handed : offer = .accepted → ∀ e rest, p.parked = e :: rest →
    p' = { p with parked := rest, answered := p.answered ++ [(e.1, some item)] } ∧
      events = [.wake e.2]
  /-- Where nobody waits the item goes to the end of the buffer. -/
  buffered : offer = .accepted → p.parked = [] →
    p' = { p with buffer := p.buffer ++ [item] } ∧ events = []
  /-- An item that is not taken changes nothing; a write that waits leaves its waker. -/
  refused : offer ≠ .accepted → p' = { p with blocked := p'.blocked } ∧
    (offer ≠ .full ∨ waker = none → p' = p) ∧
    (offer = .full → ∀ w, w ∈ p'.blocked ↔ w ∈ p.blocked ∨ waker = some w)
  /-- One signal for a broken pipe, and none else. -/
  signals : signals events = if p.readClosed then [brokenSignal p.name] else []

/-- A write that waits leaves its waker, and nothing else. -/
theorem block_spec (p : Pipe α) (waker : Option Waker) :
    p.block waker = { p with blocked := (p.block waker).blocked } ∧
      (waker = none → p.block waker = p) ∧
      ∀ w, w ∈ (p.block waker).blocked ↔ w ∈ p.blocked ∨ waker = some w := by
  cases waker with
  | none => exact ⟨rfl, fun _ => rfl, by simp [block]⟩
  | some waker =>
    simp only [block]
    split
    · rename_i hmem
      refine ⟨rfl, by simp, fun w => ⟨.inl, ?_⟩⟩
      rintro (hw | hw)
      · exact hw
      · obtain rfl := Option.some.inj hw
        simpa using hmem
    · exact ⟨rfl, by simp, fun w => by simp [eq_comm]⟩

/-- **The table of writes.** -/
theorem judged_offer (p : Pipe α) (item : α) (waker : Option Waker) :
    Judged p item waker (p.offer item waker).1 (p.offer item waker).2.1
      (p.offer item waker).2.2 := by
  obtain ⟨hr, ho⟩ | ⟨hr, hw, ho⟩ | ⟨hr, hw, ⟨ticket, w, rest, hq, ho⟩ | ⟨hq, hroom, ho⟩ |
    ⟨hq, hfull, ho⟩⟩ := p.offer_cases item waker <;> rw [ho]
  · exact
      { broken := by simp [hr]
        closed := by simp [hr]
        accepted := by simp [hr]
        full := by simp [hr]
        handed := by simp
        buffered := by simp
        refused := fun _ => ⟨rfl, fun _ => rfl, by simp⟩
        signals := by rw [hr]; rfl }
  · exact
      { broken := by simp [hr]
        closed := by simp [hr, hw]
        accepted := by simp [hw]
        full := by simp [hw]
        handed := by simp
        buffered := by simp
        refused := fun _ => ⟨rfl, fun _ => rfl, by simp⟩
        signals := by rw [hr]; rfl }
  · have hhand : p.handOver item =
        { p with parked := rest, answered := p.answered ++ [(ticket, some item)] } := by
      simp [handOver, hq]
    rw [hhand]
    exact
      { broken := by simp [hr]
        closed := by simp [hw]
        accepted := by simp [hr, hw, hq]
        full := by simp [hq]
        handed := fun _ e others he => by
          obtain ⟨rfl, rfl⟩ := List.cons.inj (hq.symm.trans he)
          exact ⟨rfl, rfl⟩
        buffered := fun _ hnone => by simp [hq] at hnone
        refused := fun h => absurd rfl h
        signals := by rw [hr]; rfl }
  · exact
      { broken := by simp [hr]
        closed := by simp [hw]
        accepted := by simp [hr, hw, hroom]
        full := by simp [hroom]
        handed := fun _ e others he => by simp [hq] at he
        buffered := fun _ _ => ⟨rfl, rfl⟩
        refused := fun h => absurd rfl h
        signals := by rw [hr]; rfl }
  · obtain ⟨hframe, hnone, hwaker⟩ := p.block_spec waker
    exact
      { broken := by simp [hr]
        closed := by simp [hw]
        accepted := by simp [hq, hfull]
        full := by simp [hr, hw, hq, hfull]
        handed := by simp
        buffered := by simp
        refused := fun _ => ⟨hframe, by simpa using hnone, fun _ => hwaker⟩
        signals := by rw [hr]; rfl }

/-- How a write without waiting ends. -/
def Offer.tried (name : String) : Offer → Except ShellError Unit
  | .accepted => .ok ()
  | .full => .error (.wouldBlock name)
  | .failed e => .error e

/-- How a poll of a write ends. -/
def Offer.polled : Offer → WriteOutcome
  | .accepted => .ready (.ok ())
  | .full => .pending
  | .failed e => .ready (.error e)

theorem tryWrite_eq (p : Pipe α) (item : α) :
    p.tryWrite item = ((p.offer item none).1.tried p.name, (p.offer item none).2) := by
  obtain ⟨-, ho⟩ | ⟨-, -, ho⟩ | ⟨-, -, ⟨_, _, _, -, ho⟩ | ⟨-, -, ho⟩ | ⟨-, -, ho⟩⟩ :=
    p.offer_cases item none <;> rw [tryWrite, ho] <;> rfl

theorem pollWrite_eq (p : Pipe α) (waker : Waker) (item : α) :
    p.pollWrite waker item =
      ((p.offer item (some waker)).1.polled, (p.offer item (some waker)).2) := by
  rw [pollWrite]
  rcases p.offer item (some waker) with ⟨_ | _ | _, p', events⟩ <;> rfl

/-! ## Calls -/

/-- One thing that is done to a pipe. -/
inductive Call (α : Type) where
  /-- Count a handle for reading. -/
  | openRead
  /-- Count a handle for writing. -/
  | openWrite
  /-- Release a handle for reading. -/
  | closeRead
  /-- Release a handle for writing. -/
  | closeWrite
  /-- Close both sides. -/
  | forceClose
  /-- Register a callback for the end of reading. -/
  | onReadClose (label : Nat)
  /-- Register a callback for the end of writing. -/
  | onWriteClose (label : Nat)
  /-- Poll a read. -/
  | pollRead (waker : Waker) (state : ReadState)
  /-- Abandon a read. -/
  | dropRead (state : ReadState)
  /-- Write without waiting. -/
  | tryWrite (item : α)
  /-- Poll a write. -/
  | pollWrite (waker : Waker) (item : α)

/-- The pipe after a call, with its events; and how it ended, if it was a write. -/
def Call.apply (p : Pipe α) : Call α → Option WriteOutcome × Pipe α × List Event
  | .openRead => (none, p.openRead)
  | .openWrite => (none, p.openWrite)
  | .closeRead => (none, p.closeRead.2)
  | .closeWrite => (none, p.closeWrite.2)
  | .forceClose => (none, p.forceClose)
  | .onReadClose label => (none, p.addReadCallback label)
  | .onWriteClose label => (none, p.addWriteCallback label)
  | .pollRead waker state => (none, (p.pollRead waker state).2.2)
  | .dropRead state => (none, p.dropRead state)
  | .tryWrite item => (some (.ready (p.tryWrite item).1), (p.tryWrite item).2)
  | .pollWrite waker item => (some (p.pollWrite waker item).1, (p.pollWrite waker item).2)

/-- A call that puts an item into the pipe or takes one out. -/
def Call.moves : Call α → Prop
  | .pollRead _ _ | .dropRead _ | .tryWrite _ | .pollWrite _ _ => True
  | _ => False

/-! ## Signals -/

/-- An offer that is not broken causes no signal, one that is broken causes one. -/
theorem signals_offer (p : Pipe α) (item : α) (waker : Option Waker) :
    signals (p.offer item waker).2.2 =
      ((p.offer item waker).1.polled.broken?.map brokenSignal).toList ∧
    WriteOutcome.broken? (.ready ((p.offer item waker).1.tried p.name)) =
      (p.offer item waker).1.polled.broken? ∧
    ∀ name, (p.offer item waker).1.polled.broken? = some name → name = p.name := by
  obtain ⟨-, ho⟩ | ⟨-, -, ho⟩ | ⟨-, -, ⟨_, _, _, -, ho⟩ | ⟨-, -, ho⟩ | ⟨-, -, ho⟩⟩ :=
    p.offer_cases item waker <;> rw [ho]
  · exact ⟨rfl, rfl, fun name h => (Option.some.inj h).symm⟩
  all_goals exact ⟨rfl, rfl, fun name h => nomatch h⟩

theorem signals_finishWrite (p : Pipe α) : signals p.finishWrite.2.2 = [] := by
  unfold finishWrite
  split
  · rfl
  · simp

theorem signals_finishRead (p : Pipe α) : signals p.finishRead.2.2 = [] := by
  unfold finishRead
  split
  · rfl
  · simp

theorem signals_closeWrite (p : Pipe α) : signals p.closeWrite.2.2 = [] := by
  obtain ⟨-, hc⟩ | ⟨-, hc⟩ | ⟨_, -, hc⟩ := p.closeWrite_cases <;> rw [hc]
  · rfl
  · exact signals_finishWrite _
  · rfl

theorem signals_closeRead (p : Pipe α) : signals p.closeRead.2.2 = [] := by
  obtain ⟨-, hc⟩ | ⟨-, hc⟩ | ⟨_, -, hc⟩ := p.closeRead_cases <;> rw [hc]
  · rfl
  · exact signals_finishRead _
  · rfl

theorem signals_forceClose (p : Pipe α) : signals p.forceClose.2 = [] := by
  simp only [forceClose, signals_append, signals_finishWrite, signals_finishRead]
  rfl

theorem signals_addReadCallback (p : Pipe α) (label : Nat) :
    signals (p.addReadCallback label).2 = [] := by
  unfold addReadCallback
  split <;> rfl

theorem signals_addWriteCallback (p : Pipe α) (label : Nat) :
    signals (p.addWriteCallback label).2 = [] := by
  unfold addWriteCallback
  split <;> rfl

theorem signals_pollRead (p : Pipe α) (waker : Waker) (state : ReadState) :
    signals (p.pollRead waker state).2.2.2 = [] := by
  obtain ⟨-, hp⟩ | ⟨_, -, ⟨_, -, hp⟩ | ⟨-, hp⟩⟩ |
    ⟨-, ⟨-, hp⟩ | ⟨-, ⟨_, _, -, hp⟩ | ⟨-, ⟨-, hp⟩ | ⟨-, hp⟩⟩⟩⟩ :=
    p.pollRead_cases waker state <;> rw [hp]
  case inr.inr.inr.inl => exact signals_blocked p.blocked
  all_goals rfl

theorem signals_dropRead (p : Pipe α) (state : ReadState) :
    signals (p.dropRead state).2 = [] := by
  obtain ⟨-, hd⟩ | ⟨ticket, -, ⟨item, -, hd⟩ | ⟨-, hd⟩ | ⟨-, hd⟩⟩ := p.dropRead_cases state <;>
    rw [hd]
  · rfl
  · obtain ⟨-, hp⟩ | ⟨-, ⟨_, _, _, -, hp⟩ | ⟨-, hp⟩⟩ := (p.collect ticket).restore_cases item <;>
      rw [hp] <;> rfl
  · rfl
  · rfl

/-- A call causes one signal where it is a write that fails on a broken pipe, which then is this
one; else it causes none. -/
theorem Call.signals_apply (p : Pipe α) (call : Call α) :
    signals (call.apply p).2.2 =
      (((call.apply p).1.bind WriteOutcome.broken?).map brokenSignal).toList ∧
    ∀ name, (call.apply p).1.bind WriteOutcome.broken? = some name → name = p.name := by
  have hsilent : ∀ {q : Pipe α} {events : List Event}, call.apply p = (none, q, events) →
      signals events = [] → signals (call.apply p).2.2 =
        (((call.apply p).1.bind WriteOutcome.broken?).map brokenSignal).toList ∧
      ∀ name, (call.apply p).1.bind WriteOutcome.broken? = some name → name = p.name := by
    intro q events hcall hevents
    rw [hcall]
    exact ⟨hevents, fun name h => nomatch h⟩
  cases call with
  | openRead => exact hsilent rfl rfl
  | openWrite => exact hsilent rfl rfl
  | closeRead => exact hsilent rfl p.signals_closeRead
  | closeWrite => exact hsilent rfl p.signals_closeWrite
  | forceClose => exact hsilent rfl p.signals_forceClose
  | onReadClose label => exact hsilent rfl (p.signals_addReadCallback label)
  | onWriteClose label => exact hsilent rfl (p.signals_addWriteCallback label)
  | pollRead waker state => exact hsilent rfl (p.signals_pollRead waker state)
  | dropRead state => exact hsilent rfl (p.signals_dropRead state)
  | tryWrite item =>
    obtain ⟨hsignals, hsame, hname⟩ := p.signals_offer item none
    simp only [Call.apply, tryWrite_eq, Option.bind_some]
    rw [hsame]
    exact ⟨hsignals, hname⟩
  | pollWrite waker item =>
    obtain ⟨hsignals, -, hname⟩ := p.signals_offer item (some waker)
    simp only [Call.apply, pollWrite_eq, Option.bind_some]
    exact ⟨hsignals, hname⟩

/-! ## The queue -/

/-- The reads in the queue stand in the order of their tickets. -/
structure Ascending (p : Pipe α) : Prop where
  order : (p.parked.map (·.1)).Pairwise (· < ·)
  issued : ∀ ticket ∈ p.parked.map (·.1), ticket < p.nextTicket

/-- Reads leave the queue, or a new one joins it at the end. -/
inductive Queue (p p' : Pipe α) : Prop where
  | leave (parked : (p'.parked.map (·.1)).Sublist (p.parked.map (·.1)))
      (next : p'.nextTicket = p.nextTicket)
  | join (waker : Waker) (parked : p'.parked = p.parked ++ [(p.nextTicket, waker)])
      (next : p'.nextTicket = p.nextTicket + 1)

theorem Queue.refl : Queue p p := .leave (.refl _) rfl

theorem Ascending.queue (h : p.Ascending) (hqueue : Queue p p') : p'.Ascending := by
  cases hqueue with
  | leave parked next =>
    exact ⟨h.order.sublist parked, fun ticket ht => next ▸ h.issued ticket (parked.subset ht)⟩
  | join waker parked next =>
    have hparked : p'.parked.map (·.1) = p.parked.map (·.1) ++ [p.nextTicket] := by
      rw [parked, List.map_append]
      rfl
    refine ⟨?_, fun ticket ht => ?_⟩
    · rw [hparked, List.pairwise_append]
      exact ⟨h.order, List.pairwise_singleton _ _, fun a ha b hb =>
        List.mem_singleton.mp hb ▸ h.issued a ha⟩
    · rw [hparked, List.mem_append, List.mem_singleton] at ht
      rw [next]
      rcases ht with ht | rfl
      · exact Nat.lt_succ_of_lt (h.issued ticket ht)
      · exact Nat.lt_succ_self _

theorem queue_handOver (p : Pipe α) (item : α) : Queue p (p.handOver item) := by
  unfold handOver
  split
  · rename_i hq
    exact .leave (by rw [hq]; exact List.sublist_cons_self _ _) rfl
  · exact .refl

theorem queue_offer (p : Pipe α) (item : α) (waker : Option Waker) :
    Queue p (p.offer item waker).2.1 := by
  obtain ⟨-, ho⟩ | ⟨-, -, ho⟩ | ⟨-, -, ⟨_, _, _, -, ho⟩ | ⟨-, -, ho⟩ | ⟨-, -, ho⟩⟩ :=
    p.offer_cases item waker <;> rw [ho]
  · exact .refl
  · exact .refl
  · exact p.queue_handOver item
  · exact .leave (.refl _) rfl
  · rw [(p.block_spec waker).1]
    exact .leave (.refl _) rfl

theorem queue_pollRead (p : Pipe α) (waker : Waker) (state : ReadState) :
    Queue p (p.pollRead waker state).2.2.1 := by
  obtain ⟨-, hp⟩ | ⟨ticket, -, ⟨_, -, hp⟩ | ⟨-, hp⟩⟩ |
    ⟨-, ⟨-, hp⟩ | ⟨-, ⟨_, _, -, hp⟩ | ⟨-, ⟨-, hp⟩ | ⟨-, hp⟩⟩⟩⟩ :=
    p.pollRead_cases waker state <;> rw [hp]
  · exact .refl
  · exact .leave (.refl _) rfl
  · exact .leave (by rw [p.map_fst_rewake ticket waker]) rfl
  · exact .refl
  · exact .leave (.refl _) rfl
  · exact .refl
  · exact .join waker rfl rfl

theorem queue_dropRead (p : Pipe α) (state : ReadState) : Queue p (p.dropRead state).1 := by
  obtain ⟨-, hd⟩ | ⟨ticket, -, ⟨item, -, hd⟩ | ⟨-, hd⟩ | ⟨-, hd⟩⟩ := p.dropRead_cases state <;>
    rw [hd]
  · exact .refl
  · obtain ⟨-, hp⟩ | ⟨-, ⟨_, _, _, hq, hp⟩ | ⟨-, hp⟩⟩ := (p.collect ticket).restore_cases item <;>
      rw [hp]
    · exact .leave (.refl _) rfl
    · obtain ⟨hparked, hnext⟩ | ⟨_, hparked, hnext⟩ := (p.collect ticket).queue_handOver item
      · exact .leave hparked hnext
      · exact .join _ hparked hnext
    · exact .leave (.refl _) rfl
  · exact .leave (.refl _) rfl
  · exact .leave (List.filter_sublist.map _) rfl

theorem queue_finishWrite (p : Pipe α) : Queue p p.finishWrite.2.1 := by
  unfold finishWrite
  split
  · exact .refl
  · exact .leave (List.nil_sublist _) rfl

theorem queue_finishRead (p : Pipe α) : Queue p p.finishRead.2.1 := by
  unfold finishRead
  split
  · exact .refl
  · exact .leave (List.nil_sublist _) rfl

/-- Calls keep the order of the queue. -/
theorem Ascending.apply (h : p.Ascending) (call : Call α) : (call.apply p).2.1.Ascending := by
  have hcounted : ∀ readers writers,
      ({ p with readers := readers, writers := writers } : Pipe α).Ascending :=
    fun _ _ => ⟨h.order, h.issued⟩
  cases call with
  | openRead => exact ⟨h.order, h.issued⟩
  | openWrite => exact ⟨h.order, h.issued⟩
  | closeRead =>
    obtain ⟨-, hc⟩ | ⟨-, hc⟩ | ⟨n, -, hc⟩ := p.closeRead_cases <;> simp only [Call.apply, hc]
    · exact h
    · exact (hcounted 0 p.writers).queue (queue_finishRead _)
    · exact hcounted (n + 1) p.writers
  | closeWrite =>
    obtain ⟨-, hc⟩ | ⟨-, hc⟩ | ⟨n, -, hc⟩ := p.closeWrite_cases <;> simp only [Call.apply, hc]
    · exact h
    · exact (hcounted p.readers 0).queue (queue_finishWrite _)
    · exact hcounted p.readers (n + 1)
  | forceClose => exact ((hcounted 0 0).queue (queue_finishWrite _)).queue (queue_finishRead _)
  | onReadClose label =>
    simp only [Call.apply, addReadCallback]
    split
    · exact h
    · exact ⟨h.order, h.issued⟩
  | onWriteClose label =>
    simp only [Call.apply, addWriteCallback]
    split
    · exact h
    · exact ⟨h.order, h.issued⟩
  | pollRead waker state => exact h.queue (p.queue_pollRead waker state)
  | dropRead state => exact h.queue (p.queue_dropRead state)
  | tryWrite item =>
    simp only [Call.apply, tryWrite_eq]
    exact h.queue (p.queue_offer item none)
  | pollWrite waker item =>
    simp only [Call.apply, pollWrite_eq]
    exact h.queue (p.queue_offer item (some waker))

/-! ## Calls one after another -/

/-- The second pipe comes of the first by calls. -/
inductive Reaches (p : Pipe α) : Pipe α → Prop where
  | start : Reaches p p
  | call {q : Pipe α} (call : Call α) (reached : Reaches p q) : Reaches p (call.apply q).2.1

namespace Reaches

variable {p'' : Pipe α}

theorem one (call : Call α) : Reaches p (call.apply p).2.1 := .call call .start

theorem trans (h : Reaches p p') (h' : Reaches p' p'') : Reaches p p'' := by
  induction h' with
  | start => exact h
  | call c _ ih => exact .call c ih

theorem ascending (h : Reaches p p') (hp : p.Ascending) : p'.Ascending := by
  induction h with
  | start => exact hp
  | call c _ ih => exact ih.apply c

end Reaches

/-- The second pipe comes of the first by calls of a kind, which cause these events. -/
inductive Goes (kind : Call α → Prop) (p : Pipe α) : Pipe α → List Event → Prop where
  | start : Goes kind p p []
  | call {q : Pipe α} {events : List Event} (call : Call α) (kept : kind call)
      (gone : Goes kind p q events) :
      Goes kind p (call.apply q).2.1 (events ++ (call.apply q).2.2)

namespace Goes

variable {kind : Call α → Prop} {p'' : Pipe α} {events later : List Event}

theorem one (call : Call α) (kept : kind call) :
    Goes kind p (call.apply p).2.1 (call.apply p).2.2 := .call call kept .start

theorem trans (h : Goes kind p p' events) (h' : Goes kind p' p'' later) :
    Goes kind p p'' (events ++ later) := by
  induction h' with
  | start => simpa using h
  | call c kept _ ih =>
    rw [← List.append_assoc]
    exact .call c kept ih

theorem reaches (h : Goes kind p p' events) : Reaches p p' := by
  induction h with
  | start => exact .start
  | call c _ _ ih => exact .call c ih

end Goes

theorem ascending_create (name : String) (capacity : Nat) :
    (create name capacity : Pipe α × List Event).1.Ascending :=
  ⟨List.Pairwise.nil, fun _ ht => absurd ht List.not_mem_nil⟩

end Pipe

end Pipework
