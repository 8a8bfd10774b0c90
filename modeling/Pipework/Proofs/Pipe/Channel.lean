import Pipework.Proofs.Pipe.Calls
import Pipework.Proofs.Pipe.Pressure

/-!
# The pipe between two stages

A `Pipe.Channel` is a linked pipe of a known name and capacity. There is no more in its buffer than
it has room for, since its one reader never leaves with an item in hand; so its stock is bounded
(`Channel.length_stock`).

The polls of its two ends are those of a link, told with the signals they cause: only a write to a
channel without a reader causes one, and nothing else keeps such a write from being accepted.
-/

namespace Pipework

namespace Pipe

variable {α : Type}

/-- A pipe between one reader and one writer, of a name and a capacity. -/
structure Channel (p : Pipe α) (name : String) (room : Nat) (reader : Option ReadState)
    (writer : Bool) : Prop where
  link : p.Link reader writer
  name_eq : p.name = name
  capacity : p.capacity = room
  buffered : p.buffer.length ≤ room

/-! ## Names -/

theorem name_handOver (p : Pipe α) (item : α) : (p.handOver item).name = p.name := by
  unfold handOver
  split <;> rfl

theorem name_offer (p : Pipe α) (item : α) (waker : Option Waker) :
    (p.offer item waker).2.1.name = p.name := by
  obtain ⟨-, ho⟩ | ⟨-, -, ho⟩ | ⟨-, -, ⟨_, _, _, -, ho⟩ | ⟨-, -, ho⟩ | ⟨-, -, ho⟩⟩ :=
    p.offer_cases item waker <;> rw [ho]
  · exact p.name_handOver item
  · rw [(p.block_spec waker).1]

theorem name_pollRead (p : Pipe α) (who : Waker) (state : ReadState) :
    (p.pollRead who state).2.2.1.name = p.name := by
  obtain ⟨-, hp⟩ | ⟨_, -, ⟨_, -, hp⟩ | ⟨-, hp⟩⟩ |
    ⟨-, ⟨-, hp⟩ | ⟨-, ⟨_, _, -, hp⟩ | ⟨-, ⟨-, hp⟩ | ⟨-, hp⟩⟩⟩⟩ :=
    p.pollRead_cases who state <;> rw [hp] <;> rfl

theorem name_finishRead (p : Pipe α) : p.finishRead.2.1.name = p.name := by
  unfold finishRead
  split <;> rfl

theorem name_finishWrite (p : Pipe α) : p.finishWrite.2.1.name = p.name := by
  unfold finishWrite
  split <;> rfl

theorem name_closeRead (p : Pipe α) : p.closeRead.2.1.name = p.name := by
  obtain ⟨-, hc⟩ | ⟨-, hc⟩ | ⟨_, -, hc⟩ := p.closeRead_cases <;> rw [hc]
  exact name_finishRead _

theorem name_closeWrite (p : Pipe α) : p.closeWrite.2.1.name = p.name := by
  obtain ⟨-, hc⟩ | ⟨-, hc⟩ | ⟨_, -, hc⟩ := p.closeWrite_cases <;> rw [hc]
  exact name_finishWrite _

theorem name_restore (p : Pipe α) (item : α) : (p.restore item).1.name = p.name := by
  unfold restore
  split
  · rfl
  · split <;> rfl

/-- No call changes the name of a pipe. -/
theorem name_apply (call : Call α) (p : Pipe α) : (call.apply p).2.1.name = p.name := by
  cases call with
  | openRead | openWrite => rfl
  | closeRead => exact p.name_closeRead
  | closeWrite => exact p.name_closeWrite
  | forceClose => exact (name_finishRead _).trans (name_finishWrite _)
  | onReadClose label =>
    simp only [Call.apply, addReadCallback]
    split <;> rfl
  | onWriteClose label =>
    simp only [Call.apply, addWriteCallback]
    split <;> rfl
  | pollRead waker state => exact p.name_pollRead waker state
  | dropRead state =>
    simp only [Call.apply, dropRead]
    split
    · split
      · exact name_restore _ _
      · rfl
      · rfl
    · rfl
  | tryWrite item =>
    simp only [Call.apply, tryWrite_snd]
    exact p.name_offer item none
  | pollWrite waker item =>
    simp only [Call.apply, pollWrite_snd]
    exact p.name_offer item (some waker)

namespace Channel

variable {p p' : Pipe α} {name : String} {room : Nat} {reader reader' : Option ReadState}
  {writer writer' : Bool} {state : ReadState}

/-- A pipe that has been changed, but not beyond its capacity. -/
theorem of_link (h : p.Channel name room reader writer) (hlink : p'.Link reader' writer')
    (hname : p'.name = p.name) (hwithin : Within p p') :
    p'.Channel name room reader' writer' where
  link := hlink
  name_eq := hname.trans h.name_eq
  capacity := hwithin.capacity.trans h.capacity
  buffered := hwithin.length.trans (max_le h.capacity.le h.buffered)

/-- A reader has at most one item in hand, and the buffer is not overfull. -/
theorem length_stock (h : p.Channel name room reader writer) : p.stock.length ≤ room + 1 := by
  have hanswered : (p.answered.filterMap (·.2)).length ≤ 1 := by
    have hone := h.link.single.one
    rw [tickets, List.length_append, List.length_map, List.length_map] at hone
    exact (List.length_filterMap_le _ _).trans (by omega)
  have hbuffer := h.buffered
  rw [stock, List.length_append]
  omega

/-! ## Polls -/

/-- What a poll of the reader finds: it waits, it takes the head of the stock, or there is nothing
left and nothing more will come. -/
theorem pollRead (h : p.Channel name room (some state) writer) (who : Waker) :
    (∃ ticket p', p.pollRead who state = (.pending, .parked ticket, p', []) ∧
      p'.Channel name room (some (.parked ticket)) writer ∧ (ticket, who) ∈ p'.parked ∧
      p.stock = [] ∧ p'.stock = []) ∨
    (∃ v p' events, p.pollRead who state = (.ready (some v), .finished, p', events) ∧
      p'.Channel name room (some .fresh) writer ∧ p.stock = v :: p'.stock ∧ signals events = []) ∨
    ∃ p' events, p.pollRead who state = (.ready none, .finished, p', events) ∧
      p'.Channel name room (some .fresh) writer ∧ p.stock = [] ∧ p'.stock = [] ∧ writer = false ∧
      signals events = [] := by
  have hname := p.name_pollRead who state
  have hwithin := p.within_pollRead who state
  have hsignals := p.signals_pollRead who state
  obtain ⟨ticket, p', hpoll, hlink, hparked⟩ | ⟨v, p', events, hpoll, hlink, hstock⟩ |
    ⟨p', events, hpoll, hlink, hempty, hempty', hclosed⟩ := h.link.pollRead who <;>
    rw [hpoll] at hname hwithin hsignals
  · exact .inl ⟨ticket, p', hpoll, h.of_link hlink hname hwithin, hparked⟩
  · exact .inr (.inl ⟨v, p', events, hpoll, h.of_link hlink hname hwithin, hstock, hsignals⟩)
  · exact .inr (.inr ⟨p', events, hpoll, h.of_link hlink hname hwithin, hempty, hempty', hclosed,
      hsignals⟩)

/-- What a poll of the writer finds: it waits, its item goes to the end of the stock, or the reader
has gone and the pipe is broken. -/
theorem pollWrite (h : p.Channel name room reader true) (who : Waker) (v : α) :
    (∃ p', p.pollWrite who v = (.pending, p', []) ∧ p'.Channel name room reader true ∧
      p'.stock = p.stock) ∨
    (∃ p' events, p.pollWrite who v = (.ready (.ok ()), p', events) ∧
      p'.Channel name room reader true ∧ p'.stock = p.stock ++ [v] ∧ reader ≠ none ∧
      signals events = []) ∨
    ∃ events, p.pollWrite who v = (.ready (.error (.brokenPipe name)), p, events) ∧ reader = none ∧
      signals events = [brokenSignal name] := by
  have hpoll := p.pollWrite_eq who v
  have hjudged := p.judged_offer v (some who)
  have hlink := h.link.pollWrite who v
  have hname := p.name_offer v (some who)
  have hwithin := p.within_offer v (some who)
  obtain ⟨hclosed, ho⟩ | ⟨-, hclosed, -⟩ | ⟨hopen, -, -⟩ := p.offer_cases v (some who)
  · have hgone : reader = none := by simpa [h.link.readClosed] using hclosed
    rw [ho, h.name_eq] at hpoll
    have hsignals := hjudged.signals
    rw [hclosed, if_pos rfl, ho, h.name_eq] at hsignals
    exact .inr (.inr ⟨_, hpoll, hgone, hsignals⟩)
  · simp [h.link.writeClosed] at hclosed
  · have hreader : reader ≠ none := by
      rintro rfl
      simp [h.link.readClosed] at hopen
    have hsignals := hjudged.signals
    rw [hopen, if_neg Bool.false_ne_true] at hsignals
    rw [hpoll] at hlink ⊢
    rcases hlink with
      ⟨p', heq, hlink', hstock⟩ | ⟨p', events, heq, hlink', hstock⟩ | ⟨e, events, heq, hnone⟩
    · obtain ⟨-, hpipe⟩ := Prod.ext_iff.mp heq
      have hp' : (p.offer v (some who)).2.1 = p' := congrArg Prod.fst hpipe
      exact .inl ⟨p', heq, h.of_link hlink' (hp' ▸ hname) (hp' ▸ hwithin), hstock⟩
    · obtain ⟨-, hpipe⟩ := Prod.ext_iff.mp heq
      have hp' : (p.offer v (some who)).2.1 = p' := congrArg Prod.fst hpipe
      have hevents : (p.offer v (some who)).2.2 = events := congrArg Prod.snd hpipe
      exact .inr (.inl ⟨p', events, heq, h.of_link hlink' (hp' ▸ hname) (hp' ▸ hwithin), hstock, hreader,
        hevents ▸ hsignals⟩)
    · exact absurd hnone hreader

/-! ## Closing -/

theorem closeRead (h : p.Channel name room (some .fresh) writer) :
    p.closeRead.2.1.Channel name room none writer :=
  h.of_link h.link.closeRead p.name_closeRead p.within_closeRead

theorem closeWrite (h : p.Channel name room reader true) :
    p.closeWrite.2.1.Channel name room reader false ∧ p.closeWrite.2.1.stock = p.stock :=
  ⟨h.of_link h.link.closeWrite.1 p.name_closeWrite p.within_closeWrite, h.link.closeWrite.2⟩

end Channel

end Pipe

end Pipework
