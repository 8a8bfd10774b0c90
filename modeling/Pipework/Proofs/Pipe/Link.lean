import Pipework.Proofs.Pipe.Stock

/-!
# A pipe between one reader and one writer

`Pipe.Link` tells the handles of a pipe in a pipeline: its reader is open in some state or released,
its writer is open or released, and a side has closed exactly when its handle has been released. The
queue in between is the stock.

* A read takes the head of the stock; it meets the end of data only when nothing is left and the
  writer has gone, and it waits only when nothing is left.
* A write puts its item at the end of the stock; it fails only when the reader has gone, and it
  waits only while there is a reader.
-/

namespace Pipework

namespace Pipe

variable {α : Type}

/-- A pipe with a reader in a state, if it is open, and a writer, if it is open. -/
structure Link (p : Pipe α) (reader : Option ReadState) (writer : Bool) : Prop where
  single : p.Single
  readers : p.readers = reader.elim 0 fun _ => 1
  writers : p.writers = writer.toNat
  readClosed : p.readClosed = reader.isNone
  writeClosed : p.writeClosed = !writer
  /-- The ticket of the reader is the only one. -/
  tickets : ∀ state, reader = some state → state ≠ .finished ∧ p.tickets = state.ticket?.toList

/-- Handles and sides of a pipe stay as they are. -/
structure SameEnds (p p' : Pipe α) : Prop where
  readers : p'.readers = p.readers
  writers : p'.writers = p.writers
  readClosed : p'.readClosed = p.readClosed
  writeClosed : p'.writeClosed = p.writeClosed

theorem sameEnds_pollRead (p : Pipe α) (who : Waker) (state : ReadState) :
    SameEnds p (p.pollRead who state).2.2.1 := by
  obtain ⟨-, hp⟩ | ⟨ticket, -, ⟨_, -, hp⟩ | ⟨-, hp⟩⟩ |
    ⟨-, ⟨-, hp⟩ | ⟨-, ⟨_, _, -, hp⟩ | ⟨-, ⟨-, hp⟩ | ⟨-, hp⟩⟩⟩⟩ := p.pollRead_cases who state <;>
    rw [hp] <;> exact ⟨rfl, rfl, rfl, rfl⟩

theorem sameEnds_handOver (p : Pipe α) (item : α) : SameEnds p (p.handOver item) := by
  unfold handOver
  split <;> exact ⟨rfl, rfl, rfl, rfl⟩

theorem sameEnds_block (p : Pipe α) (waker : Option Waker) : SameEnds p (p.block waker) := by
  unfold block
  split
  · split <;> exact ⟨rfl, rfl, rfl, rfl⟩
  · exact ⟨rfl, rfl, rfl, rfl⟩

theorem sameEnds_offer (p : Pipe α) (item : α) (waker : Option Waker) :
    SameEnds p (p.offer item waker).2.1 := by
  obtain ⟨-, ho⟩ | ⟨-, -, ho⟩ | ⟨-, -, ⟨_, _, _, -, ho⟩ | ⟨-, -, ho⟩ | ⟨-, -, ho⟩⟩ :=
    p.offer_cases item waker <;> rw [ho]
  · exact ⟨rfl, rfl, rfl, rfl⟩
  · exact ⟨rfl, rfl, rfl, rfl⟩
  · exact p.sameEnds_handOver item
  · exact ⟨rfl, rfl, rfl, rfl⟩
  · exact p.sameEnds_block waker

theorem tickets_offer (p : Pipe α) (item : α) (waker : Option Waker) :
    (p.offer item waker).2.1.tickets.Perm p.tickets := by
  have hblock : (p.block waker).tickets = p.tickets := by
    unfold block
    split
    · split <;> rfl
    · rfl
  obtain ⟨-, ho⟩ | ⟨-, -, ho⟩ | ⟨-, -, ⟨_, _, _, -, ho⟩ | ⟨-, -, ho⟩ | ⟨-, -, ho⟩⟩ :=
    p.offer_cases item waker <;> rw [ho]
  · exact p.tickets_handOver item
  · exact .refl _
  · rw [hblock]

theorem tickets_of_perm {p p' : Pipe α} {state : ReadState} (hperm : p'.tickets.Perm p.tickets)
    (h : p.tickets = state.ticket?.toList) : p'.tickets = state.ticket?.toList := by
  rw [h] at hperm
  cases hticket : state.ticket? with
  | none =>
    rw [hticket] at hperm
    exact hperm.eq_nil
  | some ticket =>
    rw [hticket] at hperm
    exact List.perm_singleton.mp hperm

/-- What a poll of the only reader finds on a pipe that is open for reading: it waits, it takes the head
of the stock, or there is nothing left and nothing more will come. -/
theorem Single.poll {p : Pipe α} (h : p.Single) (who : Waker) {state : ReadState}
    (hheld : p.tickets = state.ticket?.toList) (hstate : state ≠ .finished)
    (hopen : p.readClosed = false) :
    (∃ ticket p', p.pollRead who state = (.pending, .parked ticket, p', []) ∧
      (ticket, who) ∈ p'.parked ∧ p'.tickets = [ticket] ∧ p.stock = [] ∧ p'.stock = []) ∨
    (∃ v p' events, p.pollRead who state = (.ready (some v), .finished, p', events) ∧
      p'.tickets = [] ∧ p.stock = v :: p'.stock) ∨
    ∃ p' events, p.pollRead who state = (.ready none, .finished, p', events) ∧
      p'.tickets = [] ∧ p.stock = [] ∧ p'.stock = [] ∧ p.writeClosed = true := by
  have htickets := h.tickets_pollRead who hheld
  have hstock := h.stock_pollRead who hheld hstate
  have hpending := p.pollRead_pending who state
  have hready := @pollRead_ready α p who state
  have hmem : ∀ ticket, state.ticket? = some ticket → ticket ∈ p.tickets := by
    intro ticket hticket
    rw [hheld, hticket]
    exact List.mem_singleton_self ticket
  rcases hpoll : p.pollRead who state with ⟨_ | _ | v, state', p', events⟩ <;>
    rw [hpoll] at htickets hstock hpending hready
  · obtain ⟨ticket, rfl, hparked, rfl⟩ := hpending rfl hmem
    exact .inl ⟨ticket, p', rfl, hparked, htickets, hstock⟩
  · obtain rfl : state' = .finished := hready rfl
    obtain ⟨hempty, hempty', hclosed⟩ := hstock
    refine .inr (.inr ⟨p', events, rfl, htickets, hempty, hempty', ?_⟩)
    simpa [hopen] using hclosed
  · obtain rfl : state' = .finished := hready rfl
    exact .inr (.inl ⟨v, p', events, rfl, htickets, hstock⟩)

namespace Link

variable {p : Pipe α} {reader : Option ReadState} {writer : Bool} {state : ReadState}

/-- A pipe whose ends stay as they are. -/
theorem of_sameEnds (h : p.Link reader writer) {p' : Pipe α} {reader' : Option ReadState}
    (hends : SameEnds p p') (hsingle : p'.Single) (hreader : reader'.isSome = reader.isSome)
    (htickets : ∀ state, reader' = some state → state ≠ .finished ∧ p'.tickets = state.ticket?.toList) :
    p'.Link reader' writer where
  single := hsingle
  readers := by
    rw [hends.readers, h.readers]
    cases reader <;> cases reader' <;> first | rfl | simp at hreader
  writers := hends.writers.trans h.writers
  readClosed := by
    rw [hends.readClosed, h.readClosed]
    cases reader <;> cases reader' <;> first | rfl | simp at hreader
  writeClosed := hends.writeClosed.trans h.writeClosed
  tickets := htickets

/-! ## Reading -/

/-- What a poll of the reader finds: it waits, it takes the head of the stock, or there is nothing
left and nothing more will come. -/
theorem pollRead (h : p.Link (some state) writer) (who : Waker) :
    (∃ ticket p', p.pollRead who state = (.pending, .parked ticket, p', []) ∧
      p'.Link (some (.parked ticket)) writer ∧ (ticket, who) ∈ p'.parked ∧
      p.stock = [] ∧ p'.stock = []) ∨
    (∃ v p' events, p.pollRead who state = (.ready (some v), .finished, p', events) ∧
      p'.Link (some .fresh) writer ∧ p.stock = v :: p'.stock) ∨
    ∃ p' events, p.pollRead who state = (.ready none, .finished, p', events) ∧
      p'.Link (some .fresh) writer ∧ p.stock = [] ∧ p'.stock = [] ∧ writer = false := by
  obtain ⟨hstate, hheld⟩ := h.tickets state rfl
  have hends := p.sameEnds_pollRead who state
  have hsingle := h.single.pollRead who hheld
  have hlink : ∀ {state' : ReadState}, state' ≠ .finished →
      (p.pollRead who state).2.2.1.tickets = state'.ticket?.toList →
      (p.pollRead who state).2.2.1.Link (some state') writer := by
    intro state' hstate' htickets
    refine h.of_sameEnds hends hsingle rfl fun other hother => ?_
    obtain rfl := Option.some.inj hother
    exact ⟨hstate', htickets⟩
  obtain ⟨ticket, p', hpoll, hparked, htickets, hstock, hstock'⟩ |
    ⟨v, p', events, hpoll, htickets, hstock⟩ | ⟨p', events, hpoll, htickets, hstock, hstock', hclosed⟩ :=
      h.single.poll who hheld hstate h.readClosed <;> rw [hpoll] at hlink
  · exact .inl ⟨ticket, p', hpoll, hlink (by simp) htickets, hparked, hstock, hstock'⟩
  · exact .inr (.inl ⟨v, p', events, hpoll, hlink (by simp) htickets, hstock⟩)
  · refine .inr (.inr ⟨p', events, hpoll, hlink (by simp) htickets, hstock, hstock', ?_⟩)
    simpa [h.writeClosed] using hclosed

/-! ## Writing -/

/-- What a poll of the writer finds: it waits, its item goes to the end of the stock, or the reader
has gone. -/
theorem pollWrite (h : p.Link reader true) (who : Waker) (v : α) :
    (∃ p', p.pollWrite who v = (.pending, p', []) ∧ p'.Link reader true ∧ p'.stock = p.stock) ∨
    (∃ p' events, p.pollWrite who v = (.ready (.ok ()), p', events) ∧ p'.Link reader true ∧
      p'.stock = p.stock ++ [v]) ∨
    ∃ e events, p.pollWrite who v = (.ready (.error e), p, events) ∧ reader = none := by
  have hlink : (p.offer v (some who)).2.1.Link reader true :=
    h.of_sameEnds (p.sameEnds_offer v _) (h.single.offer v _) rfl fun state hstate =>
      ⟨(h.tickets state hstate).1,
        tickets_of_perm (p.tickets_offer v _) (h.tickets state hstate).2⟩
  have hstock := h.single.stock_offer v (some who)
  obtain ⟨hclosed, ho⟩ | ⟨-, hclosed, -⟩ | ⟨-, -, ho⟩ := p.offer_cases v (some who)
  · refine .inr (.inr ⟨_, _, by rw [Pipe.pollWrite, ho], ?_⟩)
    simpa [h.readClosed] using hclosed
  · simp [h.writeClosed] at hclosed
  · obtain ⟨_, _, _, -, ho⟩ | ⟨-, -, ho⟩ | ⟨-, -, ho⟩ := ho <;> rw [ho] at hlink hstock
    · exact .inr (.inl ⟨_, _, by rw [Pipe.pollWrite, ho], hlink, hstock⟩)
    · exact .inr (.inl ⟨_, _, by rw [Pipe.pollWrite, ho], hlink, hstock⟩)
    · exact .inl ⟨_, by rw [Pipe.pollWrite, ho], hlink, by simpa using hstock⟩

/-! ## Closing -/

theorem closeRead (h : p.Link (some .fresh) writer) : p.closeRead.2.1.Link none writer := by
  have hsingle := h.single.closeRead
  have hopen := h.readClosed
  unfold Pipe.closeRead at hsingle ⊢
  rw [h.readers] at hsingle ⊢
  dsimp only [Option.elim] at hsingle ⊢
  unfold Pipe.finishRead at hsingle ⊢
  rw [if_neg (by simp [hopen])] at hsingle ⊢
  exact ⟨hsingle, rfl, h.writers, rfl, h.writeClosed, by simp⟩

theorem closeWrite (h : p.Link reader true) :
    p.closeWrite.2.1.Link reader false ∧ p.closeWrite.2.1.stock = p.stock := by
  have hsingle := h.single.closeWrite
  have hopen := h.writeClosed
  refine ⟨?_, p.stock_closeWrite⟩
  unfold Pipe.closeWrite at hsingle ⊢
  rw [h.writers] at hsingle ⊢
  dsimp only [Bool.toNat] at hsingle ⊢
  unfold Pipe.finishWrite at hsingle ⊢
  rw [if_neg (by simp [hopen])] at hsingle ⊢
  refine ⟨hsingle, h.readers, rfl, h.readClosed, rfl, fun state hstate => ?_⟩
  refine ⟨(h.tickets state hstate).1, tickets_of_perm ?_ (h.tickets state hstate).2⟩
  exact p.tickets_endParked

end Link

end Pipe

end Pipework
