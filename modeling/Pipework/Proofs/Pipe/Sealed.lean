import Pipework.Proofs.Pipe.Ended
import Pipework.Proofs.Pipe.Handles

/-!
# Pipes closed for writing

A pipe that has closed for writing has nobody in its queue (`Pipe.Sealed`), and stays so whatever
its users do: what is given back goes to the buffer, and no read is handed anything any more
(`Pipe.Sealed.apply`). So no operation on it has to wait:

* **a read that waited** when the pipe closed meets the end of data, whenever it is polled;
* **a read that begins later** takes the oldest item in the buffer, or meets the end of data if there
  is none;
* **a write** is refused.

These are the facts of `Traffic.Spent`. A pipe that has once had a writer is closed for writing when
it has none any more (`Pipe.Attended`).
-/

namespace Pipework

namespace Pipe

variable {α : Type} {p p' : Pipe α}

/-! ## Writers -/

/-- Somebody can write still, or nobody ever will again. -/
def Attended (p : Pipe α) : Prop := 0 < p.writers ∨ p.writeClosed = true

theorem Attended.sameEnds (h : p.Attended) (hsame : SameEnds p p') : p'.Attended := by
  rw [Attended, hsame.writers, hsame.writeClosed]
  exact h

theorem Attended.apply (h : p.Attended) (call : Call α) : (call.apply p).2.1.Attended := by
  cases call with
  | openRead => exact h
  | openWrite => exact .inl (Nat.succ_pos _)
  | closeRead =>
    have hfinish : ∀ q : Pipe α, q.Attended → q.finishRead.2.1.Attended := by
      intro q hq
      unfold finishRead
      split <;> exact hq
    obtain ⟨-, hc⟩ | ⟨-, hc⟩ | ⟨n, -, hc⟩ := p.closeRead_cases <;> simp only [Call.apply, hc]
    · exact h
    · exact hfinish _ h
    · exact h
  | closeWrite =>
    obtain ⟨-, hc⟩ | ⟨-, hc⟩ | ⟨n, -, hc⟩ := p.closeWrite_cases <;> simp only [Call.apply, hc]
    · exact h
    · exact .inr (writeClosed_finishWrite _)
    · exact .inl (Nat.succ_pos n)
  | forceClose => exact .inr p.writeClosed_forceClose
  | onReadClose label => exact h.sameEnds (p.sameEnds_addReadCallback label)
  | onWriteClose label => exact h.sameEnds (p.sameEnds_addWriteCallback label)
  | pollRead waker state => exact h.sameEnds (p.sameEnds_pollRead waker state)
  | dropRead state => exact h.sameEnds (p.sameEnds_dropRead state)
  | tryWrite item => exact h.sameEnds (p.sameEnds_tryWrite item)
  | pollWrite waker item => exact h.sameEnds (p.sameEnds_pollWrite waker item)

theorem Attended.reaches (h : p.Attended) (hreaches : Reaches p p') : p'.Attended := by
  induction hreaches with
  | start => exact h
  | call c _ ih => exact ih.apply c

/-- A pipe that has once had a writer closes for writing when it loses its last one, and then only. -/
theorem writeClosed_closeWrite (h : p.Attended) :
    p.closeWrite.2.1.writers = p.writers - 1 ∧
      (p.closeWrite.2.1.writeClosed = true ↔ p.writeClosed = true ∨ p.writers ≤ 1) := by
  obtain ⟨hn, hc⟩ | ⟨hn, hc⟩ | ⟨n, hn, hc⟩ := p.closeWrite_cases <;> rw [hc]
  · have hclosed : p.writeClosed = true := h.resolve_left (by omega)
    exact ⟨by simp [hn], by simp [hclosed]⟩
  · have hwriters : ({ p with writers := 0 } : Pipe α).finishWrite.2.1.writers = 0 := by
      unfold finishWrite
      split <;> rfl
    exact ⟨hwriters.trans (by omega), iff_of_true (writeClosed_finishWrite _) (.inr hn.le)⟩
  · exact ⟨by simp [hn], by simp [hn]⟩

/-! ## Calls on a pipe that is closed for writing -/

/-- The pipe has closed for writing, and nobody waits for an item. -/
structure Sealed (p : Pipe α) : Prop where
  writeClosed : p.writeClosed = true
  parked : p.parked = []

theorem Sound.sealed (h : p.Sound) (hclosed : p.writeClosed = true) : p.Sealed where
  writeClosed := hclosed
  parked := by
    by_contra hne
    exact absurd ((h.parked hne).2.2.symm.trans hclosed) Bool.false_ne_true

/-- What comes of a sealed pipe: it is sealed still, and nobody has been given an answer. -/
structure Wanes (p p' : Pipe α) : Prop where
  isSealed : p'.Sealed
  answered : p'.answered.Sublist p.answered

namespace Sealed

theorem of_eq (h : p.Sealed) (writeClosed : p'.writeClosed = p.writeClosed)
    (parked : p'.parked = p.parked) (answered : p'.answered.Sublist p.answered) : Wanes p p' :=
  ⟨⟨writeClosed.trans h.writeClosed, parked.trans h.parked⟩, answered⟩

theorem wanes (h : p.Sealed) : Wanes p p := h.of_eq rfl rfl (.refl _)

theorem finishRead (h : p.Sealed) : Wanes p p.finishRead.2.1 := by
  unfold Pipe.finishRead
  split
  · exact h.wanes
  · exact ⟨⟨h.writeClosed, rfl⟩, by simp [endParked, h.parked]⟩

theorem finishWrite_eq (h : p.Sealed) : p.finishWrite = (false, p, []) := by
  simp [finishWrite, h.writeClosed]

/-- A sealed pipe takes no item. -/
theorem offer_eq (h : p.Sealed) (item : α) (waker : Option Waker) :
    ∃ e events, p.offer item waker = (.failed e, p, events) := by
  obtain ⟨-, ho⟩ | ⟨-, -, ho⟩ | ⟨-, hopen, -⟩ := p.offer_cases item waker
  · exact ⟨_, _, ho⟩
  · exact ⟨_, _, ho⟩
  · exact absurd (hopen.symm.trans h.writeClosed) Bool.false_ne_true

theorem pollRead (h : p.Sealed) (waker : Waker) (state : ReadState) :
    Wanes p (p.pollRead waker state).2.2.1 := by
  obtain ⟨-, hp⟩ | ⟨ticket, -, ⟨_, -, hp⟩ | ⟨-, hp⟩⟩ |
    ⟨-, ⟨-, hp⟩ | ⟨-, ⟨_, _, -, hp⟩ | ⟨-, ⟨-, hp⟩ | ⟨hopen, -⟩⟩⟩⟩ := p.pollRead_cases waker state
  · rw [hp]
    exact h.wanes
  · rw [hp]
    exact h.of_eq rfl rfl List.filter_sublist
  · rw [hp]
    exact ⟨⟨h.writeClosed, by simp [rewake, h.parked]⟩, .refl _⟩
  · rw [hp]
    exact h.wanes
  · rw [hp]
    exact h.of_eq rfl rfl (.refl _)
  · rw [hp]
    exact h.wanes
  · exact absurd (hopen.symm.trans h.writeClosed) Bool.false_ne_true

/-- What is given back to a sealed pipe goes to the buffer. -/
theorem restore (h : p.Sealed) (item : α) : Wanes p (p.restore item).1 := by
  obtain ⟨-, hp⟩ | ⟨-, ⟨_, _, _, hq, -⟩ | ⟨-, hp⟩⟩ := p.restore_cases item
  · rw [hp]
    exact h.wanes
  · exact absurd (hq.symm.trans h.parked) (by simp)
  · rw [hp]
    exact h.of_eq rfl rfl (.refl _)

theorem dropRead (h : p.Sealed) (state : ReadState) : Wanes p (p.dropRead state).1 := by
  have hcollect : ∀ ticket, Wanes p (p.collect ticket) := fun ticket =>
    h.of_eq rfl rfl List.filter_sublist
  obtain ⟨-, hd⟩ | ⟨ticket, -, ⟨item, -, hd⟩ | ⟨-, hd⟩ | ⟨-, hd⟩⟩ := p.dropRead_cases state <;>
    rw [hd]
  · exact h.wanes
  · have hrestore := (hcollect ticket).isSealed.restore item
    exact ⟨hrestore.isSealed, hrestore.answered.trans (hcollect ticket).answered⟩
  · exact hcollect ticket
  · exact ⟨⟨h.writeClosed, by simp [h.parked]⟩, .refl _⟩

/-- Whatever is done to a sealed pipe, it is sealed still. -/
theorem apply (h : p.Sealed) (call : Call α) : Wanes p (call.apply p).2.1 := by
  have hcounted : ∀ readers writers, Wanes p { p with readers := readers, writers := writers } :=
    fun _ _ => h.of_eq rfl rfl (.refl _)
  cases call with
  | openRead => exact hcounted _ _
  | openWrite => exact hcounted _ _
  | closeRead =>
    obtain ⟨-, hc⟩ | ⟨-, hc⟩ | ⟨n, -, hc⟩ := p.closeRead_cases <;> simp only [Call.apply, hc]
    · exact h.wanes
    · have hfinish := (hcounted 0 p.writers).isSealed.finishRead
      exact ⟨hfinish.isSealed, hfinish.answered⟩
    · exact hcounted (n + 1) p.writers
  | closeWrite =>
    obtain ⟨-, hc⟩ | ⟨-, hc⟩ | ⟨n, -, hc⟩ := p.closeWrite_cases <;> simp only [Call.apply, hc]
    · exact h.wanes
    · rw [(hcounted p.readers 0).isSealed.finishWrite_eq]
      exact hcounted p.readers 0
    · exact hcounted p.readers (n + 1)
  | forceClose =>
    have hzero := hcounted 0 0
    simp only [Call.apply, forceClose]
    rw [hzero.isSealed.finishWrite_eq]
    have hfinish := hzero.isSealed.finishRead
    exact ⟨hfinish.isSealed, hfinish.answered⟩
  | onReadClose label =>
    simp only [Call.apply, addReadCallback]
    split <;> exact h.of_eq rfl rfl (.refl _)
  | onWriteClose label =>
    simp only [Call.apply, addWriteCallback]
    split <;> exact h.of_eq rfl rfl (.refl _)
  | pollRead waker state => exact h.pollRead waker state
  | dropRead state => exact h.dropRead state
  | tryWrite item =>
    obtain ⟨_, _, ho⟩ := h.offer_eq item none
    simp only [Call.apply, tryWrite_eq, ho]
    exact h.wanes
  | pollWrite waker item =>
    obtain ⟨_, _, ho⟩ := h.offer_eq item (some waker)
    simp only [Call.apply, pollWrite_eq, ho]
    exact h.wanes

theorem reaches (h : p.Sealed) (hreaches : Reaches p p') : Wanes p p' := by
  induction hreaches with
  | start => exact h.wanes
  | call c _ ih =>
    have hnext := ih.isSealed.apply c
    exact ⟨hnext.isSealed, hnext.answered.trans ih.answered⟩

end Sealed

end Pipe

namespace Traffic

variable {α : Type} {t t' u : Traffic α} {id : String} {f : Future α}

open Pipe (Reaches Sealed)

/-! ## Answers -/

/-- What a pipe that is closed for writing has for a read: the oldest item in the buffer if the read
begins now, else an item that it has been handed. -/
def found (p : Pipe α) : ReadState → Option α
  | .fresh => p.buffer.head?
  | state => due p state

theorem pollRead_sealed {p : Pipe α} (h : p.Sealed) (hs : p.Sound) (waker : Waker)
    {state : ReadState} (hold : ∀ ticket, state.ticket? = some ticket → ticket ∈ p.tickets) :
    (p.pollRead waker state).1 = .ready (found p state) := by
  obtain ⟨rfl, hp⟩ | ⟨ticket, rfl, ⟨_, ha, hp⟩ | ⟨hnone, -⟩⟩ |
    ⟨rfl, ⟨hr, hp⟩ | ⟨-, ⟨_, _, hb, hp⟩ | ⟨hb, ⟨-, hp⟩ | ⟨hopen, -⟩⟩⟩⟩ := p.pollRead_cases waker state
  · rw [hp]
    rfl
  · rw [hp]
    simp [found, due, ReadState.ticket?, ha]
  · -- nobody is in the queue, so the ticket has an answer
    have hmem := hold ticket rfl
    simp only [Pipe.tickets, h.parked, List.map_nil, List.nil_append, List.mem_map] at hmem
    obtain ⟨e, he, rfl⟩ := hmem
    simp only [Pipe.answer?, Option.map_eq_none_iff, List.find?_eq_none] at hnone
    exact absurd (beq_self_eq_true e.1) (hnone e he)
  · rw [hp]
    simp [found, hs.dropped hr]
  · rw [hp]
    simp [found, hb]
  · rw [hp]
    simp [found, hb]
  · exact absurd (hopen.symm.trans h.writeClosed) Bool.false_ne_true

/-- A read of everything takes what is buffered. -/
theorem pollReadAll_sealed (waker : Waker) (fuel : Nat) {p : Pipe α} (h : p.Sealed) (hs : p.Sound)
    (got : List α) (hfuel : p.buffer.length < fuel) :
    (pollReadAll waker fuel p got .fresh).1 = .ready (got ++ p.buffer) := by
  induction fuel generalizing p got with
  | zero => exact absurd hfuel (Nat.not_lt_zero _)
  | succ fuel ih =>
    obtain ⟨hstate, -⟩ | ⟨_, hstate, -⟩ | ⟨-, ⟨hr, hp⟩ | ⟨hr, ⟨item, rest, hb, hp⟩ |
      ⟨hb, ⟨-, hp⟩ | ⟨hopen, -⟩⟩⟩⟩ := p.pollRead_cases waker .fresh
    · exact absurd hstate (by simp)
    · exact absurd hstate (by simp)
    · -- closed for reading: the buffer has been dropped, and nothing is read
      simp [pollReadAll, hp, hs.dropped hr]
    · have hnext : ({ p with buffer := rest, blocked := [] } : Pipe α).Sound := by
        have hkept := hs.pollRead waker .fresh
        rwa [hp] at hkept
      have hrest := ih (p := { p with buffer := rest, blocked := [] }) ⟨h.writeClosed, h.parked⟩
        hnext (got ++ [item]) (by simp only [hb, List.length_cons] at hfuel; exact Nat.lt_of_succ_lt_succ hfuel)
      simp only [pollReadAll, hp]
      rw [hrest, hb]
      simp
    · simp [pollReadAll, hp, hb]
    · exact absurd (hopen.symm.trans h.writeClosed) Bool.false_ne_true

theorem pollReadAll_ready {p : Pipe α} (h : p.Sealed) (hs : p.Sound) (waker : Waker)
    (got : List α) {state : ReadState}
    (hold : ∀ ticket, state.ticket? = some ticket → ticket ∈ p.tickets) :
    ∃ items, (pollReadAll waker (p.buffer.length + 2) p got state).1 = .ready items := by
  obtain ⟨rfl, hp⟩ | ⟨ticket, rfl, ⟨answer, ha, hp⟩ | ⟨-, hp⟩⟩ | ⟨rfl, -⟩ :=
    p.pollRead_cases waker state
  · exact ⟨got, by simp [pollReadAll, hp]⟩
  · cases answer with
    | none => exact ⟨got, by simp [pollReadAll, hp]⟩
    | some item =>
      refine ⟨got ++ [item] ++ p.buffer, ?_⟩
      simp only [pollReadAll, hp]
      exact pollReadAll_sealed waker (p.buffer.length + 1) (p := p.collect ticket)
        ⟨h.writeClosed, h.parked⟩ (hs.collect ticket) (got ++ [item]) (Nat.lt_succ_self _)
  · have hready := pollRead_sealed h hs waker hold
    rw [hp] at hready
    exact absurd hready (by simp)
  · exact ⟨_, pollReadAll_sealed waker _ h hs got (by omega)⟩

theorem pollWriteAll_sealed {p : Pipe α} (h : p.Sealed) (waker : Waker) (closed started : Bool)
    (items : List α) : ∃ outcome, (pollWriteAll p waker closed started items).1 = .ready outcome := by
  cases items with
  | nil => exact ⟨_, rfl⟩
  | cons item rest =>
    obtain ⟨e, _, ho⟩ := h.offer_eq item (some waker)
    rw [pollWriteAll]
    split
    · exact ⟨_, rfl⟩
    · exact ⟨.error e, by simp [Pipe.pollWrite, ho]⟩

/-- The answer to a read under way when its pipe has closed for writing. -/
theorem answer_read_sealed (h : t.Held) (hsealed : t.pipe.Sealed) (hf : t.future? id = some f)
    {state : ReadState} (htransfer : f.transfer = .read state) :
    t.answer id = .item (found t.pipe state) := by
  have hold := h.held _ (mem_of_future? hf)
  rw [htransfer] at hold
  have hfound := pollRead_sealed hsealed h.sound (.task f.waker) hold
  refine answer_of_pollFuture hf ?_
  simp only [pollFuture, htransfer]
  rcases hp : t.pipe.pollRead (.task f.waker) state with ⟨_ | item, state', p, events⟩ <;>
    rw [hp] at hfound
  · exact absurd hfound (by simp)
  · simp [← Poll.ready.inj hfound]

/-- When the pipe has closed for writing no operation under way has to wait. -/
theorem isSome_pollFuture_sealed (h : t.Held) (hsealed : t.pipe.Sealed)
    (hf : t.future? id = some f) : (t.pollFuture f).1.isSome := by
  have hold := h.held _ (mem_of_future? hf)
  simp only [pollFuture]
  cases htransfer : f.transfer with
  | read state =>
    rw [htransfer] at hold
    have hfound := pollRead_sealed hsealed h.sound (.task f.waker) hold
    dsimp only
    rcases hp : t.pipe.pollRead (.task f.waker) state with ⟨_ | item, state', p, events⟩ <;>
      rw [hp] at hfound
    · exact absurd hfound (by simp)
    · rfl
  | write item =>
    obtain ⟨e, _, ho⟩ := hsealed.offer_eq item (some (.task f.waker))
    simp [Pipe.pollWrite, ho]
  | refused => rfl
  | readAll started got state =>
    rw [htransfer] at hold
    obtain ⟨items, hready⟩ := pollReadAll_ready hsealed h.sound (.task f.waker) got hold
    dsimp only
    split
    · rfl
    · generalize pollReadAll (.task f.waker) (t.pipe.buffer.length + 2) t.pipe got state = r
        at hready ⊢
      obtain ⟨_ | items', transfer, p, events⟩ := r
      · exact absurd hready (by simp)
      · rfl
  | writeAll started items =>
    obtain ⟨outcome, hready⟩ :=
      pollWriteAll_sealed hsealed (.task f.waker) (t.ownerClosed f) started items
    dsimp only
    generalize pollWriteAll t.pipe (.task f.waker) (t.ownerClosed f) started items = r at hready ⊢
    obtain ⟨_ | outcome', transfer, p, events⟩ := r
    · exact absurd hready (by simp)
    · rfl

/-! ## From the closing on -/

/-- Users of a pipe that has closed for writing, and what they have come to. -/
structure Outlives (t t' : Traffic α) : Prop where
  held : t'.Held
  wanes : Pipe.Wanes t.pipe t'.pipe
  newer : Newer t t'

theorem Proceeds.reaches (h : t.Proceeds t') : Reaches t.pipe t'.pipe := by
  cases h with
  | step op => exact t.reaches_step op
  | lose hlost _ => exact hlost.reaches

theorem Outlives.advance {u' : Traffic α} (h : Outlives t u) (hproceeds : u.Proceeds u') :
    Outlives t u' where
  held := h.held.advance hproceeds
  wanes := by
    have hnext := h.wanes.isSealed.reaches hproceeds.reaches
    exact ⟨hnext.isSealed, hnext.answered.trans h.wanes.answered⟩
  newer := by
    cases hproceeds with
    | step op =>
      exact h.newer.trans
        (newer_step fun _ _ _ hf => isSome_pollFuture_sealed h.held h.wanes.isSealed hf)
    | lose _ hnext => exact h.newer.trans ⟨fun _ he => .inl he, hnext⟩

/-- What is left of a pipe, used as in `before` when it closed for writing, and what its readers find
there. -/
structure Spent (before t : Traffic α) : Prop where
  closed : t.pipe.writeClosed = true
  /-- A read that waited in the queue meets the end of data, whenever it is polled. -/
  parked : ∀ id f ticket, before.future? id = some f → f.transfer = .read (.parked ticket) →
    ticket ∈ before.pipe.parked.map (·.1) → ∀ f', t.future? id = some f' → f'.waker = f.waker →
      t.answer id = .item none
  /-- A read that has not begun takes the oldest item in the buffer, or meets the end of data. -/
  fresh : ∀ id f, t.future? id = some f → f.transfer = .read .fresh →
    t.answer id = .item t.pipe.buffer.head?
  /-- Any other read meets the end of data, but for an item that it had been handed before. -/
  read : ∀ id f state, t.future? id = some f → f.transfer = .read state → state ≠ .fresh →
    t.answer id = .item none ∨ ∃ item, Handed before state item ∧ t.answer id = .item (some item)
  /-- A read of everything ends. -/
  readAll : ∀ id f started got state, t.future? id = some f →
    f.transfer = .readAll started got state → ∃ items, t.answer id = .items items

/-- The writers of a pipe have been taken away, and the last one has closed it. -/
theorem Held.spent (h : t.Held) {p : Pipe α} (hlost : t.pipe.Loses p)
    (hu : Outlives { t with pipe := p } u) : Spent t u := by
  have hanswer : ∀ id f state, u.future? id = some f → f.transfer = .read state →
      u.answer id = .item (found u.pipe state) :=
    fun _ _ _ hf htransfer => answer_read_sealed hu.held hu.wanes.isSealed hf htransfer
  refine ⟨hu.wanes.isSealed.writeClosed, fun id f ticket hf htransfer hparked f' hf' hwaker => ?_,
    fun id f hf htransfer => hanswer id f .fresh hf htransfer,
    fun id f state hf htransfer hstate => ?_, fun id f started got state hf htransfer => ?_⟩
  · -- the read is still the one that was parked, and its ticket was dismissed with the queue
    have hsame : Newer t { t with pipe := p } := .of_eq rfl rfl
    obtain rfl := (hsame.trans hu.newer).future_eq h hf hf' hwaker
    rw [hanswer id f' _ hf' htransfer]
    exact congrArg Reply.item
      (hlost.dismisses.due_parked h.sound hu.wanes.answered.subset hparked)
  · -- no answers are added to a closed pipe, so what is due had been handed before
    rw [hanswer id f state hf htransfer]
    have hdue : found u.pipe state = due u.pipe state := by
      cases state with
      | fresh => exact absurd rfl hstate
      | _ => rfl
    rw [hdue]
    cases hnext : due u.pipe state with
    | none => exact .inl rfl
    | some item => exact .inr ⟨item, hlost.dismisses.handed hu.wanes.answered.subset hnext, rfl⟩
  · obtain ⟨reply, hreply⟩ :=
      Option.isSome_iff_exists.mp (isSome_pollFuture_sealed hu.held hu.wanes.isSealed hf)
    rw [answer_of_pollFuture hf hreply]
    simp only [pollFuture, htransfer] at hreply
    split at hreply
    · exact ⟨_, (Option.some.inj hreply).symm⟩
    · split at hreply
      · exact absurd hreply (by simp)
      · exact ⟨_, (Option.some.inj hreply).symm⟩

end Traffic

end Pipework
