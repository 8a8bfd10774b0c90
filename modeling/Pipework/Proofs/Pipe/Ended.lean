import Pipework.Proofs.Pipe.Attempts

/-!
# Pipes closed by force

A pipe that has been closed on both sides has nothing buffered and nobody in its queue
(`Pipe.Ended`), and stays so whatever its users do (`Pipe.Ended.apply`): handles that are opened and
closed again, reads that are abandoned and writes bring back neither an item nor a side.

`Traffic.Severed` is what its users find from then on (`Traffic.Since.severed`). Every read meets the
end of data but for an item that it had been handed before, every write through an open handle meets
a broken pipe. Behind it is that each read under way holds a ticket of its own (`Traffic.Held`), so
that the answer it was given stays for it.
-/

namespace Pipework

namespace Pipe

variable {α : Type} {p p' : Pipe α}

/-! ## Calls on a pipe -/

theorem Sound.apply (h : p.Sound) (call : Call α) : (call.apply p).2.1.Sound := by
  cases call with
  | openRead => exact h.openRead
  | openWrite => exact h.openWrite
  | closeRead => exact h.closeRead
  | closeWrite => exact h.closeWrite
  | forceClose => exact h.forceClose
  | onReadClose label => exact h.addReadCallback label
  | onWriteClose label => exact h.addWriteCallback label
  | pollRead waker state => exact h.pollRead waker state
  | dropRead state => exact h.dropRead state
  | tryWrite item => exact h.tryWrite item
  | pollWrite waker item => exact h.pollWrite waker item

theorem Reaches.sound (h : Reaches p p') (hp : p.Sound) : p'.Sound := by
  induction h with
  | start => exact hp
  | call c _ ih => exact ih.apply c

/-- Both sides have closed, nothing is buffered and nobody waits for an item. -/
structure Ended (p : Pipe α) : Prop where
  readClosed : p.readClosed = true
  writeClosed : p.writeClosed = true
  buffer : p.buffer = []
  parked : p.parked = []

theorem Sound.ended (h : p.Sound) (hread : p.readClosed = true) (hwrite : p.writeClosed = true) :
    p.Ended where
  readClosed := hread
  writeClosed := hwrite
  buffer := h.dropped hread
  parked := by
    by_contra hne
    exact absurd ((h.parked hne).2.1.symm.trans hread) Bool.false_ne_true

/-- What comes of an ended pipe: it has ended still, and nobody has been given an answer. -/
structure Stays (p p' : Pipe α) : Prop where
  ended : p'.Ended
  answered : p'.answered.Sublist p.answered
  name : p'.name = p.name

namespace Ended

theorem stays (h : p.Ended) : Stays p p := ⟨h, .refl _, rfl⟩

theorem counted (h : p.Ended) (readers writers : Nat) :
    Stays p { p with readers := readers, writers := writers } :=
  ⟨⟨h.readClosed, h.writeClosed, h.buffer, h.parked⟩, .refl _, rfl⟩

theorem finishRead_eq (h : p.Ended) : p.finishRead = (false, p, []) := by
  simp [finishRead, h.readClosed]

theorem finishWrite_eq (h : p.Ended) : p.finishWrite = (false, p, []) := by
  simp [finishWrite, h.writeClosed]

theorem restore_eq (h : p.Ended) (item : α) : p.restore item = (p, []) := by
  simp [restore, h.readClosed]

theorem collect (h : p.Ended) (ticket : Nat) : Stays p (p.collect ticket) :=
  ⟨⟨h.readClosed, h.writeClosed, h.buffer, h.parked⟩, List.filter_sublist, rfl⟩

/-- An ended pipe takes no item. -/
theorem offer_eq (h : p.Ended) (item : α) (waker : Option Waker) :
    p.offer item waker = (.failed (.brokenPipe p.name), p,
      [.note s!"#<{p.name}> sending sigPipe",
        .signal p.name s!"pipe is read-closed '{p.name}'"]) := by
  simp [offer, h.readClosed]

theorem pollRead (h : p.Ended) (waker : Waker) (state : ReadState) :
    Stays p (p.pollRead waker state).2.2.1 := by
  obtain ⟨-, hp⟩ | ⟨ticket, -, ⟨_, -, hp⟩ | ⟨-, hp⟩⟩ | ⟨-, ⟨-, hp⟩ | ⟨hopen, -⟩⟩ :=
    p.pollRead_cases waker state
  · rw [hp]
    exact h.stays
  · rw [hp]
    exact h.collect ticket
  · rw [hp]
    exact ⟨⟨h.readClosed, h.writeClosed, h.buffer, by simp [rewake, h.parked]⟩, .refl _, rfl⟩
  · rw [hp]
    exact h.stays
  · exact absurd (hopen.symm.trans h.readClosed) Bool.false_ne_true

theorem dropRead (h : p.Ended) (state : ReadState) : Stays p (p.dropRead state).1 := by
  obtain ⟨-, hd⟩ | ⟨ticket, -, ⟨item, -, hd⟩ | ⟨-, hd⟩ | ⟨-, hd⟩⟩ := p.dropRead_cases state
  · rw [hd]
    exact h.stays
  · rw [hd, (h.collect ticket).ended.restore_eq item]
    exact h.collect ticket
  · rw [hd]
    exact h.collect ticket
  · rw [hd]
    exact ⟨⟨h.readClosed, h.writeClosed, h.buffer, by simp [h.parked]⟩, .refl _, rfl⟩

/-- Whatever is done to an ended pipe, it has ended still. -/
theorem apply (h : p.Ended) (call : Call α) : Stays p (call.apply p).2.1 := by
  cases call with
  | openRead => exact h.counted _ _
  | openWrite => exact h.counted _ _
  | closeRead =>
    obtain ⟨-, hc⟩ | ⟨-, hc⟩ | ⟨n, -, hc⟩ := p.closeRead_cases <;> simp only [Call.apply, hc]
    · exact h.stays
    · rw [(h.counted 0 p.writers).ended.finishRead_eq]
      exact h.counted 0 p.writers
    · exact h.counted (n + 1) p.writers
  | closeWrite =>
    obtain ⟨-, hc⟩ | ⟨-, hc⟩ | ⟨n, -, hc⟩ := p.closeWrite_cases <;> simp only [Call.apply, hc]
    · exact h.stays
    · rw [(h.counted p.readers 0).ended.finishWrite_eq]
      exact h.counted p.readers 0
    · exact h.counted p.readers (n + 1)
  | forceClose =>
    have hcounted := h.counted 0 0
    simp only [Call.apply, forceClose]
    rw [hcounted.ended.finishWrite_eq]
    dsimp only
    rw [hcounted.ended.finishRead_eq]
    exact hcounted
  | onReadClose label =>
    simp only [Call.apply, addReadCallback, h.readClosed, if_true]
    exact h.stays
  | onWriteClose label =>
    simp only [Call.apply, addWriteCallback, h.writeClosed, if_true]
    exact h.stays
  | pollRead waker state => exact h.pollRead waker state
  | dropRead state => exact h.dropRead state
  | tryWrite item =>
    simp only [Call.apply, tryWrite_eq, h.offer_eq]
    exact h.stays
  | pollWrite waker item =>
    simp only [Call.apply, pollWrite_eq, h.offer_eq]
    exact h.stays

theorem reaches (h : p.Ended) (hreaches : Reaches p p') : Stays p p' := by
  induction hreaches with
  | start => exact h.stays
  | call c _ ih =>
    have hnext := ih.ended.apply c
    exact ⟨hnext.ended, hnext.answered.trans ih.answered, hnext.name.trans ih.name⟩

end Ended

/-- Whoever has an answer had it before, or has left the queue with the end of data. -/
structure Dismisses (p p' : Pipe α) : Prop where
  answered : ∀ e ∈ p'.answered, e ∈ p.answered ∨ e.2 = none ∧ e.1 ∈ p.parked.map (·.1)
  parked : p'.parked ⊆ p.parked

theorem Dismisses.trans {p'' : Pipe α} (h : Dismisses p p') (h' : Dismisses p' p'') :
    Dismisses p p'' where
  answered e he := by
    rcases h'.answered e he with he | ⟨hnone, he⟩
    · exact h.answered e he
    · exact .inr ⟨hnone, List.map_subset _ h.parked he⟩
  parked := List.Subset.trans h'.parked h.parked

theorem dismisses_endParked (hanswered : p'.answered = p.endParked.answered)
    (hparked : p'.parked = []) : Dismisses p p' where
  answered e he := by
    rw [hanswered, endParked, List.mem_append, List.mem_map] at he
    rcases he with he | ⟨reader, hreader, rfl⟩
    · exact .inl he
    · exact .inr ⟨rfl, List.mem_map_of_mem hreader⟩
  parked := hparked ▸ List.nil_subset _

theorem dismisses_finishWrite (p : Pipe α) : Dismisses p p.finishWrite.2.1 := by
  unfold finishWrite
  split
  · exact ⟨fun _ he => .inl he, List.Subset.refl _⟩
  · exact dismisses_endParked rfl rfl

theorem dismisses_finishRead (p : Pipe α) : Dismisses p p.finishRead.2.1 := by
  unfold finishRead
  split
  · exact ⟨fun _ he => .inl he, List.Subset.refl _⟩
  · exact dismisses_endParked rfl rfl

theorem dismisses_counted (p : Pipe α) (readers writers : Nat) :
    Dismisses p { p with readers := readers, writers := writers } :=
  ⟨fun _ he => .inl he, List.Subset.refl _⟩

theorem dismisses_closeWrite (p : Pipe α) : Dismisses p p.closeWrite.2.1 := by
  obtain ⟨-, hc⟩ | ⟨-, hc⟩ | ⟨n, -, hc⟩ := p.closeWrite_cases <;> rw [hc]
  · exact p.dismisses_counted p.readers p.writers
  · exact (p.dismisses_counted p.readers 0).trans (dismisses_finishWrite _)
  · exact p.dismisses_counted p.readers (n + 1)

theorem dismisses_forceClose (p : Pipe α) : Dismisses p p.forceClose.1 :=
  ((p.dismisses_counted 0 0).trans (dismisses_finishWrite _)).trans (dismisses_finishRead _)

/-- Writers have been released, and both sides closed by force, any number of times. -/
inductive Loses (p : Pipe α) : Pipe α → Prop where
  | start : Loses p p
  | closeWrite {q : Pipe α} (lost : Loses p q) : Loses p q.closeWrite.2.1
  | forceClose {q : Pipe α} (lost : Loses p q) : Loses p q.forceClose.1

namespace Loses

variable {p'' : Pipe α}

theorem trans (h : Loses p p') (h' : Loses p' p'') : Loses p p'' := by
  induction h' with
  | start => exact h
  | closeWrite _ ih => exact ih.closeWrite
  | forceClose _ ih => exact ih.forceClose

theorem reaches (h : Loses p p') : Reaches p p' := by
  induction h with
  | start => exact .start
  | closeWrite _ ih => exact .call .closeWrite ih
  | forceClose _ ih => exact .call .forceClose ih

theorem dismisses (h : Loses p p') : Dismisses p p' := by
  induction h with
  | start => exact p.dismisses_counted p.readers p.writers
  | closeWrite _ ih => exact ih.trans (dismisses_closeWrite _)
  | forceClose _ ih => exact ih.trans (dismisses_forceClose _)

end Loses

end Pipe

/-- The ticket under which an operation waits. -/
def Transfer.ticket? {α : Type} : Transfer α → Option Nat
  | .read state => state.ticket?
  | .readAll _ _ state => state.ticket?
  | _ => none

/-- A read of everything that has not been polled has got nothing yet. -/
def Transfer.Begun {α : Type} : Transfer α → Prop
  | .readAll started got state => started = false → got = [] ∧ state = .fresh
  | _ => True

namespace Traffic

variable {α : Type} {t t' : Traffic α} {id : String} {f : Future α}

open Pipe (Reaches)

/-! ## Tickets of reads under way -/

/-- The operations under way have names, wakers and tickets of their own, and whoever waits has a
place in the pipe. -/
structure Held (t : Traffic α) : Prop where
  sound : t.pipe.Sound
  names : (t.futures.map (·.1)).Nodup
  wakers : ∀ e ∈ t.futures, ∀ e' ∈ t.futures, e.2.waker = e'.2.waker → e = e'
  numbered : ∀ e ∈ t.futures, e.2.waker < t.nextWaker
  apart : ∀ e ∈ t.futures, ∀ e' ∈ t.futures, ∀ ticket, e.2.transfer.ticket? = some ticket →
    e'.2.transfer.ticket? = some ticket → e = e'
  held : ∀ e ∈ t.futures, ∀ ticket, e.2.transfer.ticket? = some ticket → ticket ∈ t.pipe.tickets
  begun : ∀ e ∈ t.futures, e.2.transfer.Begun

theorem held_create (name : String) (capacity : Nat) : (create name capacity : Traffic α × _).1.Held where
  sound := Pipe.sound_create name capacity
  names := List.nodup_nil
  wakers _ he := absurd he List.not_mem_nil
  numbered _ he := absurd he List.not_mem_nil
  apart _ he := absurd he List.not_mem_nil
  held _ he := absurd he List.not_mem_nil
  begun _ he := absurd he List.not_mem_nil

theorem mem_of_future? (h : t.future? id = some f) : (id, f) ∈ t.futures := by
  obtain ⟨⟨id', f'⟩, hmem, rfl⟩ := Option.map_eq_some_iff.mp h
  obtain rfl : id' = id := by simpa using List.find?_some hmem
  exact List.mem_of_find?_eq_some hmem

/-- An operation on a pipe leaves the tickets of all but one read in use. -/
def Spares (own : Option Nat) (p p' : Pipe α) : Prop :=
  ∀ ticket ∈ p.tickets, own ≠ some ticket → ticket ∈ p'.tickets

theorem spares_of_serves {own : Option Nat} {p p' : Pipe α} {events : List Pipe.Event}
    (h : Pipe.Serves own p p' events) : Spares own p p' := fun _ ht hown => h.mem_tickets ht hown

namespace Held

/-- The operations under way stay as they are. -/
theorem keep (h : t.Held) (hsound : t'.pipe.Sound) (hspares : Spares none t.pipe t'.pipe)
    (hfutures : t'.futures = t.futures) (hnext : t.nextWaker ≤ t'.nextWaker) : t'.Held where
  sound := hsound
  names := hfutures ▸ h.names
  wakers := hfutures ▸ h.wakers
  numbered := by
    rw [hfutures]
    exact fun e he => (h.numbered e he).trans_le hnext
  apart := hfutures ▸ h.apart
  held := by
    rw [hfutures]
    exact fun e he ticket ht => hspares ticket (h.held e he ticket ht) (by simp)
  begun := hfutures ▸ h.begun

/-- One operation under way is over. -/
theorem remove (h : t.Held) (hf : t.future? id = some f) (hsound : t'.pipe.Sound)
    (hspares : Spares f.transfer.ticket? t.pipe t'.pipe)
    (hfutures : t'.futures = t.futures.filter (·.1 != id)) (hnext : t'.nextWaker = t.nextWaker) :
    t'.Held := by
  have hsub : ∀ e ∈ t'.futures, e ∈ t.futures ∧ e.1 ≠ id := fun e he => by
    rw [hfutures] at he
    simpa using he
  refine ⟨hsound, ?_, ?_, ?_, ?_, ?_, fun e he => h.begun e (hsub e he).1⟩
  · rw [hfutures]
    exact h.names.sublist (List.filter_sublist.map _)
  · exact fun e he e' he' => h.wakers e (hsub e he).1 e' (hsub e' he').1
  · exact fun e he => hnext ▸ h.numbered e (hsub e he).1
  · exact fun e he e' he' => h.apart e (hsub e he).1 e' (hsub e' he').1
  · intro e he ticket ht
    refine hspares ticket (h.held e (hsub e he).1 ticket ht) fun hown => (hsub e he).2 ?_
    -- nobody else waits under the ticket of the operation that is over
    exact congrArg (·.1) (h.apart e (hsub e he).1 _ (mem_of_future? hf) ticket ht hown)

/-- An operation is under way that does not wait yet. -/
theorem add (h : t.Held) (hid : ∀ e ∈ t.futures, e.1 ≠ id) (hwaker : f.waker = t.nextWaker)
    (hticket : f.transfer.ticket? = none) (hbegun : f.transfer.Begun) :
    ({ t with futures := t.futures ++ [(id, f)], nextWaker := t.nextWaker + 1 } : Traffic α).Held := by
  have hnew : ∀ e ∈ t.futures ++ [(id, f)], e ∈ t.futures ∨ e = (id, f) := fun e he => by
    simpa using he
  refine ⟨h.sound, ?_, ?_, ?_, ?_, ?_, ?_⟩
  · rw [List.map_append, List.nodup_append]
    refine ⟨h.names, List.nodup_singleton _, ?_⟩
    rintro _ hname _ hself rfl
    obtain ⟨e, he, hname⟩ := List.mem_map.mp hname
    exact hid e he (hname.trans (List.mem_singleton.mp hself))
  · intro e he e' he' hsame
    rcases hnew e he with he | rfl <;> rcases hnew e' he' with he' | rfl
    · exact h.wakers e he e' he' hsame
    · exact absurd (hsame.trans hwaker) (h.numbered e he).ne
    · exact absurd (hsame.symm.trans hwaker) (h.numbered e' he').ne
    · rfl
  · intro e he
    rcases hnew e he with he | rfl
    · exact (h.numbered e he).trans (Nat.lt_succ_self _)
    · exact hwaker ▸ Nat.lt_succ_self _
  · intro e he e' he' ticket ht ht'
    rcases hnew e he with he | rfl
    · rcases hnew e' he' with he' | rfl
      · exact h.apart e he e' he' ticket ht ht'
      · exact absurd (hticket.symm.trans ht') (by simp)
    · exact absurd (hticket.symm.trans ht) (by simp)
  · intro e he ticket ht
    rcases hnew e he with he | rfl
    · exact h.held e he ticket ht
    · exact absurd (hticket.symm.trans ht) (by simp)
  · intro e he
    rcases hnew e he with he | rfl
    · exact h.begun e he
    · exact hbegun

/-- An operation under way has been polled and waits, under the ticket it had or a new one. -/
theorem wait (h : t.Held) (hf : t.future? id = some f) {transfer : Transfer α}
    (hsound : t'.pipe.Sound) (hspares : Spares f.transfer.ticket? t.pipe t'.pipe)
    (hwaits : ∀ ticket, transfer.ticket? = some ticket → ticket ∈ t'.pipe.tickets ∧
      (f.transfer.ticket? = some ticket ∨ ticket ∉ t.pipe.tickets))
    (hbegun : transfer.Begun) (hfutures : t'.futures = t.futures.map fun e =>
      if e.1 == id then (id, { f with transfer := transfer }) else e)
    (hnext : t'.nextWaker = t.nextWaker) : t'.Held := by
  have hmem := mem_of_future? hf
  have hcases : ∀ e ∈ t'.futures, e = (id, { f with transfer := transfer }) ∨
      e ∈ t.futures ∧ e.1 ≠ id := by
    intro e he
    rw [hfutures, List.mem_map] at he
    obtain ⟨e, he, rfl⟩ := he
    by_cases hid : e.1 = id
    · exact .inl (by simp [hid])
    · exact .inr (by simp [hid, he])
  have hother : ∀ e ∈ t.futures, e.1 ≠ id → ∀ ticket, e.2.transfer.ticket? = some ticket →
      f.transfer.ticket? ≠ some ticket := fun e he hid ticket ht hown =>
    hid (congrArg (·.1) (h.apart e he _ hmem ticket ht hown))
  refine ⟨hsound, ?_, ?_, ?_, ?_, ?_, ?_⟩
  · have hnames : t'.futures.map (·.1) = t.futures.map (·.1) := by
      rw [hfutures, List.map_map]
      refine List.map_congr_left fun e _ => ?_
      by_cases hid : e.1 = id <;> simp [hid]
    rw [hnames]
    exact h.names
  · intro e he e' he' hsame
    rcases hcases e he with rfl | ⟨he, hid⟩ <;> rcases hcases e' he' with rfl | ⟨he', hid'⟩
    · rfl
    · exact absurd (congrArg (·.1) (h.wakers _ hmem e' he' hsame)).symm hid'
    · exact absurd (congrArg (·.1) (h.wakers e he _ hmem hsame)) hid
    · exact h.wakers e he e' he' hsame
  · intro e he
    rw [hnext]
    rcases hcases e he with rfl | ⟨he, -⟩
    · exact h.numbered (id, f) hmem
    · exact h.numbered e he
  · intro e he e' he' ticket ht ht'
    -- a new ticket is nobody's, and the old one was the operation's own
    have hapart : ∀ e ∈ t.futures, e.1 ≠ id → e.2.transfer.ticket? = some ticket →
        transfer.ticket? ≠ some ticket := fun e he hid ht hnew =>
      (hwaits ticket hnew).2.elim (hother e he hid ticket ht) fun hno => hno (h.held e he ticket ht)
    rcases hcases e he with rfl | ⟨he, hid⟩ <;> rcases hcases e' he' with rfl | ⟨he', hid'⟩
    · rfl
    · exact absurd ht (hapart e' he' hid' ht')
    · exact absurd ht' (hapart e he hid ht)
    · exact h.apart e he e' he' ticket ht ht'
  · intro e he ticket ht
    rcases hcases e he with rfl | ⟨he, hid⟩
    · exact (hwaits ticket ht).1
    · exact hspares ticket (h.held e he ticket ht) (hother e he hid ticket ht)
  · intro e he
    rcases hcases e he with rfl | ⟨he, -⟩
    · exact hbegun
    · exact h.begun e he

end Held

/-! ## What users do -/

/-- What a poll with the given ticket owes to everybody else, and where it waits itself. -/
structure Polls (own : Option Nat) (p : Pipe α) (waits : Bool) (transfer : Transfer α) (p' : Pipe α) :
    Prop where
  spares : Spares own p p'
  ticket : waits → ∀ ticket, transfer.ticket? = some ticket → ticket ∈ p'.tickets ∧
    (own = some ticket ∨ ticket ∉ p.tickets)

theorem Polls.of_none {own : Option Nat} {p p' : Pipe α} {waits : Bool} {transfer : Transfer α}
    (hspares : Spares none p p') (hnone : transfer.ticket? = none) :
    Polls own p waits transfer p' where
  spares ticket ht _ := hspares ticket ht (by simp)
  ticket _ ticket ht := absurd (hnone.symm.trans ht) (by simp)

/-- The poll has to wait. -/
def isPending {β : Type} : Poll β → Bool
  | .pending => true
  | .ready _ => false

theorem polls_pollRead {p : Pipe α} (h : p.Sound) (waker : Waker) {state : ReadState}
    (hold : ∀ ticket, state.ticket? = some ticket → ticket ∈ p.tickets) :
    Polls state.ticket? p (isPending (p.pollRead waker state).1)
      (.read (p.pollRead waker state).2.1) (p.pollRead waker state).2.2.1 where
  spares := spares_of_serves (Pipe.serves_pollRead p waker state)
  ticket hpending k hk := by
    have hpending : (p.pollRead waker state).1 = .pending := by
      cases hanswer : (p.pollRead waker state).1 with
      | pending => rfl
      | ready _ => rw [hanswer] at hpending; exact absurd hpending (by simp [isPending])
    obtain ⟨ticket, hstate, hmine, -⟩ := h.waits_pollRead waker state hpending
    obtain ⟨ticket', hstate', hparked, -⟩ := p.pollRead_pending waker state hpending hold
    obtain rfl : ticket = ticket' := by simpa using hstate.symm.trans hstate'
    obtain rfl : ticket = k := by simpa [Transfer.ticket?, ReadState.ticket?, hstate] using hk
    exact ⟨List.mem_append_left _ (List.mem_map_of_mem hparked), hmine.imp_right (·.2)⟩

theorem polls_pollReadAll (waker : Waker) (fuel : Nat) {p : Pipe α} (h : p.Sound) (got : List α)
    {state : ReadState} (hold : ∀ ticket, state.ticket? = some ticket → ticket ∈ p.tickets) :
    Polls state.ticket? p (isPending (pollReadAll waker fuel p got state).1)
      (pollReadAll waker fuel p got state).2.1 (pollReadAll waker fuel p got state).2.2.1 := by
  induction fuel generalizing p got state with
  | zero => exact ⟨fun _ ht _ => ht, fun _ ticket ht => ⟨hold ticket ht, .inl ht⟩⟩
  | succ fuel ih =>
    have hread := polls_pollRead h waker hold
    have hsound := h.pollRead waker state
    simp only [pollReadAll]
    rcases hp : p.pollRead waker state with ⟨_ | _ | item, state', p', events⟩ <;>
      rw [hp] at hread hsound
    · exact ⟨hread.spares, hread.ticket⟩
    · exact ⟨hread.spares, hread.ticket⟩
    · -- after an item the next read begins without a ticket
      have hfresh : ∀ ticket, ReadState.fresh.ticket? = some ticket → ticket ∈ p'.tickets := by
        simp [ReadState.ticket?]
      have hrest := ih hsound (got ++ [item]) hfresh
      refine ⟨fun k hk hown => hrest.spares k (hread.spares k hk hown) (by simp [ReadState.ticket?]),
        fun hpending k hk => ?_⟩
      obtain ⟨hmem, hnew⟩ := hrest.ticket hpending k hk
      refine ⟨hmem, or_iff_not_imp_left.mpr fun hown hmem => ?_⟩
      exact (hnew.resolve_left (by simp [ReadState.ticket?])) (hread.spares k hmem hown)

theorem spares_pollWriteAll (waker : Waker) (closed started : Bool) (items : List α) (p : Pipe α) :
    Spares none p (pollWriteAll p waker closed started items).2.2.1 ∧
      (pollWriteAll p waker closed started items).2.1.ticket? = none := by
  induction items generalizing started p with
  | nil => exact ⟨fun _ ht _ => ht, rfl⟩
  | cons item rest ih =>
    have hwrite : Spares none p (p.pollWrite waker item).2.1 :=
      spares_of_serves (Pipe.serves_pollWrite p waker item)
    simp only [pollWriteAll]
    split
    · exact ⟨fun _ ht _ => ht, rfl⟩
    · rcases hp : p.pollWrite waker item with ⟨_ | _ | _, p', events⟩ <;> rw [hp] at hwrite
      · exact ⟨hwrite, rfl⟩
      · exact ⟨hwrite, rfl⟩
      · obtain ⟨hspares, hticket⟩ := ih false p'
        exact ⟨fun k hk hown => hspares k (hwrite k hk hown) hown, hticket⟩

theorem polls_pollFuture (h : t.pipe.Sound) (f : Future α)
    (hold : ∀ ticket, f.transfer.ticket? = some ticket → ticket ∈ t.pipe.tickets) :
    Polls f.transfer.ticket? t.pipe (t.pollFuture f).1.isNone (t.pollFuture f).2.1
      (t.pollFuture f).2.2.1 := by
  simp only [pollFuture]
  cases htransfer : f.transfer with
  | read state =>
    rw [htransfer] at hold
    have hread := polls_pollRead h (.task f.waker) hold
    dsimp only
    split <;> rename_i hp <;> rw [hp] at hread <;> exact ⟨hread.spares, hread.ticket⟩
  | write item =>
    have hwrite : Spares none t.pipe (t.pipe.pollWrite (.task f.waker) item).2.1 :=
      spares_of_serves (Pipe.serves_pollWrite _ _ _)
    dsimp only
    split <;> rename_i hp <;> rw [hp] at hwrite <;> exact .of_none hwrite rfl
  | refused => exact .of_none (fun _ ht _ => ht) rfl
  | readAll started got state =>
    rw [htransfer] at hold
    dsimp only
    split
    · exact ⟨fun _ ht _ => ht, fun hnone => absurd hnone (by simp)⟩
    · have hread := polls_pollReadAll (.task f.waker) (t.pipe.buffer.length + 2) h got hold
      split <;> rename_i hp <;> rw [hp] at hread <;> exact ⟨hread.spares, hread.ticket⟩
  | writeAll started items =>
    obtain ⟨hwrite, hticket⟩ :=
      spares_pollWriteAll (.task f.waker) (t.ownerClosed f) started items t.pipe
    dsimp only
    split <;> rename_i hp <;> rw [hp] at hwrite hticket <;> exact .of_none hwrite hticket

theorem begun_pollReadAll (waker : Waker) (fuel : Nat) (p : Pipe α) (got : List α)
    (state : ReadState) : (pollReadAll waker fuel p got state).2.1.Begun := by
  induction fuel generalizing p got state with
  | zero => exact fun h => absurd h (by simp)
  | succ fuel ih =>
    simp only [pollReadAll]
    rcases p.pollRead waker state with ⟨_ | _ | item, state', p', events⟩
    · exact fun h => absurd h (by simp)
    · exact fun h => absurd h (by simp)
    · exact ih p' (got ++ [item]) .fresh

theorem begun_pollWriteAll (waker : Waker) (closed started : Bool) (items : List α) (p : Pipe α) :
    (pollWriteAll p waker closed started items).2.1.Begun := by
  induction items generalizing started p with
  | nil => trivial
  | cons item rest ih =>
    simp only [pollWriteAll]
    split
    · trivial
    · rcases p.pollWrite waker item with ⟨_ | _ | _, p', events⟩
      · trivial
      · trivial
      · exact ih false p'

theorem begun_pollFuture (t : Traffic α) (f : Future α) : (t.pollFuture f).2.1.Begun := by
  simp only [pollFuture]
  cases f.transfer with
  | read state =>
    dsimp only
    split <;> trivial
  | write item =>
    dsimp only
    split <;> trivial
  | refused => trivial
  | readAll started got state =>
    have hread := begun_pollReadAll (.task f.waker) (t.pipe.buffer.length + 2) t.pipe got state
    dsimp only
    split
    · exact fun h => absurd h (by simp)
    · split <;> rename_i hp <;> rw [hp] at hread <;> exact hread
  | writeAll started items =>
    have hwrite := begun_pollWriteAll (.task f.waker) (t.ownerClosed f) started items t.pipe
    dsimp only
    split <;> rename_i hp <;> rw [hp] at hwrite <;> exact hwrite

theorem spares_openSide (p : Pipe α) (side : Side) : Spares none p (openSide p side).1 := by
  cases side with
  | read => exact spares_of_serves (Pipe.serves_openRead p)
  | write => exact spares_of_serves (Pipe.serves_openWrite p)

theorem spares_closeSide (p : Pipe α) (side : Side) : Spares none p (closeSide p side).2.1 := by
  cases side with
  | read => exact spares_of_serves (Pipe.serves_closeRead p)
  | write => exact spares_of_serves (Pipe.serves_closeWrite p)

theorem spares_loses {p p' : Pipe α} (h : p.Loses p') : Spares none p p' := by
  induction h with
  | start => exact fun _ ht _ => ht
  | closeWrite _ ih =>
    exact fun k hk hown => spares_of_serves (Pipe.serves_closeWrite _) k (ih k hk hown) hown
  | forceClose _ ih =>
    exact fun k hk hown => spares_of_serves (Pipe.serves_forceClose _) k (ih k hk hown) hown

theorem nextWaker_release (t : Traffic α) (id : String) (h : Handle) :
    (t.releaseHandle id h).2.1.nextWaker = t.nextWaker := by
  simp only [releaseHandle]
  split <;> rfl

theorem spares_release (t : Traffic α) (id : String) (h : Handle) :
    Spares none t.pipe (t.releaseHandle id h).2.1.pipe := by
  simp only [releaseHandle]
  split
  · exact fun _ ht _ => ht
  · exact spares_closeSide t.pipe h.side

namespace Held

theorem release (h : t.Held) (id : String) (handle : Handle) : (t.releaseHandle id handle).2.1.Held :=
  h.keep ((t.reaches_release id handle).sound h.sound) (t.spares_release id handle)
    (t.futures_release id handle) (t.nextWaker_release id handle).ge

theorem opened (h : t.Held) (side : Side) (id : String) : (t.openHandle side id).1.Held := by
  have hcounted : ({ t with pipe := (openSide t.pipe side).1 } : Traffic α).Held :=
    h.keep ((reaches_openSide t.pipe side).sound h.sound) (spares_openSide t.pipe side) rfl le_rfl
  simp only [openHandle]
  split
  · rename_i old _
    exact (hcounted.release id old).keep (hcounted.release id old).sound (fun _ ht _ => ht) rfl le_rfl
  · exact hcounted.keep hcounted.sound (fun _ ht _ => ht) rfl le_rfl

theorem forget (h : t.Held) (hf : t.future? id = some f) : (t.forgetFuture id f).1.Held := by
  refine h.remove hf ((t.reaches_forget id f).sound h.sound) ?_ rfl rfl
  simp only [forgetFuture, dropTransfer]
  cases f.transfer with
  | read state => exact spares_of_serves (Pipe.serves_dropRead t.pipe state)
  | readAll _ _ state => exact spares_of_serves (Pipe.serves_dropRead t.pipe state)
  | _ => exact fun _ ht _ => ht

theorem start (h : t.Held) (id : String) (owner : Option String) {transfer : Transfer α}
    (hticket : transfer.ticket? = none) (hbegun : transfer.Begun) :
    (t.start id owner transfer).2.1.Held := by
  simp only [Traffic.start]
  cases hf : t.future? id with
  | none =>
    refine h.add (fun e he hid => ?_) rfl hticket hbegun
    exact absurd hid (by simpa using List.find?_eq_none.mp (Option.map_eq_none_iff.mp hf) e he)
  | some old =>
    refine (h.forget hf).add (fun e he hid => ?_) rfl hticket hbegun
    simp [forgetFuture, hid] at he

theorem startOn (h : t.Held) (side : Side) (handle : Option String) (id : String)
    {transfer onClosed : Transfer α} (htransfer : transfer.ticket? = none ∧ transfer.Begun)
    (honClosed : onClosed.ticket? = none ∧ onClosed.Begun) :
    (t.startOn side handle id transfer onClosed).2.1.Held := by
  simp only [Traffic.startOn]
  cases handle with
  | none => exact h.start id none htransfer.1 htransfer.2
  | some name =>
    dsimp only
    split
    · exact h
    · split
      · exact h.start id (some name) honClosed.1 honClosed.2
      · exact h.start id (some name) htransfer.1 htransfer.2

theorem poll (h : t.Held) (id : String) : (t.step (.poll id)).2.1.Held := by
  simp only [Traffic.step]
  cases hf : t.future? id with
  | none => exact h
  | some f =>
    have hsound := (t.reaches_pollFuture f).sound h.sound
    obtain ⟨hspares, hticket⟩ := polls_pollFuture h.sound f (h.held _ (mem_of_future? hf))
    have hbegun := t.begun_pollFuture f
    dsimp only
    rcases hp : t.pollFuture f with ⟨_ | reply, transfer, p, events⟩ <;>
      rw [hp] at hsound hspares hticket hbegun
    · exact h.wait hf hsound hspares (hticket rfl) hbegun rfl rfl
    · exact h.remove hf hsound hspares rfl rfl

/-- Whatever a user does, everybody's ticket stays his own. -/
theorem step (h : t.Held) (op : PipeOp α) : (t.step op).2.1.Held := by
  have hsound := (t.reaches_step op).sound h.sound
  cases op with
  | openHandle side id =>
    simp only [Traffic.step]
    split
    · exact h
    · exact h.opened side id
  | clone name id =>
    simp only [Traffic.step]
    split
    · exact h
    · split
      · exact h
      · exact h.opened _ id
  | close name =>
    simp only [Traffic.step]
    split
    · exact h
    · exact h.release name _
  | drop name =>
    simp only [Traffic.step]
    split
    · exact h
    · split
      · exact h
      · rename_i handle _ _
        exact (h.release name handle).keep (h.release name handle).sound (fun _ ht _ => ht) rfl le_rfl
  | tryWrite handle item =>
    have hspares : Spares none t.pipe (t.pipe.tryWrite item).2.1 :=
      spares_of_serves (Pipe.serves_tryWrite t.pipe item)
    cases handle with
    | none => exact h.keep hsound hspares rfl le_rfl
    | some name =>
      simp only [Traffic.step] at hsound ⊢
      split
      · exact h
      · split
        · exact h
        · exact h.keep (h.sound.tryWrite item) hspares rfl le_rfl
  | read handle id => exact h.startOn .read handle id ⟨rfl, trivial⟩ ⟨rfl, trivial⟩
  | write handle id item => exact h.startOn .write handle id ⟨rfl, trivial⟩ ⟨rfl, trivial⟩
  | readAll handle id =>
    exact h.startOn .read handle id ⟨rfl, fun _ => ⟨rfl, rfl⟩⟩ ⟨rfl, fun _ => ⟨rfl, rfl⟩⟩
  | writeAll handle id items => exact h.startOn .write handle id ⟨rfl, trivial⟩ ⟨rfl, trivial⟩
  | poll id => exact h.poll id
  | forget id =>
    simp only [Traffic.step]
    cases hf : t.future? id with
    | none => exact h
    | some f => exact h.forget hf
  | closeSide side => exact h.keep hsound (spares_closeSide t.pipe side) rfl le_rfl
  | forceClose => exact h.keep hsound (spares_of_serves (Pipe.serves_forceClose t.pipe)) rfl le_rfl
  | onClose side handle label =>
    simp only [Traffic.step] at hsound ⊢
    split
    · exact h
    · cases side with
      | read =>
        exact h.keep (h.sound.addReadCallback label)
          (spares_of_serves (Pipe.serves_addReadCallback t.pipe label)) rfl le_rfl
      | write =>
        exact h.keep (h.sound.addWriteCallback label)
          (spares_of_serves (Pipe.serves_addWriteCallback t.pipe label)) rfl le_rfl
  | isClosed name =>
    simp only [Traffic.step]
    split <;> exact h
  | name handle =>
    simp only [Traffic.step]
    split <;> exact h
  | describe handle =>
    cases handle with
    | none => exact h
    | some name =>
      simp only [Traffic.step]
      split <;> exact h

/-- Nor is a ticket lost with the writers of the pipe. -/
theorem lose (h : t.Held) {p : Pipe α} (hlost : t.pipe.Loses p) {next : Nat}
    (hnext : t.nextWaker ≤ next) :
    ({ t with pipe := p, nextWaker := next } : Traffic α).Held :=
  h.keep (hlost.reaches.sound h.sound) (spares_loses hlost) rfl hnext

end Held

/-- A user has done something, or the pipe has lost writers; wakers may have been given out
elsewhere. -/
inductive Proceeds (t : Traffic α) : Traffic α → Prop where
  | step (op : PipeOp α) : Proceeds t (t.step op).2.1
  | lose {p : Pipe α} (lost : t.pipe.Loses p) {next : Nat} (hnext : t.nextWaker ≤ next) :
      Proceeds t { t with pipe := p, nextWaker := next }

theorem Held.advance (h : t.Held) (hproceeds : t.Proceeds t') : t'.Held := by
  cases hproceeds with
  | step op => exact h.step op
  | lose hlost hnext => exact h.lose hlost hnext

/-! ## After the end -/

/-- What an ended pipe has left for a read: an item that it has been handed. -/
def due (p : Pipe α) (state : ReadState) : Option α := (state.ticket?.bind p.answer?).join

theorem mem_of_due {p : Pipe α} {state : ReadState} {item : α} (h : due p state = some item) :
    ∃ ticket, state = .parked ticket ∧ (ticket, some item) ∈ p.answered := by
  cases state with
  | parked ticket =>
    obtain ⟨⟨ticket', answer⟩, hfound, heq⟩ :=
      Option.map_eq_some_iff.mp (Option.join_eq_some_iff.mp h)
    obtain rfl : ticket' = ticket := by simpa using List.find?_some hfound
    obtain rfl : answer = some item := heq
    exact ⟨ticket', rfl, List.mem_of_find?_eq_some hfound⟩
  | _ => exact absurd h (by simp [due, ReadState.ticket?])

theorem pollRead_ended {p : Pipe α} (h : p.Ended) (waker : Waker) {state : ReadState}
    (hold : ∀ ticket, state.ticket? = some ticket → ticket ∈ p.tickets) :
    (p.pollRead waker state).1 = .ready (due p state) ∧ (p.pollRead waker state).2.1 = .finished := by
  obtain ⟨rfl, hp⟩ | ⟨ticket, rfl, ⟨_, ha, hp⟩ | ⟨hnone, -⟩⟩ | ⟨rfl, ⟨-, hp⟩ | ⟨hopen, -⟩⟩ :=
    p.pollRead_cases waker state
  · rw [hp]
    exact ⟨rfl, rfl⟩
  · rw [hp]
    exact ⟨by simp [due, ReadState.ticket?, ha], rfl⟩
  · -- nobody is in the queue, so the ticket has an answer
    have hmem := hold ticket rfl
    simp only [Pipe.tickets, h.parked, List.map_nil, List.nil_append, List.mem_map] at hmem
    obtain ⟨e, he, rfl⟩ := hmem
    simp only [Pipe.answer?, Option.map_eq_none_iff, List.find?_eq_none] at hnone
    exact absurd (beq_self_eq_true e.1) (hnone e he)
  · rw [hp]
    exact ⟨rfl, rfl⟩
  · exact absurd (hopen.symm.trans h.readClosed) Bool.false_ne_true

theorem pollReadAll_fresh {p : Pipe α} (h : p.Ended) (waker : Waker) (fuel : Nat) (got : List α) :
    (pollReadAll waker (fuel + 1) p got .fresh).1 = .ready got := by
  simp [pollReadAll, Pipe.pollRead, h.readClosed]

theorem pollReadAll_ended {p : Pipe α} (h : p.Ended) (waker : Waker) (fuel : Nat) (got : List α)
    {state : ReadState} (hold : ∀ ticket, state.ticket? = some ticket → ticket ∈ p.tickets) :
    (pollReadAll waker (fuel + 2) p got state).1 = .ready (got ++ (due p state).toList) := by
  obtain ⟨hdue, -⟩ := pollRead_ended h waker hold
  have hstays := h.pollRead waker state
  rw [pollReadAll]
  generalize p.pollRead waker state = r at hdue hstays ⊢
  obtain ⟨_ | _ | item, state', p', events⟩ := r
  · exact absurd hdue (by simp)
  · simp [← Poll.ready.inj hdue]
  · -- the read after the item meets the end of data
    have hlast := pollReadAll_fresh hstays.ended waker fuel (got ++ [item])
    dsimp only at hlast ⊢
    rw [hlast, ← Poll.ready.inj hdue]
    rfl

theorem pollWriteAll_ended {p : Pipe α} (h : p.Ended) (waker : Waker) (closed started : Bool)
    (item : α) (rest : List α) :
    (pollWriteAll p waker closed started (item :: rest)).1 = .ready (.error
      (if closed && !started then .alreadyWriteClosed p.name else .brokenPipe p.name)) := by
  rw [pollWriteAll]
  split <;> simp [Pipe.pollWrite, h.offer_eq]

/-- The answer to an operation under way when its pipe has ended. -/
theorem reply_ended (h : t.Held) (hended : t.pipe.Ended) (hf : t.future? id = some f) :
    match f.transfer with
    | .read state => (t.pollFuture f).1 = some (.item (due t.pipe state))
    | .write _ => (t.pollFuture f).1 = some (.written (.error (.brokenPipe t.pipe.name)))
    | .refused => (t.pollFuture f).1 = some (.written (.error (.alreadyWriteClosed t.pipe.name)))
    | .readAll _ got state =>
      (t.pollFuture f).1 = some (.items (got ++ (due t.pipe state).toList))
    | .writeAll _ [] => (t.pollFuture f).1 = some (.written (.ok ()))
    | .writeAll started (_ :: _) => (t.pollFuture f).1 = some (.written (.error
        (if t.ownerClosed f && !started then .alreadyWriteClosed t.pipe.name
          else .brokenPipe t.pipe.name))) := by
  have hold := h.held _ (mem_of_future? hf)
  simp only [pollFuture]
  cases htransfer : f.transfer with
  | read state =>
    rw [htransfer] at hold
    obtain ⟨hdue, -⟩ := pollRead_ended hended (.task f.waker) hold
    dsimp only
    rcases hp : t.pipe.pollRead (.task f.waker) state with ⟨_ | item, state', p, events⟩ <;>
      rw [hp] at hdue
    · exact absurd hdue (by simp)
    · simp [← Poll.ready.inj hdue]
  | write item =>
    simp [Pipe.pollWrite, hended.offer_eq]
  | refused => rfl
  | readAll started got state =>
    rw [htransfer] at hold
    have hdue := pollReadAll_ended hended (.task f.waker) t.pipe.buffer.length got hold
    dsimp only
    split
    · -- the handle was closed before the first poll
      rename_i hnew
      obtain ⟨rfl, rfl⟩ : got = [] ∧ state = .fresh := by
        have hbegun := h.begun _ (mem_of_future? hf)
        rw [htransfer] at hbegun
        simp only [Bool.and_eq_true, Bool.not_eq_true'] at hnew
        exact hbegun hnew.1
      rfl
    · generalize pollReadAll (.task f.waker) (t.pipe.buffer.length + 2) t.pipe got state = r
        at hdue ⊢
      obtain ⟨_ | items, transfer, p, events⟩ := r
      · exact absurd hdue (by simp)
      · simp [← Poll.ready.inj hdue]
  | writeAll started items =>
    cases items with
    | nil => simp [pollWriteAll]
    | cons item rest =>
      have hrefused :=
        pollWriteAll_ended hended (.task f.waker) (t.ownerClosed f) started item rest
      dsimp only
      generalize pollWriteAll t.pipe (.task f.waker) (t.ownerClosed f) started (item :: rest) = r
        at hrefused ⊢
      obtain ⟨_ | outcome, transfer, p, events⟩ := r
      · exact absurd hrefused (by simp)
      · exact congrArg (some ∘ Reply.written) (Poll.ready.inj hrefused)

/-- Every operation under way was so before, or has a new waker. -/
structure Newer (t t' : Traffic α) : Prop where
  futures : ∀ e ∈ t'.futures, e ∈ t.futures ∨ t.nextWaker ≤ e.2.waker
  next : t.nextWaker ≤ t'.nextWaker

namespace Newer

theorem of_eq (hfutures : t'.futures = t.futures) (hnext : t'.nextWaker = t.nextWaker) :
    Newer t t' := ⟨fun _ he => .inl (hfutures ▸ he), hnext.ge⟩

theorem of_filter (hfutures : t'.futures = t.futures.filter (·.1 != id))
    (hnext : t'.nextWaker = t.nextWaker) : Newer t t' :=
  ⟨fun _ he => .inl (List.mem_of_mem_filter (hfutures ▸ he)), hnext.ge⟩

theorem trans {t'' : Traffic α} (h : Newer t t') (h' : Newer t' t'') : Newer t t'' where
  futures e he := by
    rcases h'.futures e he with he | hnew
    · exact h.futures e he
    · exact .inr (h.next.trans hnew)
  next := h.next.trans h'.next

end Newer

theorem nextWaker_open (t : Traffic α) (side : Side) (id : String) :
    (t.openHandle side id).1.nextWaker = t.nextWaker := by
  simp only [openHandle]
  split
  · rename_i old _
    exact nextWaker_release { t with pipe := (openSide t.pipe side).1 } id old
  · rfl

theorem newer_start (t : Traffic α) (id : String) (owner : Option String) (transfer : Transfer α) :
    Newer t (t.start id owner transfer).2.1 := by
  simp only [start]
  refine ⟨fun e he => ?_, ?_⟩
  · split at he
    · rcases List.mem_append.mp he with he | he
      · exact .inl (List.mem_of_mem_filter he)
      · obtain rfl := List.mem_singleton.mp he
        exact .inr le_rfl
    · rcases List.mem_append.mp he with he | he
      · exact .inl he
      · obtain rfl := List.mem_singleton.mp he
        exact .inr le_rfl
  · split <;> exact Nat.le_succ _

theorem newer_startOn (t : Traffic α) (side : Side) (handle : Option String) (id : String)
    (transfer onClosed : Transfer α) :
    Newer t (t.startOn side handle id transfer onClosed).2.1 := by
  simp only [startOn]
  cases handle with
  | none => exact t.newer_start id none transfer
  | some name =>
    dsimp only
    split
    · exact .of_eq rfl rfl
    · exact t.newer_start id (some name) _

/-- An operation under way stays as it is until it is over, if it does not have to wait when it is
polled. -/
theorem newer_step {op : PipeOp α} (hready : ∀ id f, op = .poll id → t.future? id = some f →
    (t.pollFuture f).1.isSome) : Newer t (t.step op).2.1 := by
  cases op with
  | openHandle side id =>
    simp only [Traffic.step]
    split
    · exact .of_eq rfl rfl
    · exact .of_eq (t.futures_open side id) (t.nextWaker_open side id)
  | clone name id =>
    simp only [Traffic.step]
    split
    · exact .of_eq rfl rfl
    · split
      · exact .of_eq rfl rfl
      · exact .of_eq (t.futures_open _ id) (t.nextWaker_open _ id)
  | close name =>
    simp only [Traffic.step]
    split
    · exact .of_eq rfl rfl
    · exact .of_eq (t.futures_release name _) (t.nextWaker_release name _)
  | drop name =>
    simp only [Traffic.step]
    split
    · exact .of_eq rfl rfl
    · split
      · exact .of_eq rfl rfl
      · exact .of_eq (t.futures_release name _) (t.nextWaker_release name _)
  | tryWrite handle item =>
    cases handle with
    | none => exact .of_eq rfl rfl
    | some name =>
      simp only [Traffic.step]
      split
      · exact .of_eq rfl rfl
      · split <;> exact .of_eq rfl rfl
  | read handle id => exact newer_startOn t .read handle id _ _
  | write handle id item => exact newer_startOn t .write handle id _ _
  | readAll handle id => exact newer_startOn t .read handle id _ _
  | writeAll handle id items => exact newer_startOn t .write handle id _ _
  | poll id =>
    simp only [Traffic.step]
    cases hf : t.future? id with
    | none => exact .of_eq rfl rfl
    | some f =>
      have hready := hready id f rfl hf
      dsimp only
      rcases hp : t.pollFuture f with ⟨_ | reply, transfer, p, events⟩
      · rw [hp] at hready
        exact absurd hready (by simp)
      · exact .of_filter rfl rfl
  | forget id =>
    simp only [Traffic.step]
    split
    · exact .of_eq rfl rfl
    · exact .of_filter rfl rfl
  | closeSide side => exact .of_eq rfl rfl
  | forceClose => exact .of_eq rfl rfl
  | onClose side handle label =>
    simp only [Traffic.step]
    split <;> exact .of_eq rfl rfl
  | isClosed name =>
    simp only [Traffic.step]
    split <;> exact .of_eq rfl rfl
  | name handle =>
    simp only [Traffic.step]
    split <;> exact .of_eq rfl rfl
  | describe handle =>
    cases handle with
    | none => exact .of_eq rfl rfl
    | some name =>
      simp only [Traffic.step]
      split <;> exact .of_eq rfl rfl

theorem next_step (t : Traffic α) (op : PipeOp α) : t.nextWaker ≤ (t.step op).2.1.nextWaker := by
  cases op with
  | poll id =>
    simp only [Traffic.step]
    split
    · exact le_rfl
    · split <;> exact le_rfl
  | _ => exact (newer_step fun _ _ hop => absurd hop (by simp)).next

/-- When the pipe has ended no operation under way has to wait. -/
theorem isSome_pollFuture (h : t.Held) (hended : t.pipe.Ended) (hf : t.future? id = some f) :
    (t.pollFuture f).1.isSome := by
  have hreply := reply_ended h hended hf
  split at hreply <;> rw [hreply] <;> rfl

/-- Users of a pipe that has ended, and what they have come to. -/
structure Since (t t' : Traffic α) : Prop where
  held : t'.Held
  stays : Pipe.Stays t.pipe t'.pipe
  newer : Newer t t'

theorem Since.advance {u u' : Traffic α} (h : Since t u) (hproceeds : u.Proceeds u') :
    Since t u' where
  held := h.held.advance hproceeds
  stays := by
    have hreaches : Reaches u.pipe u'.pipe := by
      cases hproceeds with
      | step op => exact u.reaches_step op
      | lose hlost _ => exact hlost.reaches
    have hnext := h.stays.ended.reaches hreaches
    exact ⟨hnext.ended, hnext.answered.trans h.stays.answered, hnext.name.trans h.stays.name⟩
  newer := by
    cases hproceeds with
    | step op =>
      exact h.newer.trans (newer_step fun _ _ _ hf => isSome_pollFuture h.held h.stays.ended hf)
    | lose _ hnext => exact h.newer.trans ⟨fun _ he => .inl he, hnext⟩

theorem Since.step {u : Traffic α} (h : Since t u) (op : PipeOp α) : Since t (u.step op).2.1 :=
  h.advance (.step op)

/-! ## What users find -/

/-- The answer to the next poll of an operation under way. -/
def answer (t : Traffic α) (id : String) : Reply α := (t.step (.poll id)).1

/-- The read had been handed this item. -/
def Handed (before : Traffic α) (state : ReadState) (item : α) : Prop :=
  ∃ ticket, state = .parked ticket ∧ (ticket, some item) ∈ before.pipe.answered

theorem answer_of_pollFuture (hf : t.future? id = some f) {reply : Reply α}
    (hreply : (t.pollFuture f).1 = some reply) : t.answer id = reply := by
  simp only [answer, Traffic.step, hf]
  generalize t.pollFuture f = r at hreply ⊢
  obtain ⟨_ | reply', transfer, p, events⟩ := r
  · exact absurd hreply (by simp)
  · exact Option.some.inj hreply

/-- An operation under way is known by its waker. -/
theorem Newer.future_eq {u : Traffic α} (h : Newer t u) (ht : t.Held) {f' : Future α}
    (hf : t.future? id = some f) (hf' : u.future? id = some f') (hwaker : f'.waker = f.waker) :
    f' = f := by
  have hmem := mem_of_future? hf
  rcases h.futures _ (mem_of_future? hf') with hold | hnew
  · exact congrArg (·.2) (ht.wakers _ hold _ hmem hwaker)
  · exact absurd (hwaker ▸ hnew) (Nat.not_le.mpr (ht.numbered _ hmem))

end Traffic

namespace Pipe.Dismisses

variable {α : Type} {t : Traffic α} {p q : Pipe α}

open Traffic (Handed due)

/-- An item that is due to a read had been handed to it before the queue was dismissed. -/
theorem handed (h : Dismisses t.pipe p) (hsub : q.answered ⊆ p.answered) {state : ReadState}
    {item : α} (hdue : due q state = some item) : Handed t state item := by
  obtain ⟨ticket, hstate, hmem⟩ := Traffic.mem_of_due hdue
  rcases h.answered _ (hsub hmem) with hmem | ⟨hnone, -⟩
  · exact ⟨ticket, hstate, hmem⟩
  · exact absurd hnone (by simp)

/-- Nothing is due to a read that waited in the queue. -/
theorem due_parked (h : Dismisses t.pipe p) (ht : t.pipe.Sound) (hsub : q.answered ⊆ p.answered)
    {ticket : Nat} (hparked : ticket ∈ t.pipe.parked.map (·.1)) :
    due q (.parked ticket) = none := by
  by_contra hne
  obtain ⟨item, hdue⟩ := Option.ne_none_iff_exists'.mp hne
  obtain ⟨ticket', hstate, hmem⟩ := h.handed hsub hdue
  obtain rfl : ticket = ticket' := by simpa using hstate
  have hapart := (List.nodup_append.mp ht.nodup).2.2 ticket hparked ticket (List.mem_map_of_mem hmem)
  exact hapart rfl

end Pipe.Dismisses

namespace Traffic

variable {α : Type} {t t' : Traffic α} {id : String} {f : Future α}

/-- The pipe has been closed by force, its users have done nothing. -/
structure Struck (t t' : Traffic α) : Prop where
  held : t'.Held
  ended : t'.pipe.Ended
  dismisses : Pipe.Dismisses t.pipe t'.pipe
  futures : t'.futures = t.futures
  next : t'.nextWaker = t.nextWaker

/-- A pipe that has lost its writers to the end. -/
theorem Held.struck (h : t.Held) {p : Pipe α} (hlost : t.pipe.Loses p) (hended : p.Ended) :
    Struck t { t with pipe := p } where
  held := h.lose hlost le_rfl
  ended := hended
  dismisses := hlost.dismisses
  futures := rfl
  next := rfl

theorem Struck.since (h : Struck t t') : Since t' t' := ⟨h.held, h.ended.stays, .of_eq rfl rfl⟩

namespace Since

variable {u : Traffic α}

/-- An item that is due to a read had been handed to it before its pipe was closed by force. -/
theorem handed (h : Since t' u) (hstruck : Struck t t') {state : ReadState} {item : α}
    (hdue : due u.pipe state = some item) : Handed t state item :=
  hstruck.dismisses.handed h.stays.answered.subset hdue

/-- Nothing is due to a read that waited in the queue. -/
theorem due_parked (h : Since t' u) (hstruck : Struck t t') (ht : t.pipe.Sound) {ticket : Nat}
    (hparked : ticket ∈ t.pipe.parked.map (·.1)) : due u.pipe (.parked ticket) = none :=
  hstruck.dismisses.due_parked ht h.stays.answered.subset hparked

/-- An operation under way is known by its waker. -/
theorem future_eq (h : Since t' u) (hstruck : Struck t t') (ht : t.Held) {f' : Future α}
    (hf : t.future? id = some f) (hf' : u.future? id = some f') (hwaker : f'.waker = f.waker) :
    f' = f :=
  ((Newer.of_eq hstruck.futures hstruck.next).trans h.newer).future_eq ht hf hf' hwaker

end Since

end Traffic

end Pipework
