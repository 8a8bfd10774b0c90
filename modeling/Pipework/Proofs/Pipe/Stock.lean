import Pipework.Proofs.Pipe.Sound

/-!
# What a pipe holds for its reader

`Pipe.stock` is what has gone into a pipe and has not come out, oldest first: an item handed to a
parked read and not collected yet comes before what is buffered. While one read waits at a time
(`Pipe.Single`) the stock is a queue:

* an accepted item goes to its end (`stock_offer`), and a read takes its head (`stock_pollRead`);
* an abandoned read gives its item back to the head (`stock_dropRead`);
* closing for writing keeps it, closing for reading drops what is buffered (`stock_finishRead`);
* a read meets the end of data only when nothing is left and a side has closed.
-/

namespace Pipework

namespace Pipe

variable {α : Type}

/-- What has gone in and has not come out, oldest first. -/
def stock (p : Pipe α) : List α := p.answered.filterMap (·.2) ++ p.buffer

/-- A pipe on which one read waits at a time. -/
structure Single (p : Pipe α) : Prop where
  sound : p.Sound
  /-- One read waits, or none. -/
  one : p.tickets.length ≤ 1
  /-- A read is answered with the end of data only when nothing more will come. -/
  ended : ∀ ticket, (ticket, none) ∈ p.answered →
    (p.readClosed = true ∨ p.writeClosed = true) ∧ p.buffer = []

/-- What becomes of the stock of a pipe that may lose some of its end when it is closed for
reading. -/
def Keeps (p p' : Pipe α) : Prop :=
  ∃ lost, p.stock = p'.stock ++ lost ∧ (p'.readClosed = false → lost = [])

theorem Keeps.of_eq {p p' : Pipe α} (h : p'.stock = p.stock) : Keeps p p' :=
  ⟨[], by simp [h], fun _ => rfl⟩

theorem single_create (name : String) (capacity : Nat) :
    (create name capacity : Pipe α × List Event).1.Single where
  sound := sound_create name capacity
  one := by simp [create, tickets]
  ended := by simp [create]

namespace Single

variable {p : Pipe α}

/-- An operation that touches neither reads nor items nor sides. -/
theorem of_eq (h : p.Single) {p' : Pipe α} (hsound : p'.Sound) (parked : p'.parked = p.parked)
    (answered : p'.answered = p.answered) (buffer : p'.buffer = p.buffer)
    (readClosed : p'.readClosed = p.readClosed) (writeClosed : p'.writeClosed = p.writeClosed) :
    p'.Single where
  sound := hsound
  one := by
    have := h.one
    rwa [tickets, parked, answered]
  ended ticket ht := by
    rw [readClosed, writeClosed, buffer]
    exact h.ended ticket (answered ▸ ht)

theorem openRead (h : p.Single) : p.openRead.1.Single := h.of_eq h.sound.openRead rfl rfl rfl rfl rfl

theorem openWrite (h : p.Single) : p.openWrite.1.Single :=
  h.of_eq h.sound.openWrite rfl rfl rfl rfl rfl

theorem addWriteCallback (h : p.Single) (label : Nat) : (p.addWriteCallback label).1.Single := by
  have hsound := h.sound.addWriteCallback label
  unfold Pipe.addWriteCallback at hsound ⊢
  split
  · exact h
  · rename_i hopen
    rw [if_neg hopen] at hsound
    exact h.of_eq hsound rfl rfl rfl rfl rfl

/-- While a read is parked no answer waits. -/
theorem answered_eq_nil (h : p.Single) (hparked : p.parked ≠ []) : p.answered = [] := by
  have hone := h.one
  have hpos := List.length_pos_iff.mpr hparked
  simp only [tickets, List.length_append, List.length_map] at hone
  exact List.length_eq_zero_iff.mp (by omega)

theorem stock_eq_nil (h : p.Single) (hparked : p.parked ≠ []) : p.stock = [] := by
  simp [stock, h.answered_eq_nil hparked, (h.sound.parked hparked).1]

/-! ## Writing -/

theorem handOver (h : p.Single) (item : α) : (p.handOver item).Single where
  sound := h.sound.handOver item
  one := (p.tickets_handOver item).length_eq.trans_le h.one
  ended ticket ht := by
    have hended := h.ended ticket
    unfold Pipe.handOver at ht ⊢
    split at ht
    · exact hended (by simpa using ht)
    · exact hended ht

theorem stock_handOver (h : p.Single) {ticket : Nat} {w : Waker} {rest : List (Nat × Waker)}
    (hq : p.parked = (ticket, w) :: rest) (item : α) : (p.handOver item).stock = [item] := by
  have hne : p.parked ≠ [] := by simp [hq]
  simp [Pipe.handOver, hq, stock, h.answered_eq_nil hne, (h.sound.parked hne).1]

theorem stock_block (p : Pipe α) (waker : Option Waker) : (p.block waker).stock = p.stock := by
  unfold block
  split
  · split <;> rfl
  · rfl

theorem block (h : p.Single) (hfull : p.capacity ≤ p.buffer.length) (hr : p.readClosed = false)
    (hw : p.writeClosed = false) (waker : Option Waker) : (p.block waker).Single := by
  have hsound := h.sound.block hfull hr hw waker
  unfold Pipe.block at hsound ⊢
  split at hsound
  · split at hsound
    · rename_i hw
      simpa only [hw, if_true] using h
    · rename_i hw
      simp only [if_neg hw]
      exact h.of_eq hsound rfl rfl rfl rfl rfl
  · exact h

theorem offer (h : p.Single) (item : α) (waker : Option Waker) :
    (p.offer item waker).2.1.Single := by
  obtain ⟨-, ho⟩ | ⟨-, -, ho⟩ | ⟨hr, hw, ho⟩ := p.offer_cases item waker
  · rw [ho]; exact h
  · rw [ho]; exact h
  · obtain ⟨_, _, _, -, ho⟩ | ⟨-, -, ho⟩ | ⟨-, hfull, ho⟩ := ho
    · rw [ho]; exact h.handOver item
    · refine ⟨h.sound.offer item waker, ?_, ?_⟩
      · rw [ho]; exact h.one
      · rw [ho]
        intro ticket ht
        have := (h.ended ticket ht).1
        simp [hr, hw] at this
    · rw [ho]; exact h.block hfull hr hw waker

/-- An item that is taken goes to the end of the stock; else the stock stays. -/
theorem stock_offer (h : p.Single) (item : α) (waker : Option Waker) :
    (p.offer item waker).2.1.stock =
      p.stock ++ if (p.offer item waker).1 = .accepted then [item] else [] := by
  obtain ⟨-, ho⟩ | ⟨-, -, ho⟩ | ⟨-, -, ho⟩ := p.offer_cases item waker
  · simp [ho]
  · simp [ho]
  · obtain ⟨_, _, _, hq, ho⟩ | ⟨-, -, ho⟩ | ⟨-, -, ho⟩ := ho
    · simp [ho, h.stock_handOver hq, h.stock_eq_nil (by simp [hq])]
    · simp [ho, stock]
    · simp [ho, stock_block]

theorem open_of_accepted (p : Pipe α) (item : α) (waker : Option Waker)
    (ho : (p.offer item waker).1 = .accepted) : p.readClosed = false := by
  obtain ⟨-, hp⟩ | ⟨hr, -⟩ | ⟨hr, -⟩ := p.offer_cases item waker
  · simp [hp] at ho
  · exact hr
  · exact hr

/-! ## Reading -/

/-- The only waiting read holds the only ticket. -/
theorem answered_of_answer (h : p.Single) {ticket : Nat} {item : Option α}
    (ha : p.answer? ticket = some item) : p.parked = [] ∧ p.answered = [(ticket, item)] := by
  obtain ⟨⟨ticket', _⟩, hfound, rfl⟩ := Option.map_eq_some_iff.mp ha
  have hticket : ticket' = ticket := by simpa using List.find?_some hfound
  subst hticket
  have hmem := List.mem_of_find?_eq_some hfound
  have hone := h.one
  have hpos := List.length_pos_of_mem hmem
  simp only [tickets, List.length_append, List.length_map] at hone
  obtain ⟨e, he⟩ := List.length_eq_one_iff.mp (show p.answered.length = 1 by omega)
  have hparked : p.parked = [] := List.length_eq_zero_iff.mp (by omega)
  rw [he, List.mem_singleton] at hmem
  exact ⟨hparked, by rw [he, hmem]⟩

theorem collect (h : p.Single) (ticket : Nat) : (p.collect ticket).Single where
  sound := h.sound.collect ticket
  one := (p.tickets_collect ticket).length_le.trans h.one
  ended ticket' ht := h.ended ticket' (List.mem_of_mem_filter ht)

/-- After the answer has been collected no read waits. -/
theorem collect_eq (h : p.Single) {ticket : Nat} {item : Option α}
    (ha : p.answer? ticket = some item) : p.collect ticket = { p with answered := [] } := by
  simp [Pipe.collect, (h.answered_of_answer ha).2]

theorem tickets_collect_eq_nil (h : p.Single) {ticket : Nat} {item : Option α}
    (ha : p.answer? ticket = some item) : (p.collect ticket).tickets = [] := by
  simp [h.collect_eq ha, tickets, (h.answered_of_answer ha).1]

theorem stock_collect (h : p.Single) {ticket : Nat} {item : Option α}
    (ha : p.answer? ticket = some item) : p.stock = item.toList ++ (p.collect ticket).stock := by
  cases item <;> simp [h.collect_eq ha, stock, (h.answered_of_answer ha).2]

theorem rewake (h : p.Single) (ticket : Nat) (waker : Waker) : (p.rewake ticket waker).Single where
  sound := h.sound.rewake ticket waker
  one := by
    have := h.one
    rwa [tickets, map_fst_rewake]
  ended := h.ended

/-- A read that nobody else's ticket stands before is polled. -/
theorem pollRead (h : p.Single) (waker : Waker) {state : ReadState}
    (hheld : p.tickets = state.ticket?.toList) : (p.pollRead waker state).2.2.1.Single := by
  have hsound := h.sound.pollRead waker state
  obtain ⟨-, hp⟩ | ⟨ticket, -, hp⟩ | ⟨rfl, hp⟩ := p.pollRead_cases waker state
  · rw [hp]; exact h
  · obtain ⟨_, -, hp⟩ | ⟨-, hp⟩ := hp
    · rw [hp]; exact h.collect ticket
    · rw [hp]; exact h.rewake ticket waker
  · obtain ⟨-, hp⟩ | ⟨-, ⟨item, rest, hb, hp⟩ | ⟨-, ⟨-, hp⟩ | ⟨-, hp⟩⟩⟩ := hp
    · rw [hp]; exact h
    · rw [hp] at hsound ⊢
      exact ⟨hsound, h.one, fun ticket ht => absurd (h.ended ticket ht).2 (by simp [hb])⟩
    · rw [hp]; exact h
    · rw [hp] at hsound ⊢
      refine ⟨hsound, ?_, h.ended⟩
      rw [(p.tickets_park waker).length_eq, hheld]
      rfl

/-- The tickets after the only read has been polled. -/
theorem tickets_pollRead (h : p.Single) (waker : Waker) {state : ReadState}
    (hheld : p.tickets = state.ticket?.toList) :
    (p.pollRead waker state).2.2.1.tickets = (p.pollRead waker state).2.1.ticket?.toList := by
  obtain ⟨rfl, hp⟩ | ⟨ticket, rfl, hp⟩ | ⟨rfl, hp⟩ := p.pollRead_cases waker state
  · rw [hp]; exact hheld
  · obtain ⟨_, ha, hp⟩ | ⟨-, hp⟩ := hp
    · rw [hp]; exact h.tickets_collect_eq_nil ha
    · rw [hp, ← hheld]
      exact congrArg (· ++ _) (p.map_fst_rewake ticket waker)
  · obtain ⟨-, hp⟩ | ⟨-, ⟨item, rest, hb, hp⟩ | ⟨-, ⟨-, hp⟩ | ⟨-, hp⟩⟩⟩ := hp
    · rw [hp]; exact hheld
    · rw [hp]; exact hheld
    · rw [hp]; exact hheld
    · rw [hp]
      have hperm := p.tickets_park waker
      rw [hheld] at hperm
      exact List.perm_singleton.mp hperm

/-- A read takes the head of the stock. -/
theorem stock_pollRead (h : p.Single) (waker : Waker) {state : ReadState}
    (hheld : p.tickets = state.ticket?.toList) (hstate : state ≠ .finished) :
    match (p.pollRead waker state).1 with
    | .ready (some item) => p.stock = item :: (p.pollRead waker state).2.2.1.stock
    | .ready none => p.stock = [] ∧ (p.pollRead waker state).2.2.1.stock = [] ∧
        (p.readClosed = true ∨ p.writeClosed = true)
    | .pending => p.stock = [] ∧ (p.pollRead waker state).2.2.1.stock = [] := by
  obtain ⟨rfl, -⟩ | ⟨ticket, rfl, hp⟩ | ⟨rfl, hp⟩ := p.pollRead_cases waker state
  · exact absurd rfl hstate
  · obtain ⟨item, ha, hp⟩ | ⟨ha, hp⟩ := hp
    · have hstock := h.stock_collect ha
      rw [hp]
      cases item with
      | some item => exact hstock
      | none =>
        have hended := h.ended ticket (by simp [(h.answered_of_answer ha).2])
        have hempty : (p.collect ticket).stock = [] := by simp [h.collect_eq ha, stock, hended.2]
        exact ⟨by simpa [hempty] using hstock, hempty, hended.1⟩
    · -- the ticket is not that of an answer, hence parked
      have hparked : p.parked ≠ [] := by
        intro hq
        simp only [answer?, Option.map_eq_none_iff, List.find?_eq_none] at ha
        have hmem : ticket ∈ p.answered.map (·.1) := by
          have hheld : p.answered.map (·.1) = [ticket] := by
            simpa only [tickets, hq, List.map_nil, List.nil_append, ReadState.ticket?,
              Option.toList_some] using hheld
          rw [hheld]
          exact List.mem_singleton_self _
        obtain ⟨e, he, het⟩ := List.mem_map.mp hmem
        exact absurd (by simpa using het) (ha e he)
      rw [hp]
      exact ⟨h.stock_eq_nil hparked, h.stock_eq_nil hparked⟩
  · have hanswered : p.answered = [] := by
      have : p.answered.map (·.1) = [] := (List.append_eq_nil_iff.mp hheld).2
      simpa using this
    have hstock : p.stock = p.buffer := by simp [stock, hanswered]
    obtain ⟨hr, hp⟩ | ⟨-, ⟨item, rest, hb, hp⟩ | ⟨hb, ⟨hw, hp⟩ | ⟨-, hp⟩⟩⟩ := hp
    · rw [hp]
      have hempty := h.sound.dropped hr
      exact ⟨hstock.trans hempty, hstock.trans hempty, .inl hr⟩
    · simp [hp, stock, hanswered, hb]
    · rw [hp]
      exact ⟨hstock.trans hb, hstock.trans hb, .inr hw⟩
    · simp [hp, stock, hanswered, hb]

/-- Without a ticket in use nothing stands before an item that is given back. -/
theorem restore (h : p.Single) (hnone : p.tickets = []) (item : α) : (p.restore item).1.Single := by
  have hsound := h.sound.restore item
  have hanswered : p.answered = [] := by
    have : p.answered.map (·.1) = [] := (List.append_eq_nil_iff.mp hnone).2
    simpa using this
  obtain ⟨-, hp⟩ | ⟨-, ⟨_, _, _, -, hp⟩ | ⟨-, hp⟩⟩ := p.restore_cases item
  · rw [hp]; exact h
  · rw [hp]; exact h.handOver item
  · rw [hp] at hsound ⊢
    exact ⟨hsound, h.one, by simp [hanswered]⟩

theorem stock_restore (hnone : p.tickets = []) (item : α) :
    (p.restore item).1.readClosed = p.readClosed ∧
      (p.restore item).1.stock = if p.readClosed then p.stock else item :: p.stock := by
  obtain ⟨hq, ha⟩ := List.append_eq_nil_iff.mp hnone
  have hq : p.parked = [] := by simpa using hq
  have ha : p.answered = [] := by simpa using ha
  obtain ⟨hr, hp⟩ | ⟨hr, ⟨_, _, _, hcons, -⟩ | ⟨-, hp⟩⟩ := p.restore_cases item
  · simp [hp, hr]
  · simp [hq] at hcons
  · simp [hp, hr, stock, ha]

theorem unpark (h : p.Single) (ticket : Nat) :
    ({ p with parked := p.parked.filter (·.1 != ticket) } : Pipe α).Single where
  sound := h.sound.unpark ticket
  one := (p.tickets_unpark ticket).length_le.trans h.one
  ended := h.ended

theorem dropRead (h : p.Single) (state : ReadState) : (p.dropRead state).1.Single := by
  obtain ⟨-, hd⟩ | ⟨ticket, -, ⟨item, ha, hd⟩ | ⟨-, hd⟩ | ⟨-, hd⟩⟩ := p.dropRead_cases state
  · rw [hd]; exact h
  · rw [hd]; exact (h.collect ticket).restore (h.tickets_collect_eq_nil ha) item
  · rw [hd]; exact h.collect ticket
  · rw [hd]; exact h.unpark ticket

/-- An abandoned read gives its item back to the head of the stock, unless the pipe is closed for
reading. -/
theorem keeps_dropRead (h : p.Single) (state : ReadState) : Keeps p (p.dropRead state).1 := by
  obtain ⟨-, hd⟩ | ⟨ticket, -, ⟨item, ha, hd⟩ | ⟨ha, hd⟩ | ⟨-, hd⟩⟩ := p.dropRead_cases state
  · rw [hd]; exact .of_eq rfl
  · rw [hd]
    obtain ⟨hclosed, hstock⟩ := stock_restore (h.tickets_collect_eq_nil ha) item
    have hcollect := h.stock_collect ha
    cases hr : p.readClosed with
    | false =>
      rw [show (p.collect ticket).readClosed = false from hr] at hstock
      exact .of_eq (by simpa [hcollect] using hstock)
    | true =>
      rw [show (p.collect ticket).readClosed = true from hr] at hstock hclosed
      refine ⟨[item], ?_, fun hopen => absurd (hclosed.symm.trans hopen) (by simp)⟩
      have hempty : (p.collect ticket).stock = [] := by
        simp [h.collect_eq ha, stock, h.sound.dropped hr]
      rw [if_pos rfl, hempty] at hstock
      simp [hstock, hcollect, hempty]
  · rw [hd]
    exact .of_eq (by simpa using (h.stock_collect ha).symm)
  · rw [hd]; exact .of_eq rfl

/-- Once the only read has been abandoned nobody waits. -/
theorem tickets_dropRead (h : p.Single) {state : ReadState}
    (hheld : p.tickets = state.ticket?.toList) : (p.dropRead state).1.tickets = [] := by
  obtain ⟨hs, hd⟩ | ⟨ticket, rfl, ⟨item, ha, hd⟩ | ⟨ha, hd⟩ | ⟨ha, hd⟩⟩ := p.dropRead_cases state
  · rw [hd, hheld, hs]; rfl
  · rw [hd]
    have hsub := (noneJoins_restore (p.collect ticket) item).tickets
    rw [h.tickets_collect_eq_nil ha] at hsub
    exact List.subset_nil.mp hsub
  · rw [hd]; exact h.tickets_collect_eq_nil ha
  · rw [hd]
    refine List.eq_nil_iff_forall_not_mem.mpr fun t ht => ?_
    have hticket : t = ticket := by
      have := (p.tickets_unpark ticket).subset ht
      rw [hheld] at this
      exact List.mem_singleton.mp this
    rw [hticket] at ht
    rcases List.mem_append.mp ht with ht | ht
    · obtain ⟨e, he, het⟩ := List.mem_map.mp ht
      simp [het] at he
    · obtain ⟨e, he, het⟩ := List.mem_map.mp ht
      simp only [answer?, Option.map_eq_none_iff, List.find?_eq_none] at ha
      exact absurd (by simpa using het) (ha e he)

/-! ## Closing -/

theorem mem_endParked {ticket : Nat} (ht : (ticket, none) ∈ p.endParked.answered) :
    (ticket, none) ∈ p.answered ∨ p.parked ≠ [] := by
  rcases List.mem_append.mp ht with ht | ht
  · exact .inl ht
  · obtain ⟨e, he, -⟩ := List.mem_map.mp ht
    exact .inr (List.ne_nil_of_mem he)

theorem finishWrite (h : p.Single) : p.finishWrite.2.1.Single := by
  have hsound := h.sound.finishWrite
  unfold Pipe.finishWrite at hsound ⊢
  split
  · exact h
  · rename_i hopen
    rw [if_neg hopen] at hsound
    refine ⟨hsound, p.tickets_endParked.length_eq.trans_le h.one, fun ticket ht => ⟨.inr rfl, ?_⟩⟩
    rcases mem_endParked ht with ht | hparked
    · exact (h.ended ticket ht).2
    · exact (h.sound.parked hparked).1

theorem finishRead (h : p.Single) : p.finishRead.2.1.Single := by
  have hsound := h.sound.finishRead
  unfold Pipe.finishRead at hsound ⊢
  split
  · exact h
  · rename_i hopen
    rw [if_neg hopen] at hsound
    exact ⟨hsound, p.tickets_endParked.length_eq.trans_le h.one, fun _ _ => ⟨.inl rfl, rfl⟩⟩

theorem counted (h : p.Single) (readers writers : Nat) :
    ({ p with readers := readers, writers := writers } : Pipe α).Single :=
  h.of_eq (h.sound.counted readers writers) rfl rfl rfl rfl rfl

theorem closeWrite (h : p.Single) : p.closeWrite.2.1.Single := by
  obtain ⟨-, hc⟩ | ⟨-, hc⟩ | ⟨n, -, hc⟩ := p.closeWrite_cases
  · rw [hc]; exact h
  · rw [hc]; exact (h.counted p.readers 0).finishWrite
  · rw [hc]; exact h.counted p.readers (n + 1)

theorem closeRead (h : p.Single) : p.closeRead.2.1.Single := by
  obtain ⟨-, hc⟩ | ⟨-, hc⟩ | ⟨n, -, hc⟩ := p.closeRead_cases
  · rw [hc]; exact h
  · rw [hc]; exact (h.counted 0 p.writers).finishRead
  · rw [hc]; exact h.counted (n + 1) p.writers

theorem forceClose (h : p.Single) : p.forceClose.1.Single := (h.counted 0 0).finishWrite.finishRead

end Single

theorem filterMap_endParked (p : Pipe α) :
    p.endParked.answered.filterMap (·.2) = p.answered.filterMap (·.2) := by
  simp [endParked, List.filterMap_append, List.filterMap_map]

theorem stock_finishWrite (p : Pipe α) : p.finishWrite.2.1.stock = p.stock := by
  unfold finishWrite
  split
  · rfl
  · simp [stock, filterMap_endParked]
    rfl

theorem keeps_finishRead (p : Pipe α) : Keeps p p.finishRead.2.1 := by
  unfold finishRead
  split
  · exact .of_eq rfl
  · exact ⟨p.buffer, by simp [stock, filterMap_endParked], by simp⟩

theorem stock_closeWrite (p : Pipe α) : p.closeWrite.2.1.stock = p.stock := by
  obtain ⟨-, hc⟩ | ⟨-, hc⟩ | ⟨n, -, hc⟩ := p.closeWrite_cases
  · rw [hc]
  · rw [hc, stock_finishWrite]; rfl
  · rw [hc]; rfl

theorem keeps_closeRead (p : Pipe α) : Keeps p p.closeRead.2.1 := by
  obtain ⟨-, hc⟩ | ⟨-, hc⟩ | ⟨n, -, hc⟩ := p.closeRead_cases
  · rw [hc]; exact .of_eq rfl
  · rw [hc]
    obtain ⟨lost, hlost, hopen⟩ := keeps_finishRead { p with readers := 0 }
    exact ⟨lost, hlost, hopen⟩
  · rw [hc]; exact .of_eq rfl

theorem keeps_forceClose (p : Pipe α) : Keeps p p.forceClose.1 := by
  obtain ⟨lost, hlost, hopen⟩ := keeps_finishRead
    ({ p with readers := 0, writers := 0 } : Pipe α).finishWrite.2.1
  rw [stock_finishWrite] at hlost
  exact ⟨lost, hlost, hopen⟩

end Pipe

end Pipework
