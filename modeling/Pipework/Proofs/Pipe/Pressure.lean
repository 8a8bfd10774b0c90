import Pipework.Proofs.Pipe.Abandoned

/-!
# Back-pressure

A write never takes a buffer beyond its capacity. Only a read that is dropped with an item in hand
does: the item goes back whether or not there is room. So

* **one item a drop** — the buffer holds at most its capacity, and one item for each read that was
  dropped into a full buffer (`Usage.overfilled`);
* **no more than waited** — where at most `n` reads have waited at once, the pipe holds at most `n`
  items beyond the capacity, whatever is dropped.

The second bound rests on the soundness of the pipe: an item is handed over only while the buffer is
empty, so whatever is there beyond the capacity was once an answer under a ticket of its own.
-/

namespace Pipework

namespace Pipe

variable {α : Type} {p p' p'' : Pipe α}

/-- The capacity stays, and nothing goes into a full buffer. -/
structure Within (p p' : Pipe α) : Prop where
  capacity : p'.capacity = p.capacity
  length : p'.buffer.length ≤ max p.capacity p.buffer.length

namespace Within

theorem of_le (capacity : p'.capacity = p.capacity) (length : p'.buffer.length ≤ p.buffer.length) :
    Within p p' :=
  ⟨capacity, le_max_of_le_right length⟩

theorem refl : Within p p := .of_le rfl le_rfl

theorem trans (h : Within p p') (h' : Within p' p'') : Within p p'' where
  capacity := h'.capacity.trans h.capacity
  length := by
    have hlength := h'.length
    rw [h.capacity] at hlength
    exact hlength.trans (max_le (le_max_left _ _) h.length)

end Within

theorem within_handOver (p : Pipe α) (item : α) : Within p (p.handOver item) := by
  unfold handOver
  split
  · exact .of_le rfl le_rfl
  · exact .refl

theorem within_block (p : Pipe α) (waker : Option Waker) : Within p (p.block waker) := by
  unfold block
  split
  · split
    · exact .refl
    · exact .of_le rfl le_rfl
  · exact .refl

/-- An item is offered to the buffer only where there is room. -/
theorem within_offer (p : Pipe α) (item : α) (waker : Option Waker) :
    Within p (p.offer item waker).2.1 := by
  obtain ⟨-, ho⟩ | ⟨-, -, ho⟩ | ⟨-, -, ⟨_, _, _, -, ho⟩ | ⟨-, hroom, ho⟩ | ⟨-, -, ho⟩⟩ :=
    p.offer_cases item waker <;> rw [ho]
  · exact .refl
  · exact .refl
  · exact p.within_handOver item
  · refine ⟨rfl, le_max_of_le_left ?_⟩
    rw [List.length_append, List.length_singleton]
    exact hroom
  · exact p.within_block waker

theorem within_pollRead (p : Pipe α) (waker : Waker) (state : ReadState) :
    Within p (p.pollRead waker state).2.2.1 := by
  obtain ⟨-, hp⟩ | ⟨_, -, ⟨_, -, hp⟩ | ⟨-, hp⟩⟩ |
    ⟨-, ⟨-, hp⟩ | ⟨-, ⟨_, _, hb, hp⟩ | ⟨-, ⟨-, hp⟩ | ⟨-, hp⟩⟩⟩⟩ :=
    p.pollRead_cases waker state <;> rw [hp]
  · exact .refl
  · exact .of_le rfl le_rfl
  · exact .of_le rfl le_rfl
  · exact .refl
  · exact .of_le rfl (by simp [hb])
  · exact .refl
  · exact .of_le rfl le_rfl

theorem within_finishWrite (p : Pipe α) : Within p p.finishWrite.2.1 := by
  unfold finishWrite
  split
  · exact .refl
  · exact .of_le rfl le_rfl

theorem within_finishRead (p : Pipe α) : Within p p.finishRead.2.1 := by
  unfold finishRead
  split
  · exact .refl
  · exact .of_le rfl (Nat.zero_le _)

theorem within_counted (p : Pipe α) (readers writers : Nat) :
    Within p { p with readers := readers, writers := writers } := .of_le rfl le_rfl

theorem within_closeWrite (p : Pipe α) : Within p p.closeWrite.2.1 := by
  obtain ⟨-, hc⟩ | ⟨-, hc⟩ | ⟨n, -, hc⟩ := p.closeWrite_cases <;> rw [hc]
  · exact .refl
  · exact (p.within_counted p.readers 0).trans (within_finishWrite _)
  · exact p.within_counted p.readers (n + 1)

theorem within_closeRead (p : Pipe α) : Within p p.closeRead.2.1 := by
  obtain ⟨-, hc⟩ | ⟨-, hc⟩ | ⟨n, -, hc⟩ := p.closeRead_cases <;> rw [hc]
  · exact .refl
  · exact (p.within_counted 0 p.writers).trans (within_finishRead _)
  · exact p.within_counted (n + 1) p.writers

theorem within_forceClose (p : Pipe α) : Within p p.forceClose.1 :=
  ((p.within_counted 0 0).trans (within_finishWrite _)).trans (within_finishRead _)

/-! ## Giving back -/

/-- An item that is given back goes into a full buffer: nobody waits for it, and somebody may still
read it. -/
def overfilled (p : Pipe α) : Bool :=
  !p.readClosed && p.parked.isEmpty && decide (p.capacity ≤ p.buffer.length)

/-- The buffer grows by one item beyond its capacity. -/
structure Beyond (p p' : Pipe α) : Prop where
  capacity : p'.capacity = p.capacity
  full : p.capacity ≤ p.buffer.length
  length : p'.buffer.length = p.buffer.length + 1

theorem restore_beyond (h : p.overfilled = true) (item : α) : Beyond p (p.restore item).1 := by
  simp only [overfilled, Bool.and_eq_true, Bool.not_eq_true', List.isEmpty_iff,
    decide_eq_true_eq] at h
  obtain ⟨⟨hr, hq⟩, hfull⟩ := h
  have hp : p.restore item = ({ p with buffer := item :: p.buffer }, []) := by
    simp [restore, hr, hq]
  rw [hp]
  exact ⟨rfl, hfull, rfl⟩

theorem restore_within (h : p.overfilled = false) (item : α) : Within p (p.restore item).1 := by
  obtain ⟨-, hp⟩ | ⟨hr, ⟨_, _, _, -, hp⟩ | ⟨hq, hp⟩⟩ := p.restore_cases item <;> rw [hp]
  · exact .refl
  · exact p.within_handOver item
  · refine ⟨rfl, le_max_of_le_left ?_⟩
    simpa [overfilled, hr, hq] using h

/-- A dropped read leaves no more in the pipe than there was. -/
theorem Sound.length_dropRead (h : p.Sound) (state : ReadState) :
    (p.dropRead state).1.stock.length ≤ p.stock.length := by
  cases hr : p.readClosed with
  | false => exact (h.perm_dropRead hr state).length_eq.le
  | true =>
    obtain ⟨-, hd⟩ | ⟨ticket, -, ⟨item, -, hd⟩ | ⟨-, hd⟩ | ⟨-, hd⟩⟩ := p.dropRead_cases state <;>
      rw [hd]
    · -- a pipe closed for reading lets the item go
      have hgone : (p.collect ticket).restore item = (p.collect ticket, []) := by
        simp [Pipe.restore, Pipe.collect, hr]
      rw [hgone]
      exact (p.sublist_collect ticket).length_le
    · exact (p.sublist_collect ticket).length_le
    · exact le_rfl

end Pipe

namespace Usage

variable {α : Type} {u : Usage α}

/-- The operation drops a read that holds an item, and the item goes into a full buffer. -/
def overfills (u : Usage α) : Use α → Bool
  | .dropRead id =>
    match (u.reads id).bind (·.state.ticket?) with
    | some ticket => (u.pipe.answer? ticket).join.isSome && (u.pipe.collect ticket).overfilled
    | none => false
  | _ => false

/-- How many of the operations do so, each where those before it have led. -/
def overfilled (u : Usage α) : List (Use α) → Nat
  | [] => 0
  | use :: uses => (u.overfills use).toNat + (u.step use).overfilled uses

/-- Only a dropped read puts anything into a full buffer. -/
theorem within_step {use : Use α} (hother : ∀ id, use ≠ .dropRead id) :
    Pipe.Within u.pipe (u.step use).pipe := by
  cases use with
  | openRead => exact .of_le rfl le_rfl
  | openWrite => exact .of_le rfl le_rfl
  | closeRead => exact u.pipe.within_closeRead
  | closeWrite => exact u.pipe.within_closeWrite
  | forceClose => exact u.pipe.within_forceClose
  | tryWrite item =>
    have hwithin := u.pipe.within_offer item none
    rw [← Pipe.tryWrite_snd] at hwithin
    simp only [step]
    rcases ht : u.pipe.tryWrite item with ⟨_ | _, p, events⟩ <;> rw [ht] at hwithin <;>
      exact hwithin
  | write id item =>
    simp only [step]
    split <;> exact .refl
  | pollWrite id waker =>
    simp only [step]
    split
    · exact .refl
    · rename_i w hw
      have hwithin := u.pipe.within_offer w.item (some waker)
      rw [← Pipe.pollWrite_snd] at hwithin
      rcases hp : u.pipe.pollWrite waker w.item with ⟨_ | _ | _, p, events⟩ <;>
        rw [hp] at hwithin <;> exact hwithin
  | dropWrite id => exact .refl
  | read id =>
    simp only [step]
    split <;> exact .refl
  | pollRead id waker =>
    simp only [step]
    split
    · exact .refl
    · rename_i r hr
      have hwithin := u.pipe.within_pollRead waker r.state
      rcases hp : u.pipe.pollRead waker r.state with ⟨_ | _, state, p, events⟩ <;>
        rw [hp] at hwithin <;> exact hwithin
  | dropRead id => exact absurd rfl (hother id)

/-- The buffer grows beyond its capacity by one item where a drop overfills it, and nowhere else. -/
theorem room_step (u : Usage α) (use : Use α) :
    (u.overfills use = true → Pipe.Beyond u.pipe (u.step use).pipe) ∧
      (u.overfills use = false → Pipe.Within u.pipe (u.step use).pipe) := by
  by_cases hdrop : ∃ id, use = .dropRead id
  · obtain ⟨id, rfl⟩ := hdrop
    cases hr : u.reads id with
    | none => simpa [overfills, step, hr] using Pipe.Within.refl
    | some r =>
      simp only [step, hr]
      change (_ → Pipe.Beyond u.pipe (u.pipe.dropRead r.state).1) ∧
        (_ → Pipe.Within u.pipe (u.pipe.dropRead r.state).1)
      obtain ⟨hs, hd⟩ | ⟨ticket, hs, ⟨item, ha, hd⟩ | ⟨ha, hd⟩ | ⟨ha, hd⟩⟩ :=
        u.pipe.dropRead_cases r.state <;> rw [hd]
      · simpa [overfills, hr, hs] using Pipe.Within.refl
      · have hsame : u.overfills (.dropRead id) = (u.pipe.collect ticket).overfilled := by
          simp [overfills, hr, hs, ReadState.ticket?, ha]
        rw [hsame]
        refine ⟨fun h => ?_, fun h => ?_⟩
        · obtain ⟨hcapacity, hfull, hlength⟩ := Pipe.restore_beyond h item
          exact ⟨hcapacity, hfull, hlength⟩
        · obtain ⟨hcapacity, hlength⟩ := Pipe.restore_within h item
          exact ⟨hcapacity, hlength⟩
      · refine ⟨by simp [overfills, hr, hs, ReadState.ticket?, ha], fun _ => .of_le rfl le_rfl⟩
      · refine ⟨by simp [overfills, hr, hs, ReadState.ticket?, ha], fun _ => .of_le rfl le_rfl⟩
  · refine ⟨fun h => ?_, fun _ => u.within_step fun id hid => hdrop ⟨id, hid⟩⟩
    cases use <;> simp [overfills] at h hdrop

theorem capacity_step (u : Usage α) (use : Use α) :
    (u.step use).pipe.capacity = u.pipe.capacity := by
  cases ho : u.overfills use with
  | true => exact ((u.room_step use).1 ho).capacity
  | false => exact ((u.room_step use).2 ho).capacity

theorem capacity_run (u : Usage α) (uses : List (Use α)) :
    (u.run uses).pipe.capacity = u.pipe.capacity := by
  induction uses generalizing u with
  | nil => rfl
  | cons use uses ih => exact (ih (u.step use)).trans (u.capacity_step use)

/-- Each overfilling drop adds one item to the bound. -/
theorem length_run_le (u : Usage α) (uses : List (Use α)) :
    (u.run uses).pipe.buffer.length ≤
      max u.pipe.capacity u.pipe.buffer.length + u.overfilled uses := by
  induction uses generalizing u with
  | nil => exact le_max_right _ _
  | cons use uses ih =>
    have hrest := ih (u.step use)
    rw [capacity_step] at hrest
    change ((u.step use).run uses).pipe.buffer.length ≤
      _ + ((u.overfills use).toNat + (u.step use).overfilled uses)
    cases ho : u.overfills use with
    | true =>
      have hbeyond := (u.room_step use).1 ho
      rw [hbeyond.length] at hrest
      have := hbeyond.full
      simp only [Bool.toNat_true]
      omega
    | false =>
      have := ((u.room_step use).2 ho).length
      simp only [Bool.toNat_false]
      omega

/-! ## The bound by the reads that wait -/

/-- An item is taken by a read that waits on an empty pipe, or into a buffer with room. -/
theorem Attended.stock_step (h : u.Attended) (use : Use α) {n : Nat}
    (hwaiting : u.pipe.tickets.length ≤ n)
    (hstock : u.pipe.stock.length ≤ u.pipe.capacity + n) :
    (u.step use).pipe.stock.length ≤ u.pipe.capacity + n := by
  have hsound := h.watched.sound
  cases u.effect_step use with
  | idle pipe => rwa [pipe]
  | handles events handled => exact handled.keeps.sublist.length_le.trans hstock
  | offer item waker pipe =>
    rw [pipe, hsound.stock_offer, List.length_append]
    have hhanded : u.pipe.handed.length + u.pipe.parked.length ≤ n := by
      have : u.pipe.handed.length ≤ u.pipe.answered.length := List.length_filterMap_le _ _
      simp only [Pipe.tickets, List.length_append, List.length_map] at hwaiting
      omega
    have hlength : u.pipe.stock.length = u.pipe.handed.length + u.pipe.buffer.length :=
      List.length_append
    obtain ⟨-, ho⟩ | ⟨-, -, ho⟩ | ⟨-, -, ⟨_, _, _, hq, ho⟩ | ⟨-, hroom, ho⟩ | ⟨-, -, ho⟩⟩ :=
      u.pipe.offer_cases item waker <;> rw [ho]
    · simpa using hstock
    · simpa using hstock
    · -- the read that takes the item waited, so its ticket was not the one of an item before
      have hb : u.pipe.buffer = [] := (hsound.parked (by simp [hq])).1
      simp only [hq, List.length_cons] at hhanded
      simp only [hlength, hb, if_true, List.length_nil, List.length_singleton]
      omega
    · simp only [hlength, if_true, List.length_singleton]
      omega
    · simpa using hstock
  | poll id r waker what read pipe =>
    rw [pipe]
    exact (u.pipe.sublist_pollRead waker r.state).length_le.trans hstock
  | drop id r what read pipe =>
    rw [pipe]
    exact (hsound.length_dropRead r.state).trans hstock

/-- At most `n` reads wait wherever the operations lead. -/
def Waiting (u : Usage α) (n : Nat) (uses : List (Use α)) : Prop :=
  ∀ before, before <+: uses → (u.run before).pipe.tickets.length ≤ n

theorem Attended.stock_run (h : u.Attended) {n : Nat} {uses : List (Use α)}
    (hwaiting : u.Waiting n uses) (hstock : u.pipe.stock.length ≤ u.pipe.capacity + n) :
    (u.run uses).pipe.stock.length ≤ u.pipe.capacity + n := by
  induction uses generalizing u with
  | nil => exact hstock
  | cons use uses ih =>
    have hnow : u.pipe.tickets.length ≤ n := hwaiting [] (List.nil_prefix)
    have hrest : (u.step use).Waiting n uses := fun before hbefore =>
      hwaiting (use :: before) (List.cons_prefix_cons.mpr ⟨rfl, hbefore⟩)
    have hstep := h.stock_step use hnow hstock
    rw [← capacity_step u use] at hstep
    exact (ih (h.step use) hrest hstep).trans_eq (by rw [capacity_step])

/-! ## The theorem -/

/-- Whoever uses a pipe and in whatever order, the buffer holds at most its capacity, and one item
for each read that was dropped, holding an item, while the buffer was full; no other operation takes
the buffer beyond the capacity. Where at most `n` reads wait at once, the buffer and the answered
reads hold at most `n` items beyond the capacity. -/
theorem buffer_bounded (name : String) (capacity : Nat) (uses : List (Use α)) :
    let start : Usage α := create name capacity
    let u := start.run uses
    u.pipe.buffer.length ≤ max capacity 1 + start.overfilled uses ∧
    (∀ use, u.overfills use = true ↔ u.pipe.buffer.length < (u.step use).pipe.buffer.length ∧
      max capacity 1 < (u.step use).pipe.buffer.length) ∧
    ∀ n, start.Waiting n uses →
      u.pipe.handed.length + u.pipe.buffer.length ≤ max capacity 1 + n := by
  intro start u
  have hcapacity : u.pipe.capacity = max capacity 1 := start.capacity_run uses
  have hroom : max start.pipe.capacity start.pipe.buffer.length = max capacity 1 := Nat.max_zero _
  refine ⟨hroom ▸ start.length_run_le uses, fun use => ⟨fun ho => ?_, fun ⟨hgrows, hbeyond⟩ => ?_⟩,
    fun n hwaiting => ?_⟩
  · obtain ⟨-, hfull, hlength⟩ := (u.room_step use).1 ho
    omega
  · by_contra ho
    have hwithin := ((u.room_step use).2 (Bool.not_eq_true _ ▸ ho)).length
    omega
  · have hstart : start.Attended := attended_create name capacity
    have hstock := hstart.stock_run hwaiting (Nat.zero_le _)
    rwa [Pipe.stock, List.length_append] at hstock

/-- Two reads are answered and dropped once the buffer is full again: both bounds are met. -/
theorem buffer_bounded_two :
    let uses : List (Use Nat) := [.read 0, .pollRead 0 .main, .read 1, .pollRead 1 .main,
      .tryWrite 1, .tryWrite 2, .tryWrite 3, .dropRead 0, .dropRead 1]
    let u := (create "numbers" 1).run uses
    u.pipe.buffer.length = 3 ∧ (create "numbers" 1).overfilled uses = 2 ∧
      u.pipe.buffer.length ≤ 1 + 2 := by
  intro uses u
  have hdrops : (create "numbers" 1).overfilled uses = 2 := by decide
  exact ⟨by decide, hdrops, hdrops ▸ (buffer_bounded "numbers" 1 uses).1⟩

/-- A buffer for one item holds two after one read has been dropped. -/
theorem buffer_bounded_exceeded :
    ¬ ∀ uses : List (Use Nat),
      ((create "numbers" 1).run uses).pipe.buffer.length ≤ max 1 1 := by
  intro h
  have htwo : ((create "numbers" 1).run [.read 0, .pollRead 0 .main, .tryWrite 1, .tryWrite 2,
      .dropRead 0]).pipe.buffer.length = 2 := by decide
  have := h [.read 0, .pollRead 0 .main, .tryWrite 1, .tryWrite 2, .dropRead 0]
  omega

end Usage

end Pipework
