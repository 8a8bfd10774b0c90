import Pipework.Proofs.Pipe.Conservation
import Pipework.Proofs.Pipe.Order

/-!
# Abandoned reads

A read that is dropped after it has been answered gives its item back to the head of the buffer,
whatever else has been handed out meanwhile. Hence:

* **newest first** — when reads that hold items are dropped in the reverse of the order in which
  they were answered, what is left in the pipe stays in the order of acceptance, and reads that wait
  one at a time return it in that order;
* **oldest first** — two items come back in the wrong order;
* **the end of data** — a read that meets it while the reading side is open tells that the writing
  side has closed; it is final if no answered read holds an item then, and else that item may still
  come back.
-/

namespace Pipework

namespace Pipe

variable {α : Type}

/-! ## Order -/

/-- No answer with an item is younger than the one under a ticket. -/
def Youngest (p : Pipe α) (ticket : Nat) : Prop :=
  ((p.answered.dropWhile (·.1 != ticket)).drop 1).filterMap (·.2) = []

theorem sublist_collect (p : Pipe α) (ticket : Nat) :
    (p.collect ticket).stock.Sublist p.stock :=
  (List.filter_sublist.filterMap _).append (List.Sublist.refl _)

theorem sublist_pollRead (p : Pipe α) (waker : Waker) (state : ReadState) :
    (p.pollRead waker state).2.2.1.stock.Sublist p.stock := by
  obtain ⟨-, hp⟩ | ⟨ticket, -, ⟨_, -, hp⟩ | ⟨-, hp⟩⟩ |
    ⟨-, ⟨-, hp⟩ | ⟨-, ⟨item, rest, hb, hp⟩ | ⟨-, ⟨-, hp⟩ | ⟨-, hp⟩⟩⟩⟩ :=
    p.pollRead_cases waker state <;> rw [hp]
  · exact p.sublist_collect ticket
  · exact .refl _
  · simp only [stock, hb]
    exact (List.Sublist.refl _).append (List.sublist_cons_self item rest)
  · exact .refl _

/-- The item of the youngest answer goes back to where it was. -/
theorem Sound.sublist_dropRead {p : Pipe α} (h : p.Sound) {state : ReadState}
    (hyoungest : ∀ ticket, state = .parked ticket → p.Youngest ticket) :
    (p.dropRead state).1.stock.Sublist p.stock := by
  obtain ⟨-, hd⟩ | ⟨ticket, rfl, ⟨item, ha, hd⟩ | ⟨-, hd⟩ | ⟨-, hd⟩⟩ := p.dropRead_cases state <;>
    rw [hd]
  · obtain ⟨before, later, hsplit, hbefore, hrest⟩ := h.split_answer ha
    have hlater : later.filterMap (·.2) = [] := by
      have hyounger := hyoungest ticket rfl
      rwa [Youngest, hsplit, List.dropWhile_append_of_pos fun a ha => bne_iff_ne.mpr (hbefore a ha),
        List.dropWhile_cons_of_neg (by simp), List.drop_one, List.tail_cons] at hyounger
    have hstock : p.stock = before.filterMap (·.2) ++ [item] ++ p.buffer := by
      simp [stock, hsplit, hlater]
    have hcollect : (p.collect ticket).stock = before.filterMap (·.2) ++ p.buffer := by
      rw [stock, hrest, List.filterMap_append, hlater, List.append_nil]
      rfl
    obtain ⟨-, hr⟩ | ⟨-, ⟨_, _, _, hq, hr⟩ | ⟨-, hr⟩⟩ := (p.collect ticket).restore_cases item <;>
      rw [hr]
    · exact p.sublist_collect ticket
    · have hb : p.buffer = [] := ((h.collect ticket).parked (by simp [hq])).1
      rw [(h.collect ticket).stock_handOver hq, hcollect, hstock, hb]
      simp
    · rw [hstock, List.append_assoc]
      simp only [stock, hrest, List.filterMap_append, hlater, List.append_nil]
      exact .refl _
  · exact p.sublist_collect ticket
  · exact .refl _

theorem Keeps.sublist {p p' : Pipe α} (h : Keeps p p') : p'.stock.Sublist p.stock := by
  obtain ⟨lost, hlost, -⟩ := h
  rw [hlost]
  exact List.sublist_append_left _ _

/-! ## The end of data -/

/-- The end of data is the answer of a pipe that has closed. -/
def Told (p : Pipe α) : Prop :=
  ∀ ticket, (ticket, none) ∈ p.answered → p.readClosed = true ∨ p.writeClosed = true

/-- Handing an item over tells nobody the end of data. -/
theorem told_handOver {p : Pipe α} (h : p.Told) (item : α) : (p.handOver item).Told := by
  unfold handOver
  split
  · intro ticket ht
    rcases List.mem_append.mp ht with ht | ht
    · exact h ticket ht
    · simp at ht
  · exact h

theorem told_offer {p : Pipe α} (h : p.Told) (item : α) (waker : Option Waker) :
    (p.offer item waker).2.1.Told := by
  obtain ⟨-, ho⟩ | ⟨-, -, ho⟩ | ⟨-, -, ⟨_, _, _, -, ho⟩ | ⟨-, -, ho⟩ | ⟨-, -, ho⟩⟩ :=
    p.offer_cases item waker <;> rw [ho]
  · exact h
  · exact h
  · exact told_handOver h item
  · exact h
  · unfold block
    split
    · split <;> exact h
    · exact h

theorem told_collect {p : Pipe α} (h : p.Told) (ticket : Nat) : (p.collect ticket).Told :=
  fun t ht => h t (List.mem_of_mem_filter ht)

theorem told_pollRead {p : Pipe α} (h : p.Told) (waker : Waker) (state : ReadState) :
    (p.pollRead waker state).2.2.1.Told := by
  obtain ⟨-, hp⟩ | ⟨ticket, -, ⟨_, -, hp⟩ | ⟨-, hp⟩⟩ |
    ⟨-, ⟨-, hp⟩ | ⟨-, ⟨_, _, -, hp⟩ | ⟨-, ⟨-, hp⟩ | ⟨-, hp⟩⟩⟩⟩ :=
    p.pollRead_cases waker state <;> rw [hp]
  · exact h
  · exact told_collect h ticket
  · exact h
  · exact h
  · exact h
  · exact h
  · exact h

theorem told_dropRead {p : Pipe α} (h : p.Told) (state : ReadState) : (p.dropRead state).1.Told := by
  obtain ⟨-, hd⟩ | ⟨ticket, -, ⟨item, -, hd⟩ | ⟨-, hd⟩ | ⟨-, hd⟩⟩ := p.dropRead_cases state <;>
    rw [hd]
  · exact h
  · have hcollect := told_collect h ticket
    obtain ⟨-, hr⟩ | ⟨-, ⟨_, _, _, -, hr⟩ | ⟨-, hr⟩⟩ := (p.collect ticket).restore_cases item <;>
      rw [hr]
    · exact hcollect
    · exact told_handOver hcollect item
    · exact hcollect
  · exact told_collect h ticket
  · exact h

/-- Who meets the end of data has met a closed side. -/
theorem closed_of_end {p : Pipe α} (h : p.Told) {waker : Waker} {state : ReadState}
    (hlive : state ≠ .finished) (hend : (p.pollRead waker state).1 = .ready none) :
    p.readClosed = true ∨ p.writeClosed = true := by
  obtain ⟨hover, -⟩ | ⟨ticket, -, ⟨_, ha, hp⟩ | ⟨-, hp⟩⟩ |
    ⟨-, ⟨hr, -⟩ | ⟨-, ⟨_, _, -, hp⟩ | ⟨-, ⟨hw, -⟩ | ⟨-, hp⟩⟩⟩⟩ := p.pollRead_cases waker state
  · exact absurd hover hlive
  · obtain rfl : _ = none := by simpa [hp] using hend
    obtain ⟨e, hfound, he⟩ := Option.map_eq_some_iff.mp ha
    exact h e.1 (he ▸ List.mem_of_find?_eq_some hfound)
  · simp [hp] at hend
  · exact .inl hr
  · simp [hp] at hend
  · exact .inr hw
  · simp [hp] at hend

/-- Nothing is accepted after the writing side has closed. -/
theorem refused_of_writeClosed {p : Pipe α} (hclosed : p.writeClosed = true) (item : α)
    (waker : Option Waker) : (p.offer item waker).1 ≠ .accepted := by
  obtain ⟨-, ho⟩ | ⟨-, -, ho⟩ | ⟨-, hopen, -⟩ := p.offer_cases item waker
  · simp [ho]
  · simp [ho]
  · exact absurd (hopen.symm.trans hclosed) (by simp)

end Pipe

namespace Usage

variable {α : Type} {u : Usage α}

/-- Reads that hold items are dropped newest first. -/
def NewestFirst (u : Usage α) : List (Use α) → Prop
  | [] => True
  | .dropRead id :: uses =>
    (∀ r ticket, u.reads id = some r → r.state = .parked ticket → u.pipe.Youngest ticket) ∧
      (u.step (.dropRead id)).NewestFirst uses
  | use :: uses => (u.step use).NewestFirst uses

/-- The invariant: what is left in the pipe stands in the order of acceptance. -/
structure InOrder (u : Usage α) : Prop where
  attended : u.Attended
  order : u.pipe.stock.Sublist u.accepted

theorem InOrder.step (h : u.InOrder) (use : Use α)
    (hnewest : ∀ id, use = .dropRead id → ∀ r ticket, u.reads id = some r →
      r.state = .parked ticket → u.pipe.Youngest ticket) : (u.step use).InOrder where
  attended := h.attended.step use
  order := by
    cases u.effect_step use with
    | idle pipe accepted => rw [pipe, accepted]; exact h.order
    | handles events handled accepted => rw [accepted]; exact handled.keeps.sublist.trans h.order
    | offer item waker pipe accepted =>
      rw [pipe, accepted, h.attended.watched.sound.stock_offer]
      exact h.order.append (.refl _)
    | poll id r waker what read pipe accepted =>
      rw [pipe, accepted]
      exact (u.pipe.sublist_pollRead waker r.state).trans h.order
    | drop id r what read pipe accepted =>
      rw [pipe, accepted]
      refine (h.attended.watched.sound.sublist_dropRead fun ticket hstate => ?_).trans h.order
      exact hnewest id what r ticket read hstate

theorem InOrder.run (h : u.InOrder) {uses : List (Use α)} (hnewest : u.NewestFirst uses) :
    (u.run uses).InOrder := by
  induction uses generalizing u with
  | nil => exact h
  | cons use uses ih =>
    have hrest : (u.step use).NewestFirst uses := by
      cases use with
      | dropRead id => exact hnewest.2
      | _ => exact hnewest
    refine ih (h.step use ?_) hrest
    rintro id rfl
    exact hnewest.1

/-! ## What later reads return

The record of a pipe has no part in what happens to it, so the order of later reads is that of a
pipe whose record begins with what is left. -/

/-- The same pipe with a record that begins earlier. -/
def recalled (u : Usage α) (accepted : List α) (answers : List (Option α)) : Usage α :=
  { u with accepted := accepted ++ u.accepted, answers := answers ++ u.answers }

theorem step_recalled (u : Usage α) (accepted : List α) (answers : List (Option α)) (use : Use α) :
    (u.recalled accepted answers).step use = (u.step use).recalled accepted answers := by
  cases use with
  | openRead => rfl
  | openWrite => rfl
  | closeRead => rfl
  | closeWrite => rfl
  | forceClose => rfl
  | tryWrite item =>
    rcases ht : u.pipe.tryWrite item with ⟨_ | _, p, events⟩ <;>
      simp [step, recalled, ht, accept, after]
  | write id item => by_cases hid : (u.writes id).isSome <;> simp [step, recalled, hid, setWrite]
  | pollWrite id waker =>
    rcases hw : u.writes id with _ | w
    · simp [step, recalled, hw]
    · rcases hp : u.pipe.pollWrite waker w.item with ⟨_ | _ | _, p, events⟩ <;>
        simp [step, recalled, hw, hp, accept, after, setWrite]
  | dropWrite id => rfl
  | read id => by_cases hid : (u.reads id).isSome <;> simp [step, recalled, hid, setRead]
  | pollRead id waker =>
    rcases hr : u.reads id with _ | r
    · simp [step, recalled, hr]
    · rcases hp : u.pipe.pollRead waker r.state with ⟨_ | _, state, p, events⟩ <;>
        simp [step, recalled, hr, hp, answer, after, setRead]
  | dropRead id => rcases hr : u.reads id with _ | r <;> simp [step, recalled, hr, after, setRead]

theorem run_recalled (u : Usage α) (accepted : List α) (answers : List (Option α))
    (uses : List (Use α)) :
    (u.recalled accepted answers).run uses = (u.run uses).recalled accepted answers := by
  induction uses generalizing u with
  | nil => rfl
  | cons use uses ih =>
    rw [run, List.foldl_cons, ← run, step_recalled, ih]
    rfl

theorem oneRead_recalled {accepted : List α} {answers : List (Option α)} {uses : List (Use α)}
    (hone : (u.recalled accepted answers).OneRead uses) (accepted' : List α)
    (answers' : List (Option α)) : (u.recalled accepted' answers').OneRead uses := by
  induction uses generalizing u with
  | nil => trivial
  | cons use uses ih =>
    cases use with
    | pollRead id waker =>
      refine ⟨hone.1, ?_⟩
      rw [step_recalled]
      exact ih (step_recalled u accepted answers _ ▸ hone.2)
    | _ =>
      unfold OneRead
      rw [step_recalled]
      exact ih (step_recalled u accepted answers _ ▸ hone)

/-- Once nobody waits, a record that begins with what is left is in order. -/
theorem Attended.ordered (h : u.Attended) (hnobody : u.pipe.tickets = []) :
    ({ u with accepted := u.pipe.stock, answers := [] } : Usage α).Ordered where
  watched := ⟨h.watched.sound, h.watched.owned, h.watched.held, h.watched.distinct,
    h.watched.awaited⟩
  single :=
    { sound := h.watched.sound
      one := by
        have : u.pipe.tickets.length = 0 := by rw [hnobody]; rfl
        exact this.trans_le (Nat.zero_le 1)
      ended := fun ticket ht => by
        have hmem : ticket ∈ u.pipe.tickets :=
          List.mem_append_right _ (List.mem_map.mpr ⟨_, ht, rfl⟩)
        rw [hnobody] at hmem
        exact absurd hmem List.not_mem_nil }
  live := h.live
  waiting := h.waiting
  alone id r hr hfresh := by
    have hlive := h.live id r hr
    cases hstate : r.state with
    | fresh => exact absurd hstate hfresh
    | finished => exact absurd hstate hlive
    | parked ticket =>
      have hmem := h.watched.held id r ticket hr (by rw [hstate]; rfl)
      rw [hnobody] at hmem
      exact absurd hmem List.not_mem_nil
  ordered := ⟨[], by simp [returned], fun _ => rfl⟩

/-- Reads that wait one at a time return what is left and what comes since, in that order. -/
theorem Attended.later_reads (h : u.Attended) (hnobody : u.pipe.tickets = []) {later : List (Use α)}
    (hone : u.OneRead later) :
    ∃ since new, (u.run later).accepted = u.accepted ++ since ∧
      (u.run later).returned = u.returned ++ new ∧ new <+: u.pipe.buffer ++ since := by
  let blank : Usage α := { u with accepted := [], answers := [] }
  have hu : u = blank.recalled u.accepted u.answers := by simp [blank, recalled]
  have hleft : ({ u with accepted := u.pipe.stock, answers := [] } : Usage α) =
      blank.recalled u.pipe.stock [] := by simp [blank, recalled]
  have hstock : u.pipe.stock = u.pipe.buffer := by
    have hanswered : u.pipe.answered = [] := by
      simpa using (List.append_eq_nil_iff.mp hnobody).2
    rw [Pipe.stock, hanswered]
    rfl
  have hordered : ((blank.recalled u.pipe.stock []).run later).Ordered := by
    rw [← hleft]
    refine (h.ordered hnobody).run ?_
    rw [hleft]
    exact oneRead_recalled (hu ▸ hone) _ _
  refine ⟨(blank.run later).accepted, (blank.run later).returned, ?_, ?_, ?_⟩
  · conv_lhs => rw [hu, run_recalled]
    rfl
  · conv_lhs => rw [hu, run_recalled]
    simp [recalled, returned]
  · have hprefix := hordered.returned_accepted
    rw [run_recalled, hstock] at hprefix
    exact hprefix

/-! ## After the end of data -/

theorem told_step (h : u.pipe.Told) (use : Use α) : (u.step use).pipe.Told := by
  cases u.effect_step use with
  | idle pipe => rw [pipe]; exact h
  | handles events handled =>
    intro ticket ht
    rcases handled.told _ ht with ht | hclosed
    · exact (h ticket ht).imp handled.serves.readClosed handled.serves.writeClosed
    · exact hclosed
  | offer item waker pipe => rw [pipe]; exact Pipe.told_offer h item waker
  | poll id r waker what read pipe => rw [pipe]; exact Pipe.told_pollRead h waker r.state
  | drop id r what read pipe => rw [pipe]; exact Pipe.told_dropRead h r.state

theorem told_run (h : u.pipe.Told) (uses : List (Use α)) : (u.run uses).pipe.Told := by
  induction uses generalizing u with
  | nil => exact h
  | cons use uses ih => exact ih (told_step h use)

/-- Once the writing side has closed it stays so and nothing more is accepted. -/
theorem sealed_step (hclosed : u.pipe.writeClosed = true) (use : Use α) :
    (u.step use).pipe.writeClosed = true ∧ (u.step use).accepted = u.accepted := by
  obtain ⟨own, events, hserves, -⟩ := u.serves_step use
  refine ⟨hserves.writeClosed hclosed, ?_⟩
  cases u.effect_step use with
  | idle pipe accepted => exact accepted
  | handles events handled accepted => exact accepted
  | offer item waker pipe accepted =>
    rw [accepted, if_neg (Pipe.refused_of_writeClosed hclosed item waker), List.append_nil]
  | poll id r waker what read pipe accepted => exact accepted
  | drop id r what read pipe accepted => exact accepted

theorem sealed_run (hclosed : u.pipe.writeClosed = true) (uses : List (Use α)) :
    (u.run uses).accepted = u.accepted := by
  induction uses generalizing u with
  | nil => rfl
  | cons use uses ih =>
    obtain ⟨hclosed', haccepted⟩ := sealed_step hclosed use
    exact (ih hclosed').trans haccepted

/-- A read that meets the end of data while the reading side is open tells that nothing more will
be accepted. If nothing is left in the pipe it is the last word. -/
theorem Attended.end_of_data (h : u.Attended) (htold : u.pipe.Told) {id : Nat} {waker : Waker}
    (hend : (u.step (.pollRead id waker)).answers = u.answers ++ [none])
    (hopen : u.pipe.readClosed = false) :
    u.pipe.writeClosed = true ∧
      (∀ later, ((u.step (.pollRead id waker)).run later).accepted = u.accepted) ∧
      (u.pipe.stock = [] → ∀ later, ∃ n, ((u.step (.pollRead id waker)).run later).answers =
        u.answers ++ List.replicate (n + 1) none) := by
  have hclosed : u.pipe.writeClosed = true := by
    cases u.effect_step (.pollRead id waker) with
    | idle pipe accepted answers => simp [answers] at hend
    | handles events handled accepted answers => simp [answers] at hend
    | offer item waker pipe accepted answers => simp [answers] at hend
    | drop id r what => exact absurd what (by simp)
    | poll id' r waker' what read pipe accepted answers =>
      rw [answers, List.append_cancel_left_eq] at hend
      rcases hp : (u.pipe.pollRead waker' r.state).1 with _ | item <;> rw [hp] at hend
      · simp at hend
      · obtain rfl : item = none := by simpa using hend
        exact (Pipe.closed_of_end htold (h.live id' r read) hp).resolve_left (by simp [hopen])
  obtain ⟨hclosed', haccepted⟩ := sealed_step hclosed (.pollRead id waker)
  refine ⟨hclosed, fun later => (sealed_run hclosed' later).trans haccepted, fun hempty later => ?_⟩
  have hdrained : u.pipe.Drained := ⟨.inr hclosed, hempty⟩
  obtain ⟨hdrained', -⟩ := drained_step hdrained (.pollRead id waker)
  obtain ⟨n, hn⟩ := drained_run hdrained' later
  refine ⟨n, ?_⟩
  rw [hn, hend, List.append_assoc]
  rfl

/-! ## The theorem -/

/-- When reads that hold items are dropped newest first, what is left stays in the order of
acceptance. Once nobody waits, later reads that wait one at a time return what is left and what is
accepted since, in that order. A read that meets the end of data while the reading side is open
comes after the last accepted item, and no read returns an item after it if nothing is left. -/
theorem abandoned_reads (name : String) (capacity : Nat) (uses : List (Use α))
    (hnewest : (create name capacity).NewestFirst uses) :
    let u := (create name capacity).run uses
    u.pipe.stock.Sublist u.accepted ∧
    (u.pipe.tickets = [] → ∀ later, u.OneRead later →
      ∃ since new, (u.run later).accepted = u.accepted ++ since ∧
        (u.run later).returned = u.returned ++ new ∧ new <+: u.pipe.buffer ++ since) ∧
    ∀ id waker, (u.step (.pollRead id waker)).answers = u.answers ++ [none] →
      u.pipe.readClosed = false →
        u.pipe.writeClosed = true ∧
        (∀ later, ((u.step (.pollRead id waker)).run later).accepted = u.accepted) ∧
        (u.pipe.stock = [] → ∀ later, ∃ n, ((u.step (.pollRead id waker)).run later).answers =
          u.answers ++ List.replicate (n + 1) none) := by
  intro u
  have hstart : (create name capacity : Usage α).InOrder :=
    ⟨attended_create name capacity, List.nil_sublist _⟩
  have h : u.InOrder := hstart.run hnewest
  have htold : u.pipe.Told := told_run (fun _ ht => absurd ht List.not_mem_nil) uses
  exact ⟨h.order, fun hnobody later hone => h.attended.later_reads hnobody hone,
    fun id waker hend hopen => h.attended.end_of_data htold hend hopen⟩

/-- Two reads are answered and dropped, the second one first. -/
theorem abandoned_reads_two :
    let uses : List (Use Nat) := [.read 0, .pollRead 0 .main, .read 1, .pollRead 1 .main,
      .tryWrite 1, .tryWrite 2, .dropRead 1, .dropRead 0]
    let u := (create "numbers" 2).run uses
    (create "numbers" 2).NewestFirst uses ∧ u.pipe.stock = [1, 2] ∧
      u.pipe.stock.Sublist u.accepted := by
  intro uses u
  have hnewest : (create "numbers" 2).NewestFirst uses := by
    refine ⟨fun r ticket hr hstate => ?_, fun r ticket hr hstate => ?_, trivial⟩
    · obtain rfl : ⟨.parked 1, some .main⟩ = r := Option.some.inj hr
      obtain rfl : 1 = ticket := by simpa using hstate
      rfl
    · obtain rfl : ⟨.parked 0, some .main⟩ = r := Option.some.inj hr
      obtain rfl : 0 = ticket := by simpa using hstate
      rfl
  exact ⟨hnewest, by decide, (abandoned_reads "numbers" 2 uses hnewest).1⟩

/-- Dropped oldest first, two items come back the wrong way round; and an item that is given back
after another read has met the end of data is returned all the same. -/
theorem abandoned_reads_reordered :
    (let u := (create "numbers" 2 : Usage Nat).run [.read 0, .pollRead 0 .main, .read 1,
        .pollRead 1 .main, .tryWrite 1, .tryWrite 2, .dropRead 0, .dropRead 1, .read 2,
        .pollRead 2 .main, .read 3, .pollRead 3 .main];
      u.pipe.readClosed = false ∧ u.accepted = [1, 2] ∧ u.returned = [2, 1]) ∧
    (let u := (create "numbers" 2 : Usage Nat).run [.openWrite, .read 0, .pollRead 0 .main, .read 1,
        .pollRead 1 .main, .tryWrite 1, .closeWrite, .pollRead 1 .main, .dropRead 0, .read 2,
        .pollRead 2 .main];
      u.pipe.readClosed = false ∧ u.answers = [none, some 1]) := by
  decide

end Usage

end Pipework
