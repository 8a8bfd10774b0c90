import Pipework.Proofs.Pipe.Stock
import Pipework.Proofs.Pipe.Usage
import Pipework.Proofs.Text.Keyed

/-!
# Nothing is lost in a pipe

However many reads and writes are under way, and in whatever order they are polled and dropped:

* **conservation** — while the reading side is open, what a pipe has accepted is what reads have
  returned, what answered reads hold, and what is buffered, each item as often as it was accepted;
* **one owner** — an answer waits for exactly one read under way, no other operation touches it, and
  a read in the queue has no answer yet, so handing an item over never overwrites one;
* **refused writes** — a write that fails, has to wait or is dropped leaves the items as they are.

The tickets carry the argument: `Usage.Attended` says that they are held by reads under way, one
each, so collecting an answer takes one item away and a dropped answer gives one item back.
-/

namespace Pipework

namespace Pipe

variable {α : Type}

/-- What answered reads hold and have not collected, oldest first. -/
def handed (p : Pipe α) : List α := p.answered.filterMap (·.2)

/-! ## Tickets that remain

A read that has been answered or abandoned takes its ticket with it. -/

theorem Sound.left_collect {p : Pipe α} (h : p.Sound) {ticket : Nat}
    (ha : (p.answer? ticket).isSome) :
    ∀ t ∈ (p.collect ticket).tickets, t ∈ p.tickets ∧ t ≠ ticket := by
  intro t ht
  refine ⟨(p.tickets_collect ticket).subset ht, ?_⟩
  rcases List.mem_append.mp ht with ht | ht
  · obtain ⟨e, he, rfl⟩ := List.mem_map.mp ht
    exact h.gone_collect ha e he
  · obtain ⟨e, he, rfl⟩ := List.mem_map.mp ht
    simpa using (List.mem_filter.mp he).2

/-- After a poll a ticket is the read's own, or another's as before. -/
theorem Sound.left_pollRead {p : Pipe α} (h : p.Sound) (waker : Waker) (state : ReadState) :
    ∀ t ∈ (p.pollRead waker state).2.2.1.tickets,
      (p.pollRead waker state).2.1.ticket? = some t ∨ t ∈ p.tickets ∧ state.ticket? ≠ some t := by
  obtain ⟨rfl, hp⟩ | ⟨ticket, rfl, ⟨_, ha, hp⟩ | ⟨-, hp⟩⟩ |
    ⟨rfl, ⟨-, hp⟩ | ⟨-, ⟨_, _, -, hp⟩ | ⟨-, ⟨-, hp⟩ | ⟨-, hp⟩⟩⟩⟩ := p.pollRead_cases waker state <;>
    rw [hp] <;> intro t ht
  · exact .inr ⟨ht, by simp [ReadState.ticket?]⟩
  · obtain ⟨hmem, hne⟩ := h.left_collect (by rw [ha]; rfl) t ht
    exact .inr ⟨hmem, fun hown => hne (Option.some.inj hown).symm⟩
  · by_cases hown : ticket = t
    · exact .inl (by rw [hown]; rfl)
    · have hsame : (p.rewake ticket waker).tickets = p.tickets :=
        congrArg (· ++ _) (p.map_fst_rewake ticket waker)
      exact .inr ⟨hsame ▸ ht, fun h => hown (Option.some.inj h)⟩
  · exact .inr ⟨ht, by simp [ReadState.ticket?]⟩
  · exact .inr ⟨ht, by simp [ReadState.ticket?]⟩
  · exact .inr ⟨ht, by simp [ReadState.ticket?]⟩
  · rcases List.mem_cons.mp ((p.tickets_park waker).mem_iff.mp ht) with rfl | ht
    · exact .inl rfl
    · exact .inr ⟨ht, by simp [ReadState.ticket?]⟩

theorem Sound.left_dropRead {p : Pipe α} (h : p.Sound) (state : ReadState) :
    ∀ t ∈ (p.dropRead state).1.tickets, t ∈ p.tickets ∧ state.ticket? ≠ some t := by
  obtain ⟨hstate, hd⟩ | ⟨ticket, rfl, ⟨item, ha, hd⟩ | ⟨ha, hd⟩ | ⟨ha, hd⟩⟩ :=
    p.dropRead_cases state <;> rw [hd] <;> intro t ht
  · exact ⟨ht, by simp [hstate]⟩
  · have ht := (noneJoins_restore _ item).tickets ht
    obtain ⟨hmem, hne⟩ := h.left_collect (by rw [ha]; rfl) t ht
    exact ⟨hmem, fun hown => hne (Option.some.inj hown).symm⟩
  · obtain ⟨hmem, hne⟩ := h.left_collect (by rw [ha]; rfl) t ht
    exact ⟨hmem, fun hown => hne (Option.some.inj hown).symm⟩
  · refine ⟨(p.tickets_unpark ticket).subset ht, fun hown => ?_⟩
    obtain rfl : ticket = t := Option.some.inj hown
    rcases List.mem_append.mp ht with ht | ht
    · obtain ⟨e, he, het⟩ := List.mem_map.mp ht
      simp [het] at he
    · obtain ⟨e, he, het⟩ := List.mem_map.mp ht
      simp only [answer?, Option.map_eq_none_iff, List.find?_eq_none] at ha
      exact absurd (by simpa using het) (ha e he)

/-! ## What becomes of the items -/

/-- A read in the queue has no answer yet. -/
theorem Sound.answer_of_parked {p : Pipe α} (h : p.Sound) {e : Nat × Waker} (he : e ∈ p.parked) :
    p.answer? e.1 = none := by
  by_contra hne
  have hsome : (p.answer? e.1).isSome := Option.ne_none_iff_isSome.mp hne
  exact h.gone_collect hsome e he rfl

/-- An item is handed over only while nothing is buffered, so it becomes the youngest one. -/
theorem Sound.stock_handOver {p : Pipe α} (h : p.Sound) {e : Nat × Waker}
    {rest : List (Nat × Waker)} (hq : p.parked = e :: rest) (item : α) :
    (p.handOver item).stock = p.stock ++ [item] := by
  have hb : p.buffer = [] := (h.parked (by simp [hq])).1
  simp [Pipe.handOver, hq, stock, hb]

/-- An accepted item becomes the youngest one; a refused one leaves the items as they are. -/
theorem Sound.stock_offer {p : Pipe α} (h : p.Sound) (item : α) (waker : Option Waker) :
    (p.offer item waker).2.1.stock =
      p.stock ++ if (p.offer item waker).1 = .accepted then [item] else [] := by
  obtain ⟨-, ho⟩ | ⟨-, -, ho⟩ | ⟨-, -, ho⟩ := p.offer_cases item waker
  · simp [ho]
  · simp [ho]
  · obtain ⟨_, _, _, hq, ho⟩ | ⟨-, -, ho⟩ | ⟨-, -, ho⟩ := ho
    · simp [ho, h.stock_handOver hq]
    · simp [ho, stock]
    · simp [ho, Single.stock_block]

/-- The entry under a ticket is the only one that collecting takes away. -/
theorem Sound.split_answer {p : Pipe α} (h : p.Sound) {ticket : Nat} {item : Option α}
    (ha : p.answer? ticket = some item) :
    ∃ before later, p.answered = before ++ (ticket, item) :: later ∧
      (∀ a ∈ before, a.1 ≠ ticket) ∧ (p.collect ticket).answered = before ++ later := by
  obtain ⟨e, hfound, rfl⟩ := Option.map_eq_some_iff.mp ha
  obtain rfl : e.1 = ticket := by simpa using List.find?_some hfound
  have hnodup : (p.answered.map (·.1)).Nodup := h.nodup.of_append_right
  obtain ⟨before, later, hsplit⟩ := List.append_of_mem (List.mem_of_find?_eq_some hfound)
  -- nobody else answers to the ticket
  have hothers : ∀ a ∈ before ++ later, a.1 ≠ e.1 := by
    rw [hsplit, List.map_append, List.map_cons] at hnodup
    obtain ⟨hne, -⟩ := List.nodup_cons.mp (List.nodup_middle.mp hnodup)
    intro a ha heq
    rw [← List.map_append, ← heq] at hne
    exact hne (List.mem_map_of_mem ha)
  refine ⟨before, later, hsplit, fun a ha => hothers a (List.mem_append_left _ ha), ?_⟩
  rw [Pipe.collect, hsplit, List.filter_append, List.filter_cons_of_neg (by simp),
    ← List.filter_append]
  exact List.filter_eq_self.mpr fun a ha => bne_iff_ne.mpr (hothers a ha)

theorem Sound.perm_collect {p : Pipe α} (h : p.Sound) {ticket : Nat} {item : Option α}
    (ha : p.answer? ticket = some item) :
    p.stock.Perm (item.toList ++ (p.collect ticket).stock) := by
  obtain ⟨before, later, hsplit, -, hrest⟩ := h.split_answer ha
  have hstock : p.stock =
      before.filterMap (·.2) ++ (item.toList ++ later.filterMap (·.2)) ++ p.buffer := by
    cases item <;> simp [stock, hsplit]
  have hstock' : (p.collect ticket).stock =
      before.filterMap (·.2) ++ later.filterMap (·.2) ++ p.buffer := by
    rw [stock, hrest, List.filterMap_append]
    rfl
  rw [hstock, hstock', ← List.append_assoc item.toList, List.perm_append_right_iff]
  exact List.perm_append_comm_assoc _ _ _

/-- A read takes what it returns out of the pipe. -/
theorem Sound.perm_pollRead {p : Pipe α} (h : p.Sound) (waker : Waker) (state : ReadState) :
    match (p.pollRead waker state).1 with
    | .ready item => p.stock.Perm (item.toList ++ (p.pollRead waker state).2.2.1.stock)
    | .pending => (p.pollRead waker state).2.2.1.stock = p.stock := by
  obtain ⟨-, hp⟩ | ⟨ticket, -, ⟨_, ha, hp⟩ | ⟨-, hp⟩⟩ |
    ⟨-, ⟨-, hp⟩ | ⟨-, ⟨item, rest, hb, hp⟩ | ⟨-, ⟨-, hp⟩ | ⟨-, hp⟩⟩⟩⟩ :=
    p.pollRead_cases waker state <;> rw [hp]
  · exact .refl _
  · exact h.perm_collect ha
  · rfl
  · exact .refl _
  · simp only [stock, hb, Option.toList_some, List.singleton_append]
    exact List.perm_middle
  · exact .refl _
  · rfl

/-- While the reading side is open a dropped read gives its item back. -/
theorem Sound.perm_dropRead {p : Pipe α} (h : p.Sound) (hopen : p.readClosed = false)
    (state : ReadState) : (p.dropRead state).1.stock.Perm p.stock := by
  obtain ⟨-, hd⟩ | ⟨ticket, -, ⟨item, ha, hd⟩ | ⟨ha, hd⟩ | ⟨-, hd⟩⟩ := p.dropRead_cases state <;>
    rw [hd]
  · refine .trans ?_ (h.perm_collect ha).symm
    obtain ⟨hclosed, -⟩ | ⟨-, ⟨_, _, _, hq, hr⟩ | ⟨-, hr⟩⟩ := (p.collect ticket).restore_cases item
    · exact absurd (hopen.symm.trans hclosed) (by simp)
    · rw [hr, (h.collect ticket).stock_handOver hq]
      exact List.perm_append_comm
    · rw [hr]
      exact List.perm_middle
  · exact (h.perm_collect ha).symm
  · rfl

end Pipe

namespace Usage

variable {α : Type}

/-! ## Everybody who waits is attended to -/

/-- Reads under way are not over, and nobody else holds a ticket. -/
structure Attended (u : Usage α) : Prop where
  watched : u.Watched
  /-- A read that is over is not under way. -/
  live : ∀ id r, u.reads id = some r → r.state ≠ .finished
  /-- Whoever waits is a read under way. -/
  waiting : ∀ ticket ∈ u.pipe.tickets, ∃ id r, u.reads id = some r ∧ r.state.ticket? = some ticket

theorem attended_create (name : String) (capacity : Nat) :
    (create name capacity : Usage α).Attended where
  watched := watched_create name capacity
  live := by simp [create]
  waiting := by simp [create, Pipe.create, Pipe.tickets]

namespace Attended

variable {u v : Usage α}

/-- No read moves, and nobody takes a ticket. -/
theorem keep (h : u.Attended) (hwatched : v.Watched) (hreads : v.reads = u.reads)
    (htickets : v.pipe.tickets ⊆ u.pipe.tickets) : v.Attended where
  watched := hwatched
  live id r hr := h.live id r (hreads ▸ hr)
  waiting ticket ht := by
    rw [hreads]
    exact h.waiting ticket (htickets ht)

/-- One read moves, and with it at most its own ticket. -/
theorem move (h : u.Attended) {id : Nat} {r : Option Reading} (hwatched : v.Watched)
    (hreads : v.reads = Function.update u.reads id r)
    (hlive : ∀ r', r = some r' → r'.state ≠ .finished)
    (htickets : ∀ t ∈ v.pipe.tickets, (∃ r', r = some r' ∧ r'.state.ticket? = some t) ∨
      t ∈ u.pipe.tickets ∧ ∀ r', u.reads id = some r' → r'.state.ticket? ≠ some t) :
    v.Attended where
  watched := hwatched
  live id' r' hr' := by
    rw [hreads] at hr'
    by_cases hid : id' = id
    · rw [hid, Function.update_self] at hr'
      exact hlive r' hr'
    · rw [Function.update_of_ne hid] at hr'
      exact h.live id' r' hr'
  waiting t ht := by
    rw [hreads]
    rcases htickets t ht with ⟨r', hr', hown⟩ | ⟨hmem, hother⟩
    · exact ⟨id, r', by rw [Function.update_self, hr'], hown⟩
    · obtain ⟨id', r', hr', ht'⟩ := h.waiting t hmem
      have hid : id' ≠ id := by
        rintro rfl
        exact hother r' hr' ht'
      exact ⟨id', r', by rw [Function.update_of_ne hid, hr'], ht'⟩

theorem pollRead (h : u.Attended) (id : Nat) (waker : Waker) :
    (u.step (.pollRead id waker)).Attended := by
  have hwatched := h.watched.step (.pollRead id waker)
  simp only [step] at hwatched ⊢
  split
  · exact h
  · rename_i r hr
    rw [hr] at hwatched
    have hleft := h.watched.sound.left_pollRead waker r.state
    have hwaits := h.watched.sound.waits_pollRead waker r.state
    have hover := @Pipe.pollRead_ready α u.pipe waker r.state
    have hmine : ∀ {t}, r.state.ticket? ≠ some t →
        ∀ r', u.reads id = some r' → r'.state.ticket? ≠ some t := by
      intro t hne r' hr'
      rwa [← Option.some.inj (hr.symm.trans hr')]
    rcases hp : u.pipe.pollRead waker r.state with ⟨_ | item, state, p, events⟩ <;>
      rw [hp] at hleft hwaits hover <;> simp only [hp] at hwatched
    · obtain ⟨ticket, rfl, -⟩ := hwaits rfl
      refine h.move (r := some ⟨.parked ticket, some waker⟩) hwatched rfl ?_ fun t ht => ?_
      · intro r' hr'
        simp [← Option.some.inj hr']
      · exact (hleft t ht).imp (fun hown => ⟨_, rfl, hown⟩) fun h => ⟨h.1, hmine h.2⟩
    · obtain rfl : state = .finished := hover rfl
      refine h.move (r := none) hwatched rfl (by simp) fun t ht => ?_
      rcases hleft t ht with hown | ⟨hmem, hne⟩
      · exact absurd hown (by simp [ReadState.ticket?])
      · exact .inr ⟨hmem, hmine hne⟩

/-- Every operation keeps reads and tickets together. -/
theorem step (h : u.Attended) (use : Use α) : (u.step use).Attended := by
  have hwatched := h.watched.step use
  cases use with
  | openRead => exact h.keep hwatched rfl (List.Subset.refl _)
  | openWrite => exact h.keep hwatched rfl (List.Subset.refl _)
  | closeRead => exact h.keep hwatched rfl (Pipe.noneJoins_closeRead _).tickets
  | closeWrite => exact h.keep hwatched rfl (Pipe.noneJoins_closeWrite _).tickets
  | forceClose => exact h.keep hwatched rfl (Pipe.noneJoins_forceClose _).tickets
  | tryWrite item =>
    have hjoins := (Pipe.noneJoins_offer u.pipe item none).tickets
    rw [← Pipe.tryWrite_snd] at hjoins
    simp only [Usage.step] at hwatched ⊢
    rcases ht : u.pipe.tryWrite item with ⟨_ | _, p, events⟩ <;>
      rw [ht] at hjoins <;> simp only [ht] at hwatched
    · exact h.keep hwatched rfl hjoins
    · exact h.keep hwatched rfl hjoins
  | write id item =>
    simp only [Usage.step] at hwatched ⊢
    split
    · exact h
    · rename_i hid
      rw [if_neg hid] at hwatched
      exact h.keep hwatched rfl (List.Subset.refl _)
  | pollWrite id waker =>
    simp only [Usage.step] at hwatched ⊢
    split
    · exact h
    · rename_i w hw
      have hjoins := (Pipe.noneJoins_offer u.pipe w.item (some waker)).tickets
      rw [← Pipe.pollWrite_snd] at hjoins
      rw [hw] at hwatched
      rcases hp : u.pipe.pollWrite waker w.item with ⟨_ | _ | _, p, events⟩ <;>
        rw [hp] at hjoins <;> simp only [hp] at hwatched
      · exact h.keep hwatched rfl hjoins
      · exact h.keep hwatched rfl hjoins
      · exact h.keep hwatched rfl hjoins
  | dropWrite id => exact h.keep hwatched rfl (List.Subset.refl _)
  | read id =>
    simp only [Usage.step] at hwatched ⊢
    split
    · exact h
    · rename_i hid
      rw [if_neg hid] at hwatched
      refine h.move hwatched rfl ?_ fun t ht => .inr ⟨ht, ?_⟩
      · intro r hr
        simp [← Option.some.inj hr]
      · intro r hr
        exact absurd (by rw [hr]; rfl) hid
  | pollRead id waker => exact h.pollRead id waker
  | dropRead id =>
    simp only [Usage.step] at hwatched ⊢
    split
    · exact h
    · rename_i r hr
      rw [hr] at hwatched
      refine h.move hwatched rfl (by simp) fun t ht => ?_
      obtain ⟨hmem, hne⟩ := h.watched.sound.left_dropRead r.state t ht
      refine .inr ⟨hmem, fun r' hr' => ?_⟩
      rwa [← Option.some.inj (hr.symm.trans hr')]

theorem run (h : u.Attended) (uses : List (Use α)) : (u.run uses).Attended := by
  induction uses generalizing u with
  | nil => exact h
  | cons use uses ih => exact ih (h.step use)

/-- An answer waits for one read under way. -/
theorem owner (h : u.Attended) {e : Nat × Option α} (he : e ∈ u.pipe.answered) :
    ∃ id r, u.reads id = some r ∧ r.state = .parked e.1 ∧
      ∀ id' r', u.reads id' = some r' → r'.state = .parked e.1 → id' = id := by
  obtain ⟨id, r, hr, ht⟩ := h.waiting e.1 (List.mem_append_right _ (List.mem_map_of_mem he))
  have hstate : r.state = .parked e.1 := by
    cases hs : r.state with
    | parked ticket => rw [hs] at ht; exact congrArg _ (Option.some.inj ht)
    | fresh => simp [hs, ReadState.ticket?] at ht
    | finished => simp [hs, ReadState.ticket?] at ht
  exact ⟨id, r, hr, hstate, fun id' r' hr' hs' =>
    h.watched.distinct id' id r' r e.1 hr' hr (by rw [hs']; rfl) ht⟩

end Attended

/-! ## What an operation does -/

variable {u : Usage α}

/-- What opening and closing handles owes to a pipe: others are served, items are kept while the
reading side is open, and who is answered is told so by a closed side. -/
structure Handled (p p' : Pipe α) (events : List Pipe.Event) : Prop where
  serves : Pipe.Serves none p p' events
  keeps : Pipe.Keeps p p'
  told : ∀ e ∈ p'.answered, e ∈ p.answered ∨ p'.readClosed = true ∨ p'.writeClosed = true

theorem handled_closeRead (p : Pipe α) : Handled p p.closeRead.2.1 p.closeRead.2.2 where
  serves := Pipe.serves_closeRead p
  keeps := Pipe.keeps_closeRead p
  told e he := by
    obtain ⟨-, hc⟩ | ⟨-, hc⟩ | ⟨n, -, hc⟩ := p.closeRead_cases <;> rw [hc] at he ⊢
    · exact .inl he
    · exact .inr (.inl (Pipe.readClosed_finishRead _))
    · exact .inl he

theorem handled_closeWrite (p : Pipe α) : Handled p p.closeWrite.2.1 p.closeWrite.2.2 where
  serves := Pipe.serves_closeWrite p
  keeps := .of_eq p.stock_closeWrite
  told e he := by
    obtain ⟨-, hc⟩ | ⟨-, hc⟩ | ⟨n, -, hc⟩ := p.closeWrite_cases <;> rw [hc] at he ⊢
    · exact .inl he
    · exact .inr (.inr (Pipe.writeClosed_finishWrite _))
    · exact .inl he

/-- What one operation does to a pipe and to the record of its items. -/
inductive Effect (u : Usage α) (use : Use α) (v : Usage α) : Prop where
  /-- Nothing. -/
  | idle (pipe : v.pipe = u.pipe) (accepted : v.accepted = u.accepted)
      (answers : v.answers = u.answers)
  /-- Handles are opened or closed. -/
  | handles (events : List Pipe.Event) (handled : Handled u.pipe v.pipe events)
      (accepted : v.accepted = u.accepted) (answers : v.answers = u.answers)
  /-- An item is offered. -/
  | offer (item : α) (waker : Option Waker) (pipe : v.pipe = (u.pipe.offer item waker).2.1)
      (accepted : v.accepted =
        u.accepted ++ if (u.pipe.offer item waker).1 = .accepted then [item] else [])
      (answers : v.answers = u.answers)
  /-- A read is polled. -/
  | poll (id : Nat) (r : Reading) (waker : Waker) (what : use = .pollRead id waker)
      (read : u.reads id = some r) (pipe : v.pipe = (u.pipe.pollRead waker r.state).2.2.1)
      (accepted : v.accepted = u.accepted)
      (answers : v.answers = u.answers ++ match (u.pipe.pollRead waker r.state).1 with
        | .ready item => [item]
        | .pending => [])
  /-- A read is dropped. -/
  | drop (id : Nat) (r : Reading) (what : use = .dropRead id) (read : u.reads id = some r)
      (pipe : v.pipe = (u.pipe.dropRead r.state).1) (accepted : v.accepted = u.accepted)
      (answers : v.answers = u.answers)

theorem effect_step (u : Usage α) (use : Use α) : u.Effect use (u.step use) := by
  cases use with
  | openRead => exact .handles _ ⟨Pipe.serves_openRead _, .of_eq rfl, fun _ he => .inl he⟩ rfl rfl
  | openWrite => exact .handles _ ⟨Pipe.serves_openWrite _, .of_eq rfl, fun _ he => .inl he⟩ rfl rfl
  | closeRead => exact .handles _ (handled_closeRead _) rfl rfl
  | closeWrite => exact .handles _ (handled_closeWrite _) rfl rfl
  | forceClose =>
    exact .handles _ ⟨Pipe.serves_forceClose _, Pipe.keeps_forceClose _, fun _ _ =>
      .inr (.inl (Pipe.readClosed_forceClose _))⟩ rfl rfl
  | tryWrite item =>
    refine .offer item none ?_ ?_ ?_ <;> simp only [step, Pipe.tryWrite] <;>
      rcases ho : u.pipe.offer item none with ⟨_ | _ | _, p, events⟩ <;>
        simp [accept, after]
  | write id item =>
    simp only [step]
    split <;> exact .idle rfl rfl rfl
  | pollWrite id waker =>
    simp only [step]
    split
    · exact .idle rfl rfl rfl
    · rename_i w hw
      refine .offer w.item (some waker) ?_ ?_ ?_ <;> simp only [Pipe.pollWrite] <;>
        rcases ho : u.pipe.offer w.item (some waker) with ⟨_ | _ | _, p, events⟩ <;>
          simp [accept, after, setWrite]
  | dropWrite id => exact .idle rfl rfl rfl
  | read id =>
    simp only [step]
    split <;> exact .idle rfl rfl rfl
  | pollRead id waker =>
    simp only [step]
    split
    · exact .idle rfl rfl rfl
    · rename_i r hr
      refine .poll id r waker rfl hr ?_ ?_ ?_ <;>
        rcases hp : u.pipe.pollRead waker r.state with ⟨_ | _, state, p, events⟩ <;>
          simp [answer, after, setRead]
  | dropRead id =>
    simp only [step]
    split
    · exact .idle rfl rfl rfl
    · rename_i r hr
      exact .drop id r rfl hr rfl rfl rfl

/-- Every operation serves everybody but the read that it polls or drops. -/
theorem serves_step (u : Usage α) (use : Use α) :
    ∃ own events, Pipe.Serves own u.pipe (u.step use).pipe events ∧
      ∀ ticket, own = some ticket → ∃ id r, u.reads id = some r ∧ r.state = .parked ticket ∧
        ((∃ waker, use = .pollRead id waker) ∨ use = .dropRead id) := by
  have hparked : ∀ {state : ReadState} {ticket}, state.ticket? = some ticket →
      state = .parked ticket := by
    intro state ticket ht
    cases state with
    | parked t => exact congrArg _ (Option.some.inj ht)
    | fresh => simp [ReadState.ticket?] at ht
    | finished => simp [ReadState.ticket?] at ht
  cases u.effect_step use with
  | idle pipe => exact ⟨none, [], pipe ▸ .refl, by simp⟩
  | handles events handled => exact ⟨none, events, handled.serves, by simp⟩
  | offer item waker pipe => exact ⟨none, _, pipe ▸ Pipe.serves_offer _ _ _, by simp⟩
  | poll id r waker what read pipe =>
    refine ⟨r.state.ticket?, _, pipe ▸ Pipe.serves_pollRead _ waker r.state, fun ticket ht => ?_⟩
    exact ⟨id, r, read, hparked ht, .inl ⟨waker, what⟩⟩
  | drop id r what read pipe =>
    refine ⟨r.state.ticket?, _, pipe ▸ Pipe.serves_dropRead _ r.state, fun ticket ht => ?_⟩
    exact ⟨id, r, read, hparked ht, .inr what⟩

/-- The reading side does not open again. -/
theorem open_of_step {use : Use α} (hopen : (u.step use).pipe.readClosed = false) :
    u.pipe.readClosed = false := by
  obtain ⟨_, _, hserves, -⟩ := u.serves_step use
  by_contra hc
  have hclosed := hserves.readClosed (by simpa using hc)
  simp [hclosed] at hopen

/-- An answer stays until the read that it waits for is polled, which returns it, or dropped. -/
theorem Attended.answered_step (h : u.Attended) (use : Use α) {e : Nat × Option α}
    (he : e ∈ u.pipe.answered) :
    e ∈ (u.step use).pipe.answered ∨
      ∃ id r, u.reads id = some r ∧ r.state = .parked e.1 ∧
        ((∃ waker, use = .pollRead id waker ∧ (u.step use).answers = u.answers ++ [e.2]) ∨
          use = .dropRead id) := by
  obtain ⟨own, events, hserves, hown⟩ := u.serves_step use
  by_cases hmine : own = some e.1
  · obtain ⟨id, r, hr, hstate, ⟨waker, rfl⟩ | rfl⟩ := hown e.1 hmine
    · refine .inr ⟨id, r, hr, hstate, .inl ⟨waker, rfl, ?_⟩⟩
      have ha : u.pipe.answer? e.1 = some e.2 := by
        have hnodup : (u.pipe.answered.map (·.1)).Nodup :=
          h.watched.sound.nodup.of_append_right
        rw [Pipe.answer?, Keyed.find?_numbered hnodup he]
        rfl
      simp only [Usage.step, hr, hstate, Pipe.pollRead, ha]
      rfl
    · exact .inr ⟨id, r, hr, hstate, .inr rfl⟩
  · exact .inl (hserves.answered e he hmine)

/-! ## The balance -/

/-- What an operation takes in and gives out, while the reading side is open. -/
theorem Attended.flows (h : u.Attended) (use : Use α) (hopen : (u.step use).pipe.readClosed = false) :
    ∃ taken given : List α, (u.step use).accepted = u.accepted ++ taken ∧
      (u.step use).returned = u.returned ++ given ∧
      (u.pipe.stock ++ taken).Perm (given ++ (u.step use).pipe.stock) := by
  have hsound := h.watched.sound
  cases u.effect_step use with
  | idle pipe accepted answers =>
    exact ⟨[], [], by simp [accepted], by simp [returned, answers], by simp [pipe]⟩
  | handles events handled accepted answers =>
    obtain ⟨lost, hlost, hnone⟩ := handled.keeps
    rw [hnone hopen, List.append_nil] at hlost
    exact ⟨[], [], by simp [accepted], by simp [returned, answers], by simp [hlost]⟩
  | offer item waker pipe accepted answers =>
    refine ⟨_, [], accepted, by simp [returned, answers], ?_⟩
    rw [pipe, hsound.stock_offer]
    rfl
  | poll id r waker what read pipe accepted answers =>
    have htaken := hsound.perm_pollRead waker r.state
    rw [← pipe] at htaken
    rcases hp : (u.pipe.pollRead waker r.state).1 with _ | item <;> rw [hp] at htaken answers
    · exact ⟨[], [], by simp [accepted], by simp [returned, answers], by simp [htaken]⟩
    · refine ⟨[], item.toList, by simp [accepted], ?_, by simpa using htaken⟩
      cases item <;> simp [returned, answers]
  | drop id r what read pipe accepted answers =>
    refine ⟨[], [], by simp [accepted], by simp [returned, answers], ?_⟩
    rw [pipe]
    simpa using (hsound.perm_dropRead (open_of_step hopen) r.state).symm

/-- The invariant: while the reading side is open the items balance. -/
structure Balanced (u : Usage α) : Prop where
  attended : u.Attended
  balance : u.pipe.readClosed = false →
    (u.accepted : Multiset α) = u.returned + u.pipe.stock

theorem balanced_create (name : String) (capacity : Nat) :
    (create name capacity : Usage α).Balanced :=
  ⟨attended_create name capacity, fun _ => rfl⟩

theorem Balanced.step (h : u.Balanced) (use : Use α) : (u.step use).Balanced where
  attended := h.attended.step use
  balance hopen := by
    obtain ⟨taken, given, haccepted, hreturned, hperm⟩ := h.attended.flows use hopen
    have hitems : (u.pipe.stock : Multiset α) + taken = given + (u.step use).pipe.stock := by
      simpa only [Multiset.coe_add] using Multiset.coe_eq_coe.mpr hperm
    calc ((u.step use).accepted : Multiset α)
        = (u.accepted : Multiset α) + taken := by rw [haccepted, Multiset.coe_add]
      _ = u.returned + (u.pipe.stock + taken) := by rw [h.balance (open_of_step hopen), add_assoc]
      _ = u.returned + (given + (u.step use).pipe.stock) := by rw [hitems]
      _ = (u.step use).returned + (u.step use).pipe.stock := by
          rw [hreturned, ← Multiset.coe_add, add_assoc]

theorem Balanced.run (h : u.Balanced) (uses : List (Use α)) : (u.run uses).Balanced := by
  induction uses generalizing u with
  | nil => exact h
  | cons use uses ih => exact ih (h.step use)

/-! ## Refused writes -/

/-- Items and reads are as before. -/
structure Untouched (u v : Usage α) : Prop where
  accepted : v.accepted = u.accepted
  answers : v.answers = u.answers
  answered : v.pipe.answered = u.pipe.answered
  buffer : v.pipe.buffer = u.pipe.buffer
  parked : v.pipe.parked = u.pipe.parked
  reads : v.reads = u.reads

/-- An item that is not accepted leaves the pipe as it is, but for the waker of its write. -/
theorem untouched_offer (u : Usage α) (item : α) (waker : Option Waker)
    (hrefused : (u.pipe.offer item waker).1 ≠ .accepted) :
    u.Untouched (u.after (u.pipe.offer item waker).2.1 (u.pipe.offer item waker).2.2) := by
  obtain ⟨-, ho⟩ | ⟨-, -, ho⟩ | ⟨-, -, ⟨_, _, _, -, ho⟩ | ⟨-, -, ho⟩ | ⟨-, -, ho⟩⟩ :=
    u.pipe.offer_cases item waker <;> rw [ho] at hrefused ⊢
  · exact ⟨rfl, rfl, rfl, rfl, rfl, rfl⟩
  · exact ⟨rfl, rfl, rfl, rfl, rfl, rfl⟩
  · exact absurd rfl hrefused
  · exact absurd rfl hrefused
  · unfold Pipe.block
    split
    · split <;> exact ⟨rfl, rfl, rfl, rfl, rfl, rfl⟩
    · exact ⟨rfl, rfl, rfl, rfl, rfl, rfl⟩

/-- A write that is not accepted leaves all items as they are and adds none. -/
theorem untouched_pollWrite (u : Usage α) {id : Nat} {w : Writing α} (hw : u.writes id = some w)
    (waker : Waker) :
    match (u.pipe.pollWrite waker w.item).1 with
    | .ready (.ok ()) => (u.step (.pollWrite id waker)).accepted = u.accepted ++ [w.item] ∧
        (u.step (.pollWrite id waker)).writes id = none
    | .ready (.error _) => u.Untouched (u.step (.pollWrite id waker)) ∧
        (u.step (.pollWrite id waker)).writes id = none
    | .pending => u.Untouched (u.step (.pollWrite id waker)) ∧
        ((u.step (.pollWrite id waker)).writes id).map (·.item) = some w.item := by
  have huntouched := u.untouched_offer w.item (some waker)
  simp only [step, hw, Pipe.pollWrite]
  rcases ho : u.pipe.offer w.item (some waker) with ⟨_ | _ | _, p, events⟩ <;>
    rw [ho] at huntouched
  · exact ⟨rfl, by simp [accept, setWrite]⟩
  · obtain ⟨haccepted, hanswers, hanswered, hbuffer, hparked, hreads⟩ := huntouched (by simp)
    exact ⟨⟨haccepted, hanswers, hanswered, hbuffer, hparked, hreads⟩, by simp [setWrite]⟩
  · obtain ⟨haccepted, hanswers, hanswered, hbuffer, hparked, hreads⟩ := huntouched (by simp)
    exact ⟨⟨haccepted, hanswers, hanswered, hbuffer, hparked, hreads⟩, by simp [setWrite]⟩

theorem untouched_tryWrite (u : Usage α) (item : α) :
    match (u.pipe.tryWrite item).1 with
    | .ok () => (u.step (.tryWrite item)).accepted = u.accepted ++ [item]
    | .error _ => u.Untouched (u.step (.tryWrite item)) := by
  have huntouched := u.untouched_offer item none
  simp only [step, Pipe.tryWrite]
  rcases ho : u.pipe.offer item none with ⟨_ | _ | _, p, events⟩ <;> rw [ho] at huntouched
  · rfl
  · exact huntouched (by simp)
  · exact huntouched (by simp)

/-! ## The theorem -/

/-- Whoever uses a pipe and in whatever order, while its reading side is open each accepted item is
returned, held by an answered read, or buffered, exactly once. An answer waits for one read under
way, which alone takes it away, and is never written over. A write that is refused, has to wait or
is dropped contributes nothing. -/
theorem items_conserved (name : String) (capacity : Nat) (uses : List (Use α)) :
    let u := (create name capacity).run uses
    (u.pipe.readClosed = false →
      (u.accepted : Multiset α) = u.returned + u.pipe.handed + u.pipe.buffer) ∧
    (∀ e ∈ u.pipe.answered,
      (∃ id r, u.reads id = some r ∧ r.state = .parked e.1 ∧
        ∀ id' r', u.reads id' = some r' → r'.state = .parked e.1 → id' = id) ∧
      ∀ use, e ∈ (u.step use).pipe.answered ∨
        ∃ id r, u.reads id = some r ∧ r.state = .parked e.1 ∧
          ((∃ waker, use = .pollRead id waker ∧ (u.step use).answers = u.answers ++ [e.2]) ∨
            use = .dropRead id)) ∧
    (∀ e ∈ u.pipe.parked, u.pipe.answer? e.1 = none) ∧
    (∀ item, match (u.pipe.tryWrite item).1 with
      | .ok () => (u.step (.tryWrite item)).accepted = u.accepted ++ [item]
      | .error _ => u.Untouched (u.step (.tryWrite item))) ∧
    (∀ id w waker, u.writes id = some w → match (u.pipe.pollWrite waker w.item).1 with
      | .ready (.ok ()) => (u.step (.pollWrite id waker)).accepted = u.accepted ++ [w.item] ∧
          (u.step (.pollWrite id waker)).writes id = none
      | .ready (.error _) => u.Untouched (u.step (.pollWrite id waker)) ∧
          (u.step (.pollWrite id waker)).writes id = none
      | .pending => u.Untouched (u.step (.pollWrite id waker)) ∧
          ((u.step (.pollWrite id waker)).writes id).map (·.item) = some w.item) ∧
    ∀ id, u.Untouched (u.step (.dropWrite id)) ∧ (u.step (.dropWrite id)).writes id = none := by
  intro u
  have h : u.Balanced := (balanced_create name capacity).run uses
  refine ⟨fun hopen => ?_, fun e he => ⟨h.attended.owner he, fun use => h.attended.answered_step use he⟩,
    fun e he => h.attended.watched.sound.answer_of_parked he, u.untouched_tryWrite,
    fun id w waker hw => u.untouched_pollWrite hw waker,
    fun id => ⟨⟨rfl, rfl, rfl, rfl, rfl, rfl⟩, by simp [step, setWrite]⟩⟩
  rw [h.balance hopen, Pipe.stock, ← Multiset.coe_add, ← add_assoc]
  rfl

/-- Two reads wait, four writes are offered to a buffer of one, and one read collects. -/
theorem items_conserved_four :
    let uses : List (Use Nat) := [.read 0, .pollRead 0 .main, .read 1, .pollRead 1 (.task 0),
      .tryWrite 1, .tryWrite 2, .tryWrite 3, .tryWrite 4, .pollRead 0 .main]
    let u := (create "numbers" 1).run uses
    u.returned = [1] ∧ u.pipe.handed = [2] ∧ u.pipe.buffer = [3] ∧ u.pipe.readClosed = false ∧
      (u.accepted : Multiset Nat) = u.returned + u.pipe.handed + u.pipe.buffer := by
  intro uses u
  have hopen : u.pipe.readClosed = false := by decide
  exact ⟨by decide, by decide, by decide, hopen, (items_conserved "numbers" 1 uses).1 hopen⟩

end Usage

end Pipework
