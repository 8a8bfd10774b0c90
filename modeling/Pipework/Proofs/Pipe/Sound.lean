import Mathlib
import Pipework.Pipe.Basic

/-!
# Invariants of a pipe

`Pipe.Sound` is what holds of a pipe at any time, whoever uses it and in whatever order:

* **parked reads** wait only while nothing is buffered and both sides are open, and **blocked
  writes** only while the buffer is full and both sides are open;
* every ticket is held by one read, which is either parked or answered.

`Pipe.Serves` is what an operation owes to the other users of the pipe. A read that leaves the
queue has been answered and its waker called; a waker that leaves the list of blocked writes has
been called; a callback that is gone has run; no side opens again.

Each operation has one lemma for either, so nobody looks into the operations again.
-/

namespace Pipework

/-- The ticket of a read that has one. -/
def ReadState.ticket? : ReadState → Option Nat
  | .parked ticket => some ticket
  | _ => none

namespace Pipe

variable {α : Type}

/-- The tickets in use: of parked reads, and of answered ones. -/
def tickets (p : Pipe α) : List Nat := p.parked.map (·.1) ++ p.answered.map (·.1)

/-- What holds of a pipe at any time. -/
structure Sound (p : Pipe α) : Prop where
  /-- A read is parked only while nothing is buffered and both sides are open. -/
  parked : p.parked ≠ [] → p.buffer = [] ∧ p.readClosed = false ∧ p.writeClosed = false
  /-- A write is blocked only while the buffer is full and both sides are open. -/
  blocked : p.blocked ≠ [] →
    p.capacity ≤ p.buffer.length ∧ p.readClosed = false ∧ p.writeClosed = false
  /-- Nothing is buffered that nobody can read. -/
  dropped : p.readClosed = true → p.buffer = []
  /-- No callback waits for a side that has closed. -/
  called : p.writeClosed = true → p.onWriteClose = []
  /-- No two reads share a ticket. -/
  nodup : p.tickets.Nodup
  /-- The next ticket is new. -/
  issued : ∀ ticket ∈ p.tickets, ticket < p.nextTicket

/-- What an operation that turns `p` into `p'` owes to the users of the pipe other than the read
under the ticket `own`. -/
structure Serves (own : Option Nat) (p p' : Pipe α) (events : List Event) : Prop where
  /-- A parked read stays, or it is answered and woken. -/
  parked : ∀ e ∈ p.parked, own ≠ some e.1 →
    e ∈ p'.parked ∨ e.1 ∈ p'.answered.map (·.1) ∧ .wake e.2 ∈ events
  /-- An answer stays. -/
  answered : ∀ e ∈ p.answered, own ≠ some e.1 → e ∈ p'.answered
  /-- A blocked write stays, or it is woken. -/
  blocked : ∀ w ∈ p.blocked, w ∈ p'.blocked ∨ .wake w ∈ events
  /-- A callback stays, or it runs. -/
  callbacks : ∀ c ∈ p.onWriteClose, c ∈ p'.onWriteClose ∨ .call c ∈ events
  /-- The reading side does not open again. -/
  readClosed : p.readClosed = true → p'.readClosed = true
  /-- The writing side does not open again. -/
  writeClosed : p.writeClosed = true → p'.writeClosed = true

namespace Serves

variable {own : Option Nat} {p p' p'' : Pipe α} {events events' : List Event}

/-- An operation that leaves queue, answers, wakers, callbacks and sides alone serves everybody. -/
theorem of_eq (parked : p'.parked = p.parked) (answered : p'.answered = p.answered)
    (blocked : p'.blocked = p.blocked) (callbacks : p'.onWriteClose = p.onWriteClose)
    (readClosed : p'.readClosed = p.readClosed) (writeClosed : p'.writeClosed = p.writeClosed) :
    Serves own p p' events where
  parked _ he _ := .inl (parked ▸ he)
  answered _ he _ := answered ▸ he
  blocked _ hw := .inl (blocked ▸ hw)
  callbacks _ hc := .inl (callbacks ▸ hc)
  readClosed h := readClosed.trans h
  writeClosed h := writeClosed.trans h

theorem refl : Serves own p p events := .of_eq rfl rfl rfl rfl rfl rfl

/-- One operation after another. -/
theorem trans (h : Serves own p p' events) (h' : Serves own p' p'' events') :
    Serves own p p'' (events ++ events') where
  parked e he hown := by
    rcases h.parked e he hown with hp | ⟨ha, hw⟩
    · rcases h'.parked e hp hown with hp' | ⟨ha', hw'⟩
      · exact .inl hp'
      · exact .inr ⟨ha', List.mem_append_right _ hw'⟩
    · obtain ⟨a, ha, hae⟩ := List.mem_map.mp ha
      have hstays := h'.answered a ha (by rw [hae]; exact hown)
      exact .inr ⟨List.mem_map.mpr ⟨a, hstays, hae⟩, List.mem_append_left _ hw⟩
  answered e he hown := h'.answered e (h.answered e he hown) hown
  blocked w hw := by
    rcases h.blocked w hw with hb | hwake
    · exact (h'.blocked w hb).imp id (List.mem_append_right _)
    · exact .inr (List.mem_append_left _ hwake)
  callbacks c hc := by
    rcases h.callbacks c hc with hk | hcall
    · exact (h'.callbacks c hk).imp id (List.mem_append_right _)
    · exact .inr (List.mem_append_left _ hcall)
  readClosed hc := h'.readClosed (h.readClosed hc)
  writeClosed hc := h'.writeClosed (h.writeClosed hc)

/-- What is owed to all users is owed to all but one. -/
theorem weaken (h : Serves none p p' events) (own : Option Nat) : Serves own p p' events :=
  { h with
    parked := fun e he _ => h.parked e he (by simp)
    answered := fun e he _ => h.answered e he (by simp) }

/-- A ticket in use stays in use. -/
theorem mem_tickets (h : Serves own p p' events) {ticket : Nat} (ht : ticket ∈ p.tickets)
    (hown : own ≠ some ticket) : ticket ∈ p'.tickets := by
  rcases List.mem_append.mp ht with ht | ht
  · obtain ⟨e, he, rfl⟩ := List.mem_map.mp ht
    rcases h.parked e he hown with hp | ⟨ha, -⟩
    · exact List.mem_append_left _ (List.mem_map_of_mem hp)
    · exact List.mem_append_right _ ha
  · obtain ⟨e, he, rfl⟩ := List.mem_map.mp ht
    exact List.mem_append_right _ (List.mem_map_of_mem (h.answered e he hown))

end Serves

/-! ## Opening and registering -/

theorem sound_create (name : String) (capacity : Nat) :
    (create name capacity : Pipe α × List Event).1.Sound := by
  constructor <;> simp [create, tickets]

theorem Sound.openRead {p : Pipe α} (h : p.Sound) : p.openRead.1.Sound :=
  ⟨h.parked, h.blocked, h.dropped, h.called, h.nodup, h.issued⟩

theorem Sound.openWrite {p : Pipe α} (h : p.Sound) : p.openWrite.1.Sound :=
  ⟨h.parked, h.blocked, h.dropped, h.called, h.nodup, h.issued⟩

theorem serves_openRead (p : Pipe α) : Serves none p p.openRead.1 p.openRead.2 :=
  .of_eq rfl rfl rfl rfl rfl rfl

theorem serves_openWrite (p : Pipe α) : Serves none p p.openWrite.1 p.openWrite.2 :=
  .of_eq rfl rfl rfl rfl rfl rfl

theorem Sound.addWriteCallback {p : Pipe α} (h : p.Sound) (label : Nat) :
    (p.addWriteCallback label).1.Sound := by
  unfold Pipe.addWriteCallback
  split
  · exact h
  · rename_i hopen
    exact ⟨h.parked, h.blocked, h.dropped, fun hc => absurd hc hopen, h.nodup, h.issued⟩

theorem serves_addWriteCallback (p : Pipe α) (label : Nat) :
    Serves none p (p.addWriteCallback label).1 (p.addWriteCallback label).2 := by
  unfold Pipe.addWriteCallback
  split
  · exact .refl
  · exact { Serves.refl with callbacks := fun c hc => .inl (List.mem_append_left _ hc) }

theorem Sound.addReadCallback {p : Pipe α} (h : p.Sound) (label : Nat) :
    (p.addReadCallback label).1.Sound := by
  unfold Pipe.addReadCallback
  split
  · exact h
  · exact ⟨h.parked, h.blocked, h.dropped, h.called, h.nodup, h.issued⟩

theorem serves_addReadCallback (p : Pipe α) (label : Nat) :
    Serves none p (p.addReadCallback label).1 (p.addReadCallback label).2 := by
  unfold Pipe.addReadCallback
  split
  · exact .refl
  · exact .of_eq rfl rfl rfl rfl rfl rfl

/-! ## Handing an item over

`offer` and `restore` hand an item to the oldest parked read in the same way. -/

/-- The pipe after the oldest parked read has been answered with an item. -/
def handOver (p : Pipe α) (item : α) : Pipe α :=
  match p.parked with
  | (ticket, _) :: rest => { p with parked := rest, answered := p.answered ++ [(ticket, some item)] }
  | [] => p

theorem tickets_handOver (p : Pipe α) (item : α) : (p.handOver item).tickets.Perm p.tickets := by
  unfold handOver
  split
  · rename_i ticket w rest hq
    simp only [tickets, hq, List.map_cons, List.map_append, List.map_nil]
    rw [← List.append_assoc]
    exact List.perm_append_singleton _ _
  · exact .refl _

theorem Sound.handOver {p : Pipe α} (h : p.Sound) (item : α) : (p.handOver item).Sound := by
  have hperm := p.tickets_handOver item
  cases hq : p.parked with
  | nil => simpa [Pipe.handOver, hq] using h
  | cons e rest =>
    simp only [Pipe.handOver, hq] at hperm ⊢
    exact
      { h with
        parked := fun _ => h.parked (by simp [hq])
        nodup := hperm.nodup_iff.mpr h.nodup
        issued := fun t ht => h.issued t (hperm.mem_iff.mp ht) }

theorem serves_handOver {p : Pipe α} {ticket : Nat} {w : Waker} {rest : List (Nat × Waker)}
    (hq : p.parked = (ticket, w) :: rest) (item : α) :
    Serves none p (p.handOver item) [.wake w] := by
  have hrefl : Serves none p p [.wake w] := .refl
  simp only [Pipe.handOver, hq]
  refine { hrefl with parked := ?_, answered := fun e he _ => List.mem_append_left _ he }
  intro e he _
  rw [hq, List.mem_cons] at he
  rcases he with rfl | he
  · exact .inr ⟨by simp, by simp⟩
  · exact .inl he

/-! ## Writing -/

/-- What becomes of an offered item, case by case. -/
theorem offer_cases (p : Pipe α) (item : α) (waker : Option Waker) :
    p.readClosed = true ∧ p.offer item waker = (.failed (.brokenPipe p.name), p,
      [.note s!"#<{p.name}> sending sigPipe",
        .signal p.name s!"pipe is read-closed '{p.name}'"]) ∨
    p.readClosed = false ∧ p.writeClosed = true ∧
      p.offer item waker = (.failed (.alreadyWriteClosed p.name), p, []) ∨
    p.readClosed = false ∧ p.writeClosed = false ∧
      ((∃ ticket w rest, p.parked = (ticket, w) :: rest ∧
        p.offer item waker = (.accepted, p.handOver item, [.wake w])) ∨
      p.parked = [] ∧ p.buffer.length < p.capacity ∧
        p.offer item waker = (.accepted, { p with buffer := p.buffer ++ [item] }, []) ∨
      p.parked = [] ∧ p.capacity ≤ p.buffer.length ∧
        p.offer item waker = (.full, p.block waker, [])) := by
  cases hr : p.readClosed with
  | true => exact .inl ⟨rfl, by simp [offer, hr]⟩
  | false =>
    cases hw : p.writeClosed with
    | true => exact .inr (.inl ⟨rfl, rfl, by simp [offer, hr, hw]⟩)
    | false =>
      refine .inr (.inr ⟨rfl, rfl, ?_⟩)
      cases hq : p.parked with
      | cons e rest =>
        obtain ⟨ticket, w⟩ := e
        exact .inl ⟨ticket, w, rest, rfl, by simp [offer, handOver, hr, hw, hq]⟩
      | nil =>
        by_cases hroom : p.buffer.length < p.capacity
        · exact .inr (.inl ⟨rfl, hroom, by simp [offer, hr, hw, hq, hroom]⟩)
        · exact .inr (.inr ⟨rfl, by omega, by simp [offer, hr, hw, hq, hroom]⟩)

theorem mem_block (p : Pipe α) (w : Waker) : w ∈ (p.block (some w)).blocked := by
  simp only [block]
  split
  · rename_i hw
    exact List.contains_iff_mem.mp hw
  · exact List.mem_append_right _ (List.mem_singleton.mpr rfl)

theorem Sound.block {p : Pipe α} (h : p.Sound) (hfull : p.capacity ≤ p.buffer.length)
    (hr : p.readClosed = false) (hw : p.writeClosed = false) (waker : Option Waker) :
    (p.block waker).Sound := by
  unfold Pipe.block
  split
  · split
    · exact h
    · exact { h with blocked := fun _ => ⟨hfull, hr, hw⟩ }
  · exact h

theorem serves_block (p : Pipe α) (waker : Option Waker) : Serves none p (p.block waker) [] := by
  unfold block
  split
  · split
    · exact .refl
    · exact { Serves.refl with blocked := fun v hv => .inl (List.mem_append_left _ hv) }
  · exact .refl

theorem Sound.offer {p : Pipe α} (h : p.Sound) (item : α) (waker : Option Waker) :
    (p.offer item waker).2.1.Sound := by
  obtain ⟨-, ho⟩ | ⟨-, -, ho⟩ | ⟨hr, hw, ho⟩ := p.offer_cases item waker
  · rw [ho]; exact h
  · rw [ho]; exact h
  · obtain ⟨_, _, _, -, ho⟩ | ⟨hq, hroom, ho⟩ | ⟨-, hfull, ho⟩ := ho
    · rw [ho]; exact h.handOver item
    · rw [ho]
      have hb : p.blocked = [] := by
        by_contra hne
        have := (h.blocked hne).1
        omega
      exact
        { h with
          parked := fun hne => absurd hq hne
          blocked := fun hne => absurd hb hne
          dropped := fun hc => absurd hc (by simp [hr]) }
    · rw [ho]; exact h.block hfull hr hw waker

theorem serves_offer (p : Pipe α) (item : α) (waker : Option Waker) :
    Serves none p (p.offer item waker).2.1 (p.offer item waker).2.2 := by
  obtain ⟨-, ho⟩ | ⟨-, -, ho⟩ | ⟨-, -, ho⟩ := p.offer_cases item waker
  · rw [ho]; exact .refl
  · rw [ho]; exact .refl
  · obtain ⟨_, _, _, hq, ho⟩ | ⟨-, -, ho⟩ | ⟨-, -, ho⟩ := ho
    · rw [ho]; exact serves_handOver hq item
    · rw [ho]; exact .of_eq rfl rfl rfl rfl rfl rfl
    · rw [ho]; exact serves_block p waker

theorem tryWrite_snd (p : Pipe α) (item : α) : (p.tryWrite item).2 = (p.offer item none).2 := by
  unfold tryWrite
  split <;> rename_i ho <;> rw [ho]

theorem pollWrite_snd (p : Pipe α) (waker : Waker) (item : α) :
    (p.pollWrite waker item).2 = (p.offer item (some waker)).2 := by
  unfold pollWrite
  split <;> rename_i ho <;> rw [ho]

theorem Sound.tryWrite {p : Pipe α} (h : p.Sound) (item : α) : (p.tryWrite item).2.1.Sound := by
  rw [tryWrite_snd]
  exact h.offer item none

theorem serves_tryWrite (p : Pipe α) (item : α) :
    Serves none p (p.tryWrite item).2.1 (p.tryWrite item).2.2 := by
  rw [tryWrite_snd]
  exact serves_offer p item none

theorem Sound.pollWrite {p : Pipe α} (h : p.Sound) (waker : Waker) (item : α) :
    (p.pollWrite waker item).2.1.Sound := by
  rw [pollWrite_snd]
  exact h.offer item (some waker)

theorem serves_pollWrite (p : Pipe α) (waker : Waker) (item : α) :
    Serves none p (p.pollWrite waker item).2.1 (p.pollWrite waker item).2.2 := by
  rw [pollWrite_snd]
  exact serves_offer p item (some waker)

/-- A write that has to wait has left its waker, and nothing has happened. -/
theorem pollWrite_pending (p : Pipe α) (waker : Waker) (item : α)
    (h : (p.pollWrite waker item).1 = .pending) :
    waker ∈ (p.pollWrite waker item).2.1.blocked ∧ (p.pollWrite waker item).2.2 = [] := by
  rw [pollWrite_snd]
  unfold pollWrite at h
  obtain ⟨-, ho⟩ | ⟨-, -, ho⟩ | ⟨-, -, ho⟩ := p.offer_cases item (some waker)
  · simp [ho] at h
  · simp [ho] at h
  · obtain ⟨_, _, _, -, ho⟩ | ⟨-, -, ho⟩ | ⟨-, -, ho⟩ := ho
    · simp [ho] at h
    · simp [ho] at h
    · rw [ho]; exact ⟨mem_block p waker, rfl⟩

/-! ## Reading -/

theorem tickets_collect (p : Pipe α) (ticket : Nat) : (p.collect ticket).tickets.Sublist p.tickets :=
  (List.Sublist.refl _).append (List.filter_sublist.map _)

theorem Sound.collect {p : Pipe α} (h : p.Sound) (ticket : Nat) : (p.collect ticket).Sound :=
  { h with
    nodup := h.nodup.sublist (p.tickets_collect ticket)
    issued := fun t ht => h.issued t ((p.tickets_collect ticket).subset ht) }

theorem serves_collect (p : Pipe α) (ticket : Nat) :
    Serves (some ticket) p (p.collect ticket) [] := by
  have hrefl : Serves (some ticket) p p [] := .refl
  refine { hrefl with parked := fun e he _ => .inl he, answered := ?_ }
  intro e he hown
  have hne : e.1 ≠ ticket := fun h => hown (by rw [h])
  simp [Pipe.collect, he, hne]

theorem map_fst_rewake (p : Pipe α) (ticket : Nat) (waker : Waker) :
    (p.rewake ticket waker).parked.map (·.1) = p.parked.map (·.1) := by
  simp only [rewake, List.map_map]
  refine List.map_congr_left fun e _ => ?_
  by_cases he : e.1 = ticket <;> simp [he]

theorem Sound.rewake {p : Pipe α} (h : p.Sound) (ticket : Nat) (waker : Waker) :
    (p.rewake ticket waker).Sound := by
  have ht : (p.rewake ticket waker).tickets = p.tickets :=
    congrArg (· ++ _) (p.map_fst_rewake ticket waker)
  exact
    { h with
      parked := fun hne => h.parked fun hq => hne (by simp [Pipe.rewake, hq])
      nodup := by rw [ht]; exact h.nodup
      issued := by rw [ht]; exact h.issued }

theorem serves_rewake (p : Pipe α) (ticket : Nat) (waker : Waker) :
    Serves (some ticket) p (p.rewake ticket waker) [] := by
  have hrefl : Serves (some ticket) p p [] := .refl
  refine { hrefl with parked := ?_, answered := fun e he _ => he }
  intro e he hown
  have hne : e.1 ≠ ticket := fun h => hown (by rw [h])
  exact .inl (List.mem_map.mpr ⟨e, he, by simp [hne]⟩)

/-- What polling a read does, case by case. -/
theorem pollRead_cases (p : Pipe α) (waker : Waker) (state : ReadState) :
    state = .finished ∧ p.pollRead waker state = (.ready none, .finished, p, []) ∨
    (∃ ticket, state = .parked ticket ∧
      ((∃ item, p.answer? ticket = some item ∧
        p.pollRead waker state = (.ready item, .finished, p.collect ticket, [])) ∨
      p.answer? ticket = none ∧
        p.pollRead waker state = (.pending, .parked ticket, p.rewake ticket waker, []))) ∨
    state = .fresh ∧
      (p.readClosed = true ∧ p.pollRead waker state = (.ready none, .finished, p, []) ∨
      p.readClosed = false ∧
        ((∃ item rest, p.buffer = item :: rest ∧ p.pollRead waker state =
          (.ready (some item), .finished, { p with buffer := rest, blocked := [] },
            p.blocked.map .wake)) ∨
        p.buffer = [] ∧
          (p.writeClosed = true ∧ p.pollRead waker state = (.ready none, .finished, p, []) ∨
          p.writeClosed = false ∧ p.pollRead waker state = (.pending, .parked p.nextTicket,
            { p with
              parked := p.parked ++ [(p.nextTicket, waker)], nextTicket := p.nextTicket + 1 },
            [])))) := by
  cases state with
  | finished => exact .inl ⟨rfl, rfl⟩
  | parked ticket =>
    refine .inr (.inl ⟨ticket, rfl, ?_⟩)
    cases ha : p.answer? ticket with
    | some item => exact .inl ⟨item, rfl, by simp [pollRead, ha]⟩
    | none => exact .inr ⟨rfl, by simp [pollRead, ha]⟩
  | fresh =>
    refine .inr (.inr ⟨rfl, ?_⟩)
    cases hr : p.readClosed with
    | true => exact .inl ⟨rfl, by simp [pollRead, hr]⟩
    | false =>
      refine .inr ⟨rfl, ?_⟩
      cases hb : p.buffer with
      | cons item rest => exact .inl ⟨item, rest, rfl, by simp [pollRead, hr, hb]⟩
      | nil =>
        refine .inr ⟨rfl, ?_⟩
        cases hw : p.writeClosed with
        | true => exact .inl ⟨rfl, by simp [pollRead, hr, hb, hw]⟩
        | false => exact .inr ⟨rfl, by simp [pollRead, hr, hb, hw]⟩

theorem tickets_park (p : Pipe α) (waker : Waker) :
    (({ p with
      parked := p.parked ++ [(p.nextTicket, waker)]
      nextTicket := p.nextTicket + 1 } : Pipe α).tickets).Perm (p.nextTicket :: p.tickets) := by
  simp only [tickets, List.map_append, List.map_cons, List.map_nil, List.append_assoc,
    List.singleton_append]
  exact List.perm_middle

theorem Sound.pollRead {p : Pipe α} (h : p.Sound) (waker : Waker) (state : ReadState) :
    (p.pollRead waker state).2.2.1.Sound := by
  obtain ⟨-, hp⟩ | ⟨ticket, -, hp⟩ | ⟨-, hp⟩ := p.pollRead_cases waker state
  · rw [hp]; exact h
  · obtain ⟨_, -, hp⟩ | ⟨-, hp⟩ := hp
    · rw [hp]; exact h.collect ticket
    · rw [hp]; exact h.rewake ticket waker
  · obtain ⟨-, hp⟩ | ⟨hr, ⟨item, rest, hb, hp⟩ | ⟨hb, ⟨-, hp⟩ | ⟨hw, hp⟩⟩⟩ := hp
    · rw [hp]; exact h
    · -- nothing was parked, since an item was buffered
      have hq : p.parked = [] := by
        by_contra hne
        have := (h.parked hne).1
        simp [hb] at this
      rw [hp]
      exact
        { h with
          parked := fun hne => absurd hq hne
          blocked := fun hne => absurd rfl hne
          dropped := fun hc => absurd hc (by simp [hr]) }
    · rw [hp]; exact h
    · rw [hp]
      have hperm := p.tickets_park waker
      exact
        { h with
          parked := fun _ => ⟨hb, hr, hw⟩
          nodup := hperm.nodup_iff.mpr (List.nodup_cons.mpr
            ⟨fun ht => absurd (h.issued _ ht) (Nat.lt_irrefl _), h.nodup⟩)
          issued := fun t ht => by
            rcases List.mem_cons.mp (hperm.mem_iff.mp ht) with rfl | ht
            · exact Nat.lt_succ_self _
            · exact Nat.lt_succ_of_lt (h.issued t ht) }

theorem serves_pollRead (p : Pipe α) (waker : Waker) (state : ReadState) :
    Serves state.ticket? p (p.pollRead waker state).2.2.1 (p.pollRead waker state).2.2.2 := by
  obtain ⟨-, hp⟩ | ⟨ticket, rfl, hp⟩ | ⟨-, hp⟩ := p.pollRead_cases waker state
  · rw [hp]; exact .refl
  · obtain ⟨_, -, hp⟩ | ⟨-, hp⟩ := hp
    · rw [hp]; exact p.serves_collect ticket
    · rw [hp]; exact p.serves_rewake ticket waker
  · obtain ⟨-, hp⟩ | ⟨-, ⟨item, rest, -, hp⟩ | ⟨-, ⟨-, hp⟩ | ⟨-, hp⟩⟩⟩ := hp
    · rw [hp]; exact .refl
    · rw [hp]
      have hrefl : Serves state.ticket? p p (p.blocked.map .wake) := .refl
      exact { hrefl with blocked := fun w hw => .inr (List.mem_map_of_mem hw) }
    · rw [hp]; exact .refl
    · rw [hp]
      exact { Serves.refl with parked := fun e he _ => .inl (List.mem_append_left _ he) }

/-- A read that has to wait holds a ticket in the queue, with the waker of this poll, provided it
had not lost the ticket it held before. Nothing else has happened. -/
theorem pollRead_pending (p : Pipe α) (waker : Waker) (state : ReadState)
    (h : (p.pollRead waker state).1 = .pending)
    (hold : ∀ ticket, state.ticket? = some ticket → ticket ∈ p.tickets) :
    ∃ ticket, (p.pollRead waker state).2.1 = .parked ticket ∧
      (ticket, waker) ∈ (p.pollRead waker state).2.2.1.parked ∧
      (p.pollRead waker state).2.2.2 = [] := by
  obtain ⟨-, hp⟩ | ⟨ticket, rfl, hp⟩ | ⟨-, hp⟩ := p.pollRead_cases waker state
  · simp [hp] at h
  · obtain ⟨_, -, hp⟩ | ⟨ha, hp⟩ := hp
    · simp [hp] at h
    · refine ⟨ticket, by rw [hp], ?_, by rw [hp]⟩
      rw [hp]
      have hmem : ticket ∈ p.parked.map (·.1) := by
        rcases List.mem_append.mp (hold ticket rfl) with ht | ht
        · exact ht
        · obtain ⟨e, he, het⟩ := List.mem_map.mp ht
          simp only [answer?, Option.map_eq_none_iff, List.find?_eq_none] at ha
          exact absurd (by simpa using het) (ha e he)
      obtain ⟨e, he, rfl⟩ := List.mem_map.mp hmem
      exact List.mem_map.mpr ⟨e, he, by simp⟩
  · obtain ⟨-, hp⟩ | ⟨-, ⟨item, rest, -, hp⟩ | ⟨-, ⟨-, hp⟩ | ⟨-, hp⟩⟩⟩ := hp
    · simp [hp] at h
    · simp [hp] at h
    · simp [hp] at h
    · exact ⟨p.nextTicket, by rw [hp], by rw [hp]; simp, by rw [hp]⟩

/-- A read with an answer is over. -/
theorem pollRead_ready (p : Pipe α) (waker : Waker) (state : ReadState) {item : Option α}
    (h : (p.pollRead waker state).1 = .ready item) : (p.pollRead waker state).2.1 = .finished := by
  obtain ⟨-, hp⟩ | ⟨_, -, ⟨_, -, hp⟩ | ⟨-, hp⟩⟩ |
    ⟨-, ⟨-, hp⟩ | ⟨-, ⟨_, _, -, hp⟩ | ⟨-, ⟨-, hp⟩ | ⟨-, hp⟩⟩⟩⟩ := p.pollRead_cases waker state
  all_goals simp [hp] at h ⊢

/-- What giving an item back does, case by case. -/
theorem restore_cases (p : Pipe α) (item : α) :
    p.readClosed = true ∧ p.restore item = (p, []) ∨
    p.readClosed = false ∧
      ((∃ ticket w rest, p.parked = (ticket, w) :: rest ∧
        p.restore item = (p.handOver item, [.wake w])) ∨
      p.parked = [] ∧ p.restore item = ({ p with buffer := item :: p.buffer }, [])) := by
  cases hr : p.readClosed with
  | true => exact .inl ⟨rfl, by simp [restore, hr]⟩
  | false =>
    refine .inr ⟨rfl, ?_⟩
    cases hq : p.parked with
    | cons e rest =>
      obtain ⟨ticket, w⟩ := e
      exact .inl ⟨ticket, w, rest, rfl, by simp [restore, handOver, hr, hq]⟩
    | nil => exact .inr ⟨rfl, by simp [restore, hr, hq]⟩

theorem Sound.restore {p : Pipe α} (h : p.Sound) (item : α) : (p.restore item).1.Sound := by
  obtain ⟨-, hp⟩ | ⟨hr, ⟨_, _, _, -, hp⟩ | ⟨hq, hp⟩⟩ := p.restore_cases item
  · rw [hp]; exact h
  · rw [hp]; exact h.handOver item
  · rw [hp]
    exact
      { h with
        parked := fun hne => absurd hq hne
        blocked := fun hne => by
          obtain ⟨hfull, hsides⟩ := h.blocked hne
          exact ⟨Nat.le_succ_of_le hfull, hsides⟩
        dropped := fun hc => absurd hc (by simp [hr]) }

theorem serves_restore (p : Pipe α) (item : α) :
    Serves none p (p.restore item).1 (p.restore item).2 := by
  obtain ⟨-, hp⟩ | ⟨-, ⟨_, _, _, hq, hp⟩ | ⟨-, hp⟩⟩ := p.restore_cases item
  · rw [hp]; exact .refl
  · rw [hp]; exact serves_handOver hq item
  · rw [hp]; exact .of_eq rfl rfl rfl rfl rfl rfl

theorem tickets_unpark (p : Pipe α) (ticket : Nat) :
    (({ p with parked := p.parked.filter (·.1 != ticket) } : Pipe α).tickets).Sublist p.tickets :=
  (List.filter_sublist.map _).append (List.Sublist.refl _)

/-- A parked read leaves the queue. -/
theorem Sound.unpark {p : Pipe α} (h : p.Sound) (ticket : Nat) :
    ({ p with parked := p.parked.filter (·.1 != ticket) } : Pipe α).Sound := by
  have hsub := p.tickets_unpark ticket
  exact
    { h with
      parked := fun hne => h.parked fun hq => hne (by simp [hq])
      nodup := h.nodup.sublist hsub
      issued := fun t ht => h.issued t (hsub.subset ht) }

/-- What abandoning a read does, case by case. -/
theorem dropRead_cases (p : Pipe α) (state : ReadState) :
    state.ticket? = none ∧ p.dropRead state = (p, []) ∨
    ∃ ticket, state = .parked ticket ∧
      ((∃ item, p.answer? ticket = some (some item) ∧
        p.dropRead state = (p.collect ticket).restore item) ∨
      p.answer? ticket = some none ∧ p.dropRead state = (p.collect ticket, []) ∨
      p.answer? ticket = none ∧
        p.dropRead state = ({ p with parked := p.parked.filter (·.1 != ticket) }, [])) := by
  cases state with
  | fresh => exact .inl ⟨rfl, rfl⟩
  | finished => exact .inl ⟨rfl, rfl⟩
  | parked ticket =>
    refine .inr ⟨ticket, rfl, ?_⟩
    cases ha : p.answer? ticket with
    | none => exact .inr (.inr ⟨rfl, by simp [dropRead, ha]⟩)
    | some answer =>
      cases answer with
      | some item => exact .inl ⟨item, rfl, by simp [dropRead, ha]⟩
      | none => exact .inr (.inl ⟨rfl, by simp [dropRead, ha]⟩)

theorem Sound.dropRead {p : Pipe α} (h : p.Sound) (state : ReadState) :
    (p.dropRead state).1.Sound := by
  obtain ⟨-, hd⟩ | ⟨ticket, -, ⟨item, -, hd⟩ | ⟨-, hd⟩ | ⟨-, hd⟩⟩ := p.dropRead_cases state
  · rw [hd]; exact h
  · rw [hd]; exact (h.collect ticket).restore item
  · rw [hd]; exact h.collect ticket
  · rw [hd]; exact h.unpark ticket

theorem serves_unpark (p : Pipe α) (ticket : Nat) :
    Serves (some ticket) p { p with parked := p.parked.filter (·.1 != ticket) } [] := by
  have hrefl : Serves (some ticket) p p [] := .refl
  refine { hrefl with parked := fun e he hown => .inl (List.mem_filter.mpr ⟨he, ?_⟩) }
  have hne : e.1 ≠ ticket := fun h => hown (by rw [h])
  simpa using hne

theorem serves_dropRead (p : Pipe α) (state : ReadState) :
    Serves state.ticket? p (p.dropRead state).1 (p.dropRead state).2 := by
  obtain ⟨-, hd⟩ | ⟨ticket, rfl, ⟨item, -, hd⟩ | ⟨-, hd⟩ | ⟨-, hd⟩⟩ := p.dropRead_cases state
  · rw [hd]; exact .refl
  · rw [hd]
    exact (p.serves_collect ticket).trans ((serves_restore (p.collect ticket) item).weaken _)
  · rw [hd]; exact p.serves_collect ticket
  · rw [hd]; exact p.serves_unpark ticket

/-! ## Closing -/

theorem tickets_endParked (p : Pipe α) : p.endParked.tickets.Perm p.tickets := by
  simp only [tickets, endParked, List.map_nil, List.nil_append, List.map_append, List.map_map]
  exact List.perm_append_comm

/-- Closing a side answers all parked reads and calls all wakers. -/
theorem Sound.finish {p p' : Pipe α} (h : p.Sound) (tickets : p'.tickets = p.endParked.tickets)
    (next : p'.nextTicket = p.nextTicket) (parked : p'.parked = []) (blocked : p'.blocked = [])
    (dropped : p'.readClosed = true → p'.buffer = [])
    (called : p'.writeClosed = true → p'.onWriteClose = []) : p'.Sound where
  parked hne := absurd parked hne
  blocked hne := absurd blocked hne
  dropped := dropped
  called := called
  nodup := by
    rw [tickets]
    exact p.tickets_endParked.nodup_iff.mpr h.nodup
  issued t ht := by
    rw [tickets] at ht
    rw [next]
    exact h.issued t (p.tickets_endParked.mem_iff.mp ht)

theorem Sound.finishWrite {p : Pipe α} (h : p.Sound) : p.finishWrite.2.1.Sound := by
  unfold Pipe.finishWrite
  split
  · exact h
  · exact h.finish rfl rfl rfl rfl h.dropped fun _ => rfl

theorem Sound.finishRead {p : Pipe α} (h : p.Sound) : p.finishRead.2.1.Sound := by
  unfold Pipe.finishRead
  split
  · exact h
  · exact h.finish rfl rfl rfl rfl (fun _ => rfl) h.called

theorem mem_answered_endParked {p : Pipe α} {e : Nat × Waker} (he : e ∈ p.parked) :
    e.1 ∈ p.endParked.answered.map (·.1) := by
  simp only [endParked, List.map_append, List.mem_append, List.mem_map]
  exact .inr ⟨(e.1, none), ⟨e, he, rfl⟩, rfl⟩

/-- The events of closing a side, but for the diagnostic line. -/
theorem mem_wakes {p : Pipe α} {e : Nat × Waker} (he : e ∈ p.parked) {line : Event}
    {events : List Event} : .wake e.2 ∈ line :: (p.parked.map fun e => .wake e.2) ++ events :=
  List.mem_append_left _ (List.mem_cons_of_mem _ (List.mem_map.mpr ⟨e, he, rfl⟩))

theorem serves_finishWrite (p : Pipe α) :
    Serves none p p.finishWrite.2.1 p.finishWrite.2.2 := by
  unfold finishWrite
  split
  · exact .refl
  · exact
      { parked := fun e he _ => .inr
          ⟨mem_answered_endParked he, List.mem_append_left _ (mem_wakes he)⟩
        answered := fun e he _ => List.mem_append_left _ he
        blocked := fun w hw => .inr (by simp [hw])
        callbacks := fun c hc => .inr (by simp [hc])
        readClosed := id
        writeClosed := fun _ => rfl }

theorem serves_finishRead (p : Pipe α) :
    Serves none p p.finishRead.2.1 p.finishRead.2.2 := by
  unfold finishRead
  split
  · exact .refl
  · exact
      { parked := fun e he _ => .inr
          ⟨mem_answered_endParked he, List.mem_append_left _ (mem_wakes he)⟩
        answered := fun e he _ => List.mem_append_left _ he
        blocked := fun w hw => .inr (by simp [hw])
        callbacks := fun c hc => .inl hc
        readClosed := fun _ => rfl
        writeClosed := id }

theorem Sound.counted {p : Pipe α} (h : p.Sound) (readers writers : Nat) :
    ({ p with readers := readers, writers := writers } : Pipe α).Sound :=
  ⟨h.parked, h.blocked, h.dropped, h.called, h.nodup, h.issued⟩

theorem serves_counted (p : Pipe α) (readers writers : Nat) {events : List Event} :
    Serves none p { p with readers := readers, writers := writers } events :=
  .of_eq rfl rfl rfl rfl rfl rfl

/-- Releasing a writer changes the count, and then closes the side if that was the last one. -/
theorem closeWrite_cases (p : Pipe α) :
    p.writers = 0 ∧ p.closeWrite = (false, p, []) ∨
    p.writers = 1 ∧ p.closeWrite = ({ p with writers := 0 } : Pipe α).finishWrite ∨
    ∃ n, p.writers = n + 2 ∧ p.closeWrite = (false, { p with writers := n + 1 }, []) := by
  unfold closeWrite
  split
  · exact .inl ⟨‹_›, rfl⟩
  · exact .inr (.inl ⟨‹_›, rfl⟩)
  · exact .inr (.inr ⟨_, ‹_›, rfl⟩)

/-- Releasing a reader changes the count, and then closes the side if that was the last one. -/
theorem closeRead_cases (p : Pipe α) :
    p.readers = 0 ∧ p.closeRead = (false, p, []) ∨
    p.readers = 1 ∧ p.closeRead = ({ p with readers := 0 } : Pipe α).finishRead ∨
    ∃ n, p.readers = n + 2 ∧ p.closeRead = (false, { p with readers := n + 1 }, []) := by
  unfold closeRead
  split
  · exact .inl ⟨‹_›, rfl⟩
  · exact .inr (.inl ⟨‹_›, rfl⟩)
  · exact .inr (.inr ⟨_, ‹_›, rfl⟩)

theorem Sound.closeWrite {p : Pipe α} (h : p.Sound) : p.closeWrite.2.1.Sound := by
  obtain ⟨-, hc⟩ | ⟨-, hc⟩ | ⟨n, -, hc⟩ := p.closeWrite_cases
  · rw [hc]; exact h
  · rw [hc]; exact (h.counted p.readers 0).finishWrite
  · rw [hc]; exact h.counted p.readers (n + 1)

theorem Sound.closeRead {p : Pipe α} (h : p.Sound) : p.closeRead.2.1.Sound := by
  obtain ⟨-, hc⟩ | ⟨-, hc⟩ | ⟨n, -, hc⟩ := p.closeRead_cases
  · rw [hc]; exact h
  · rw [hc]; exact (h.counted 0 p.writers).finishRead
  · rw [hc]; exact h.counted (n + 1) p.writers

theorem serves_closeWrite (p : Pipe α) :
    Serves none p p.closeWrite.2.1 p.closeWrite.2.2 := by
  obtain ⟨-, hc⟩ | ⟨-, hc⟩ | ⟨n, -, hc⟩ := p.closeWrite_cases
  · rw [hc]; exact .refl
  · rw [hc]
    have hcount : Serves none p { p with writers := 0 } [] := p.serves_counted p.readers 0
    exact hcount.trans (serves_finishWrite _)
  · rw [hc]; exact p.serves_counted p.readers (n + 1)

theorem serves_closeRead (p : Pipe α) :
    Serves none p p.closeRead.2.1 p.closeRead.2.2 := by
  obtain ⟨-, hc⟩ | ⟨-, hc⟩ | ⟨n, -, hc⟩ := p.closeRead_cases
  · rw [hc]; exact .refl
  · rw [hc]
    have hcount : Serves none p { p with readers := 0 } [] := p.serves_counted 0 p.writers
    exact hcount.trans (serves_finishRead _)
  · rw [hc]; exact p.serves_counted (n + 1) p.writers

theorem Sound.forceClose {p : Pipe α} (h : p.Sound) : p.forceClose.1.Sound :=
  (h.counted 0 0).finishWrite.finishRead

theorem serves_forceClose (p : Pipe α) : Serves none p p.forceClose.1 p.forceClose.2 := by
  have hcount : Serves none p { p with readers := 0, writers := 0 } [] := p.serves_counted 0 0
  have hwrite := serves_finishWrite { p with readers := 0, writers := 0 }
  exact (hcount.trans hwrite).trans (serves_finishRead _)

theorem writeClosed_finishWrite (p : Pipe α) : p.finishWrite.2.1.writeClosed = true := by
  unfold finishWrite
  split
  · assumption
  · rfl

theorem readClosed_finishRead (p : Pipe α) : p.finishRead.2.1.readClosed = true := by
  unfold finishRead
  split
  · assumption
  · rfl

theorem readClosed_forceClose (p : Pipe α) : p.forceClose.1.readClosed = true :=
  readClosed_finishRead _

theorem writeClosed_forceClose (p : Pipe α) : p.forceClose.1.writeClosed = true :=
  (serves_finishRead _).writeClosed (writeClosed_finishWrite _)

/-! ## Who joins the queue

Only the poll of a read puts anybody into the queue. -/

/-- Nobody has joined those who wait for an item or for their answer. -/
structure NoneJoins (p p' : Pipe α) : Prop where
  parked : p'.parked ⊆ p.parked
  tickets : p'.tickets ⊆ p.tickets

namespace NoneJoins

variable {p p' p'' : Pipe α}

theorem of_eq (parked : p'.parked = p.parked) (answered : p'.answered = p.answered) :
    NoneJoins p p' where
  parked := by rw [parked]; exact List.Subset.refl _
  tickets := by rw [Pipe.tickets, parked, answered]; exact List.Subset.refl _

theorem refl : NoneJoins p p := .of_eq rfl rfl

theorem trans (h : NoneJoins p p') (h' : NoneJoins p' p'') : NoneJoins p p'' :=
  ⟨List.Subset.trans h'.parked h.parked, List.Subset.trans h'.tickets h.tickets⟩

end NoneJoins

theorem noneJoins_handOver (p : Pipe α) (item : α) : NoneJoins p (p.handOver item) where
  tickets := (p.tickets_handOver item).subset
  parked := by
    unfold handOver
    split
    · rename_i hq
      rw [hq]
      exact List.subset_cons_self _ _
    · exact List.Subset.refl _

theorem noneJoins_block (p : Pipe α) (waker : Option Waker) : NoneJoins p (p.block waker) := by
  unfold block
  split
  · split
    · exact .refl
    · exact .of_eq rfl rfl
  · exact .refl

theorem noneJoins_offer (p : Pipe α) (item : α) (waker : Option Waker) :
    NoneJoins p (p.offer item waker).2.1 := by
  obtain ⟨-, ho⟩ | ⟨-, -, ho⟩ | ⟨-, -, ho⟩ := p.offer_cases item waker
  · rw [ho]; exact .refl
  · rw [ho]; exact .refl
  · obtain ⟨_, _, _, -, ho⟩ | ⟨-, -, ho⟩ | ⟨-, -, ho⟩ := ho
    · rw [ho]; exact p.noneJoins_handOver item
    · rw [ho]; exact .of_eq rfl rfl
    · rw [ho]; exact p.noneJoins_block waker

theorem noneJoins_restore (p : Pipe α) (item : α) : NoneJoins p (p.restore item).1 := by
  obtain ⟨-, hp⟩ | ⟨-, ⟨_, _, _, -, hp⟩ | ⟨-, hp⟩⟩ := p.restore_cases item
  · rw [hp]; exact .refl
  · rw [hp]; exact p.noneJoins_handOver item
  · rw [hp]; exact .of_eq rfl rfl

theorem noneJoins_collect (p : Pipe α) (ticket : Nat) : NoneJoins p (p.collect ticket) :=
  ⟨List.Subset.refl _, (p.tickets_collect ticket).subset⟩

theorem noneJoins_unpark (p : Pipe α) (ticket : Nat) :
    NoneJoins p { p with parked := p.parked.filter (·.1 != ticket) } :=
  ⟨List.filter_subset_self _, (p.tickets_unpark ticket).subset⟩

theorem noneJoins_dropRead (p : Pipe α) (state : ReadState) :
    NoneJoins p (p.dropRead state).1 := by
  obtain ⟨-, hd⟩ | ⟨ticket, -, ⟨item, -, hd⟩ | ⟨-, hd⟩ | ⟨-, hd⟩⟩ := p.dropRead_cases state
  · rw [hd]; exact .refl
  · rw [hd]; exact (p.noneJoins_collect ticket).trans (noneJoins_restore _ item)
  · rw [hd]; exact p.noneJoins_collect ticket
  · rw [hd]; exact p.noneJoins_unpark ticket

theorem noneJoins_finishWrite (p : Pipe α) : NoneJoins p p.finishWrite.2.1 := by
  unfold finishWrite
  split
  · exact .refl
  · exact ⟨List.nil_subset _, p.tickets_endParked.subset⟩

theorem noneJoins_finishRead (p : Pipe α) : NoneJoins p p.finishRead.2.1 := by
  unfold finishRead
  split
  · exact .refl
  · exact ⟨List.nil_subset _, p.tickets_endParked.subset⟩

theorem noneJoins_counted (p : Pipe α) (readers writers : Nat) :
    NoneJoins p { p with readers := readers, writers := writers } := .of_eq rfl rfl

theorem noneJoins_closeWrite (p : Pipe α) : NoneJoins p p.closeWrite.2.1 := by
  obtain ⟨-, hc⟩ | ⟨-, hc⟩ | ⟨n, -, hc⟩ := p.closeWrite_cases
  · rw [hc]; exact .refl
  · rw [hc]; exact (p.noneJoins_counted p.readers 0).trans (noneJoins_finishWrite _)
  · rw [hc]; exact .of_eq rfl rfl

theorem noneJoins_closeRead (p : Pipe α) : NoneJoins p p.closeRead.2.1 := by
  obtain ⟨-, hc⟩ | ⟨-, hc⟩ | ⟨n, -, hc⟩ := p.closeRead_cases
  · rw [hc]; exact .refl
  · rw [hc]; exact (p.noneJoins_counted 0 p.writers).trans (noneJoins_finishRead _)
  · rw [hc]; exact .of_eq rfl rfl

theorem noneJoins_forceClose (p : Pipe α) : NoneJoins p p.forceClose.1 :=
  ((p.noneJoins_counted 0 0).trans (noneJoins_finishWrite _)).trans (noneJoins_finishRead _)

/-- A read that has been answered or abandoned is not in the queue any more. -/
theorem Sound.gone_collect {p : Pipe α} (h : p.Sound) {ticket : Nat}
    (ha : (p.answer? ticket).isSome) : ∀ e ∈ (p.collect ticket).parked, e.1 ≠ ticket := by
  rintro e he rfl
  obtain ⟨_, ha⟩ := Option.isSome_iff_exists.mp ha
  obtain ⟨a, hfound, -⟩ := Option.map_eq_some_iff.mp ha
  have hanswered : e.1 ∈ p.answered.map (·.1) :=
    List.mem_map.mpr ⟨a, List.mem_of_find?_eq_some hfound, by
      simpa using List.find?_some hfound⟩
  exact List.disjoint_of_nodup_append h.nodup (List.mem_map_of_mem he) hanswered

theorem Sound.gone_dropRead {p : Pipe α} (h : p.Sound) (state : ReadState) :
    ∀ e ∈ (p.dropRead state).1.parked, e ∈ p.parked ∧ state.ticket? ≠ some e.1 := by
  obtain ⟨hs, hd⟩ | ⟨ticket, rfl, hd⟩ := p.dropRead_cases state
  · rw [hd, hs]
    exact fun e he => ⟨he, by simp⟩
  · have hcollect : ∀ e ∈ (p.collect ticket).parked, (p.answer? ticket).isSome →
        e ∈ p.parked ∧ some ticket ≠ some e.1 :=
      fun e he ha => ⟨he, fun ht => h.gone_collect ha e he (Option.some.inj ht).symm⟩
    obtain ⟨item, ha, hd⟩ | ⟨ha, hd⟩ | ⟨-, hd⟩ := hd
    · rw [hd]
      exact fun e he => hcollect e ((noneJoins_restore _ item).parked he) (by simp [ha])
    · rw [hd]
      exact fun e he => hcollect e he (by simp [ha])
    · rw [hd]
      intro e he
      obtain ⟨hmem, hne⟩ := List.mem_filter.mp he
      exact ⟨hmem, fun ht => by simp [(Option.some.inj ht).symm] at hne⟩

theorem Sound.gone_pollRead {p : Pipe α} (h : p.Sound) (waker : Waker) (state : ReadState)
    {item : Option α} (hready : (p.pollRead waker state).1 = .ready item) :
    ∀ e ∈ (p.pollRead waker state).2.2.1.parked, e ∈ p.parked ∧ state.ticket? ≠ some e.1 := by
  obtain ⟨rfl, hp⟩ | ⟨ticket, rfl, hp⟩ | ⟨rfl, hp⟩ := p.pollRead_cases waker state
  · rw [hp]
    exact fun e he => ⟨he, by simp [ReadState.ticket?]⟩
  · obtain ⟨_, ha, hp⟩ | ⟨-, hp⟩ := hp
    · rw [hp]
      exact fun e he =>
        ⟨he, fun ht => h.gone_collect (by simp [ha]) e he (Option.some.inj ht).symm⟩
    · simp [hp] at hready
  · obtain ⟨-, hp⟩ | ⟨-, ⟨item, rest, -, hp⟩ | ⟨-, ⟨-, hp⟩ | ⟨-, hp⟩⟩⟩ := hp
    · rw [hp]
      exact fun e he => ⟨he, by simp [ReadState.ticket?]⟩
    · rw [hp]
      exact fun e he => ⟨he, by simp [ReadState.ticket?]⟩
    · rw [hp]
      exact fun e he => ⟨he, by simp [ReadState.ticket?]⟩
    · simp [hp] at hready

/-- A read that has to wait keeps its ticket or takes a new one, and nobody else moves. -/
theorem Sound.waits_pollRead {p : Pipe α} (h : p.Sound) (waker : Waker) (state : ReadState)
    (hpending : (p.pollRead waker state).1 = .pending) :
    ∃ ticket, (p.pollRead waker state).2.1 = .parked ticket ∧
      (state.ticket? = some ticket ∨ state.ticket? = none ∧ ticket ∉ p.tickets) ∧
      ∀ e ∈ (p.pollRead waker state).2.2.1.parked,
        e = (ticket, waker) ∨ e ∈ p.parked ∧ e.1 ≠ ticket := by
  obtain ⟨-, hp⟩ | ⟨ticket, rfl, hp⟩ | ⟨rfl, hp⟩ := p.pollRead_cases waker state
  · simp [hp] at hpending
  · obtain ⟨_, -, hp⟩ | ⟨-, hp⟩ := hp
    · simp [hp] at hpending
    · refine ⟨ticket, by rw [hp], .inl rfl, ?_⟩
      rw [hp]
      intro e he
      obtain ⟨e', he', rfl⟩ := List.mem_map.mp he
      by_cases ht : e'.1 = ticket
      · exact .inl (by simp [ht])
      · exact .inr (by simp [ht, he'])
  · obtain ⟨-, hp⟩ | ⟨-, ⟨item, rest, -, hp⟩ | ⟨-, ⟨-, hp⟩ | ⟨-, hp⟩⟩⟩ := hp
    · simp [hp] at hpending
    · simp [hp] at hpending
    · simp [hp] at hpending
    · have hnew : p.nextTicket ∉ p.tickets := fun ht => Nat.lt_irrefl _ (h.issued _ ht)
      refine ⟨p.nextTicket, by rw [hp], .inr ⟨rfl, hnew⟩, ?_⟩
      rw [hp]
      intro e he
      rcases List.mem_append.mp he with he | he
      · refine .inr ⟨he, fun ht => hnew ?_⟩
        exact List.mem_append_left _ (List.mem_map.mpr ⟨e, he, ht⟩)
      · exact .inl (List.mem_singleton.mp he)

end Pipe

end Pipework
