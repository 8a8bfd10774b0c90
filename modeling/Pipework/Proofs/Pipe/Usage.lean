import Pipework.Proofs.Pipe.Sound

/-!
# Pipes in use

A `Usage` is a pipe with everybody who uses it: any number of reads and writes under way, polled in
any order and by any task, dropped at any time, with handles opened and closed between them. It
keeps a record of the items accepted and of the answers that reads have returned.

No wakeup is lost:

* a **parked read** waits on an empty pipe that is open on both sides, under the waker of its
  latest poll;
* a **blocked write** waits while the buffer is full and both sides are open;
* a write that had to wait has been woken since, or keeps a waker of its task in the pipe.

The invariant behind it is `Usage.Watched`; each operation preserves it since it serves the
others.
-/

namespace Pipework

/-- A read under way. -/
structure Reading where
  /-- How far it has come. -/
  state : ReadState := .fresh
  /-- The waker of its latest poll. -/
  waker : Option Waker := none
  deriving DecidableEq

/-- A write under way. -/
structure Writing (α : Type) where
  /-- What it writes. -/
  item : α
  /-- The waker of its latest poll, which had to wait. -/
  waker : Option Waker := none
  /-- The waker has been called since. -/
  woken : Bool := false

/-- One operation on a pipe. Reads and writes under way go by numbers; a number in use is not given
out twice. -/
inductive Use (α : Type) where
  /-- Count a handle for reading. -/
  | openRead
  /-- Count a handle for writing. -/
  | openWrite
  /-- Release a handle for reading. -/
  | closeRead
  /-- Release a handle for writing. -/
  | closeWrite
  /-- Close both sides. -/
  | forceClose
  /-- Write without waiting. -/
  | tryWrite (item : α)
  /-- Start a write. -/
  | write (id : Nat) (item : α)
  /-- Poll a write. -/
  | pollWrite (id : Nat) (waker : Waker)
  /-- Abandon a write. -/
  | dropWrite (id : Nat)
  /-- Start a read. -/
  | read (id : Nat)
  /-- Poll a read. -/
  | pollRead (id : Nat) (waker : Waker)
  /-- Abandon a read. -/
  | dropRead (id : Nat)

/-- A pipe and its users. -/
structure Usage (α : Type) where
  /-- The pipe. -/
  pipe : Pipe α
  /-- The reads under way. -/
  reads : Nat → Option Reading := fun _ => none
  /-- The writes under way. -/
  writes : Nat → Option (Writing α) := fun _ => none
  /-- The items that the pipe has taken, oldest first. -/
  accepted : List α := []
  /-- The answers of the reads that are over, oldest first. -/
  answers : List (Option α) := []

/-- A write hears whether its waker is called. -/
def Writing.hear {α : Type} (events : List Pipe.Event) (w : Writing α) : Writing α :=
  match w.waker with
  | some waker => if .wake waker ∈ events then { w with woken := true } else w
  | none => w

namespace Usage

variable {α : Type}

/-- A new pipe that nobody uses. -/
def create (name : String) (capacity : Nat) : Usage α :=
  { pipe := (Pipe.create name capacity).1 }

/-- The items that reads have returned, oldest first. -/
def returned (u : Usage α) : List α := u.answers.filterMap id

/-- The pipe has changed with these events, which the writes under way hear. -/
def after (u : Usage α) (p : Pipe α) (events : List Pipe.Event) : Usage α :=
  { u with pipe := p, writes := fun id => (u.writes id).map (·.hear events) }

/-- A read has come this far, or is gone. -/
def setRead (u : Usage α) (id : Nat) (r : Option Reading) : Usage α :=
  { u with reads := Function.update u.reads id r }

/-- A write has come this far, or is gone. -/
def setWrite (u : Usage α) (id : Nat) (w : Option (Writing α)) : Usage α :=
  { u with writes := Function.update u.writes id w }

/-- An item has been taken. -/
def accept (u : Usage α) (item : α) : Usage α := { u with accepted := u.accepted ++ [item] }

/-- A read has returned. -/
def answer (u : Usage α) (item : Option α) : Usage α := { u with answers := u.answers ++ [item] }

/-- Carry out one operation. -/
def step (u : Usage α) : Use α → Usage α
  | .openRead => u.after u.pipe.openRead.1 u.pipe.openRead.2
  | .openWrite => u.after u.pipe.openWrite.1 u.pipe.openWrite.2
  | .closeRead => u.after u.pipe.closeRead.2.1 u.pipe.closeRead.2.2
  | .closeWrite => u.after u.pipe.closeWrite.2.1 u.pipe.closeWrite.2.2
  | .forceClose => u.after u.pipe.forceClose.1 u.pipe.forceClose.2
  | .tryWrite item =>
    match u.pipe.tryWrite item with
    | (.ok (), p, events) => (u.after p events).accept item
    | (.error _, p, events) => u.after p events
  | .write id item => if (u.writes id).isSome then u else u.setWrite id (some { item := item })
  | .pollWrite id waker =>
    match u.writes id with
    | none => u
    | some w =>
      match u.pipe.pollWrite waker w.item with
      | (.pending, p, events) =>
        (u.after p events).setWrite id (some { item := w.item, waker := some waker })
      | (.ready (.ok ()), p, events) => ((u.after p events).setWrite id none).accept w.item
      | (.ready (.error _), p, events) => (u.after p events).setWrite id none
  | .dropWrite id => u.setWrite id none
  | .read id => if (u.reads id).isSome then u else u.setRead id (some {})
  | .pollRead id waker =>
    match u.reads id with
    | none => u
    | some r =>
      match u.pipe.pollRead waker r.state with
      | (.pending, state, p, events) => (u.after p events).setRead id (some ⟨state, some waker⟩)
      | (.ready item, _, p, events) => ((u.after p events).setRead id none).answer item
  | .dropRead id =>
    match u.reads id with
    | none => u
    | some r =>
      (u.after (u.pipe.dropRead r.state).1 (u.pipe.dropRead r.state).2).setRead id none

/-- Carry out operations one after another. -/
def run (u : Usage α) (uses : List (Use α)) : Usage α := uses.foldl step u

/-! ## Nobody is forgotten -/

/-- The invariant of a pipe in use. -/
structure Watched (u : Usage α) : Prop where
  /-- The pipe is sound. -/
  sound : u.pipe.Sound
  /-- Who is parked is a read under way, with the waker of its latest poll. -/
  owned : ∀ e ∈ u.pipe.parked, ∃ id, u.reads id = some ⟨.parked e.1, some e.2⟩
  /-- A read that waits holds a ticket that is in use. -/
  held : ∀ id r ticket, u.reads id = some r → r.state.ticket? = some ticket →
    ticket ∈ u.pipe.tickets
  /-- No two reads share a ticket. -/
  distinct : ∀ id id' r r' ticket, u.reads id = some r → u.reads id' = some r' →
    r.state.ticket? = some ticket → r'.state.ticket? = some ticket → id = id'
  /-- A write that has to wait has been woken or will be. -/
  awaited : ∀ id w waker, u.writes id = some w → w.waker = some waker →
    w.woken = true ∨ waker ∈ u.pipe.blocked

theorem watched_create (name : String) (capacity : Nat) :
    (create name capacity : Usage α).Watched where
  sound := Pipe.sound_create name capacity
  owned := by simp [create, Pipe.create]
  held := by simp [create]
  distinct := by simp [create]
  awaited := by simp [create]

/-- A write hears the wakers that a pipe lets go. -/
theorem awaited_after {u : Usage α} (h : u.Watched) {own : Option Nat} {p : Pipe α}
    {events : List Pipe.Event} (hserves : Pipe.Serves own u.pipe p events) :
    ∀ id w waker, (u.after p events).writes id = some w → w.waker = some waker →
      w.woken = true ∨ waker ∈ p.blocked := by
  intro id w waker hw hwaker
  obtain ⟨v, hv, rfl⟩ := Option.map_eq_some_iff.mp hw
  by_cases hcalled : ∃ waker', v.waker = some waker' ∧ .wake waker' ∈ events
  · obtain ⟨waker', hv', hmem⟩ := hcalled
    exact .inl (by simp [Writing.hear, hv', hmem])
  · have hsame : v.hear events = v := by
      unfold Writing.hear
      split
      · rename_i waker' hv'
        exact if_neg fun hmem => hcalled ⟨waker', hv', hmem⟩
      · rfl
    rw [hsame] at hwaker ⊢
    rcases h.awaited id v waker hv hwaker with hwoken | hblocked
    · exact .inl hwoken
    · rcases hserves.blocked waker hblocked with hstays | hwake
      · exact .inr hstays
      · exact absurd ⟨waker, hwaker, hwake⟩ hcalled

/-- An operation without a read of its own that parks nobody. -/
theorem Watched.after {u : Usage α} (h : u.Watched) {p : Pipe α} {events : List Pipe.Event}
    (hsound : p.Sound) (hserves : Pipe.Serves none u.pipe p events)
    (hjoins : Pipe.NoneJoins u.pipe p) : (u.after p events).Watched where
  sound := hsound
  owned e he := h.owned e (hjoins.parked he)
  held id r ticket hr ht := hserves.mem_tickets (h.held id r ticket hr ht) (by simp)
  distinct := h.distinct
  awaited := awaited_after h hserves

theorem Watched.setWrite {u : Usage α} (h : u.Watched) (id : Nat) {w : Option (Writing α)}
    (hw : ∀ v waker, w = some v → v.waker = some waker → waker ∈ u.pipe.blocked) :
    (u.setWrite id w).Watched :=
  { h with
    awaited := by
      intro id' v waker hv hwaker
      by_cases hid : id' = id
      · subst hid
        exact .inr (hw v waker (by simpa [Usage.setWrite] using hv) hwaker)
      · exact h.awaited id' v waker (by simpa [Usage.setWrite, hid] using hv) hwaker }

theorem Watched.accept {u : Usage α} (h : u.Watched) (item : α) : (u.accept item).Watched :=
  ⟨h.sound, h.owned, h.held, h.distinct, h.awaited⟩

theorem Watched.answer {u : Usage α} (h : u.Watched) (item : Option α) : (u.answer item).Watched :=
  ⟨h.sound, h.owned, h.held, h.distinct, h.awaited⟩

/-- A read is over or gone: its ticket is no longer parked. -/
theorem Watched.endRead {u : Usage α} (h : u.Watched) {id : Nat} {r : Reading} {p : Pipe α}
    {events : List Pipe.Event} (hr : u.reads id = some r) (hsound : p.Sound)
    (hserves : Pipe.Serves r.state.ticket? u.pipe p events)
    (hparked : ∀ e ∈ p.parked, e ∈ u.pipe.parked ∧ r.state.ticket? ≠ some e.1) :
    ((u.after p events).setRead id none).Watched where
  sound := hsound
  owned e he := by
    obtain ⟨hmem, hne⟩ := hparked e he
    obtain ⟨id', hid'⟩ := h.owned e hmem
    have hother : id' ≠ id := by
      rintro rfl
      rw [hr] at hid'
      exact hne (by rw [Option.some.inj hid']; rfl)
    exact ⟨id', by simpa [Usage.setRead, Usage.after, hother] using hid'⟩
  held id' r' ticket hr' ht := by
    have hother : id' ≠ id := by
      rintro rfl
      simp [Usage.setRead] at hr'
    have hr' : u.reads id' = some r' := by simpa [Usage.setRead, Usage.after, hother] using hr'
    refine hserves.mem_tickets (h.held id' r' ticket hr' ht) fun hown => ?_
    exact hother (h.distinct id' id r' r ticket hr' hr ht hown)
  distinct id₁ id₂ r₁ r₂ ticket h₁ h₂ := by
    have hother : ∀ {id' r'}, (((u.after p events).setRead id none).reads id' = some r') →
        u.reads id' = some r' := by
      intro id' r' hr'
      by_cases hid : id' = id
      · simp [Usage.setRead, hid] at hr'
      · simpa [Usage.setRead, Usage.after, hid] using hr'
    exact h.distinct id₁ id₂ r₁ r₂ ticket (hother h₁) (hother h₂)
  awaited := awaited_after h hserves

/-- A read has to wait, under its own ticket or a new one. -/
theorem Watched.waitRead {u : Usage α} (h : u.Watched) {id : Nat} {r : Reading} {p : Pipe α}
    {events : List Pipe.Event} {ticket : Nat} {waker : Waker} (hr : u.reads id = some r)
    (hsound : p.Sound) (hserves : Pipe.Serves r.state.ticket? u.pipe p events)
    (hticket : r.state.ticket? = some ticket ∨ r.state.ticket? = none ∧ ticket ∉ u.pipe.tickets)
    (hmem : ticket ∈ p.tickets)
    (hparked : ∀ e ∈ p.parked, e = (ticket, waker) ∨ e ∈ u.pipe.parked ∧ e.1 ≠ ticket) :
    ((u.after p events).setRead id (some ⟨.parked ticket, some waker⟩)).Watched := by
  have hself : ∀ r', ((u.after p events).setRead id (some ⟨.parked ticket, some waker⟩)).reads id =
      some r' → r'.state.ticket? = some ticket := by
    intro r' hr'
    simp only [Usage.setRead, Function.update_self, Option.some.injEq] at hr'
    rw [← hr']
    rfl
  have hrest : ∀ {id'}, id' ≠ id →
      ((u.after p events).setRead id (some ⟨.parked ticket, some waker⟩)).reads id' = u.reads id' := by
    intro id' hid
    simp [Usage.setRead, Usage.after, hid]
  -- the ticket is not one of another read, nor does another read lose its own
  have hother : ∀ id' r' ticket', id' ≠ id → u.reads id' = some r' →
      r'.state.ticket? = some ticket' → ticket' ≠ ticket ∧ r.state.ticket? ≠ some ticket' := by
    intro id' r' ticket' hid hr' ht'
    have hown : r.state.ticket? ≠ some ticket' := fun ht =>
      hid (h.distinct id' id r' r ticket' hr' hr ht' ht)
    refine ⟨?_, hown⟩
    rintro rfl
    rcases hticket with hold | ⟨-, hnew⟩
    · exact hown hold
    · exact hnew (h.held id' r' ticket' hr' ht')
  refine ⟨hsound, ?_, ?_, ?_, awaited_after h hserves⟩
  · intro e he
    rcases hparked e he with rfl | ⟨hold, hne⟩
    · exact ⟨id, by simp [Usage.setRead]⟩
    · obtain ⟨id', hid'⟩ := h.owned e hold
      have hid : id' ≠ id := by
        rintro rfl
        rw [Option.some.inj (hr.symm.trans hid')] at hticket
        rcases hticket with ht | ⟨ht, -⟩
        · exact hne (Option.some.inj ht)
        · exact absurd ht (by simp [ReadState.ticket?])
      exact ⟨id', by rw [hrest hid, hid']⟩
  · intro id' r' ticket' hr' ht'
    by_cases hid : id' = id
    · subst hid
      rw [hself r' hr'] at ht'
      exact Option.some.inj ht' ▸ hmem
    · rw [hrest hid] at hr'
      exact hserves.mem_tickets (h.held id' r' ticket' hr' ht')
        (hother id' r' ticket' hid hr' ht').2
  · intro id₁ id₂ r₁ r₂ ticket' h₁ h₂ ht₁ ht₂
    by_cases hid₁ : id₁ = id
    · by_cases hid₂ : id₂ = id
      · rw [hid₁, hid₂]
      · rw [hid₁] at h₁
        rw [hself r₁ h₁] at ht₁
        rw [hrest hid₂] at h₂
        exact absurd (Option.some.inj ht₁).symm (hother id₂ r₂ ticket' hid₂ h₂ ht₂).1
    · rw [hrest hid₁] at h₁
      by_cases hid₂ : id₂ = id
      · rw [hid₂] at h₂
        rw [hself r₂ h₂] at ht₂
        exact absurd (Option.some.inj ht₂).symm (hother id₁ r₁ ticket' hid₁ h₁ ht₁).1
      · rw [hrest hid₂] at h₂
        exact h.distinct id₁ id₂ r₁ r₂ ticket' h₁ h₂ ht₁ ht₂

/-- A read that has not been polled claims nothing. -/
theorem Watched.startRead {u : Usage α} (h : u.Watched) {id : Nat} (hid : u.reads id = none) :
    (u.setRead id (some {})).Watched := by
  have hold : ∀ {id' r' ticket}, (u.setRead id (some {})).reads id' = some r' →
      r'.state.ticket? = some ticket → u.reads id' = some r' := by
    intro id' r' ticket hr' ht
    by_cases heq : id' = id
    · simp only [Usage.setRead, heq, Function.update_self, Option.some.injEq] at hr'
      rw [← hr'] at ht
      exact absurd ht (by simp [ReadState.ticket?])
    · simpa [Usage.setRead, heq] using hr'
  refine ⟨h.sound, ?_, ?_, ?_, h.awaited⟩
  · intro e he
    obtain ⟨id', hid'⟩ := h.owned e he
    have hne : id' ≠ id := by
      rintro rfl
      exact absurd (hid.symm.trans hid') (by simp)
    exact ⟨id', by simpa [Usage.setRead, hne] using hid'⟩
  · exact fun id' r' ticket hr' ht => h.held id' r' ticket (hold hr' ht) ht
  · exact fun id₁ id₂ r₁ r₂ ticket h₁ h₂ ht₁ ht₂ =>
      h.distinct id₁ id₂ r₁ r₂ ticket (hold h₁ ht₁) (hold h₂ ht₂) ht₁ ht₂

theorem Watched.pollWrite {u : Usage α} (h : u.Watched) (id : Nat) (waker : Waker) :
    (u.step (.pollWrite id waker)).Watched := by
  simp only [step]
  split
  · exact h
  · rename_i w hw
    have hafter := h.after (h.sound.pollWrite waker w.item)
      (Pipe.serves_pollWrite u.pipe waker w.item)
      (by rw [Pipe.pollWrite_snd]; exact Pipe.noneJoins_offer _ _ _)
    split
    · rename_i p events hp
      rw [hp] at hafter
      refine hafter.setWrite id fun v waker' hv hwaker => ?_
      obtain ⟨hblocked, -⟩ := Pipe.pollWrite_pending u.pipe waker w.item (by rw [hp])
      rw [hp] at hblocked
      rw [← Option.some.inj hv] at hwaker
      exact Option.some.inj hwaker ▸ hblocked
    · rename_i p events hp
      rw [hp] at hafter
      exact (hafter.setWrite id (by simp)).accept w.item
    · rename_i p events hp
      rw [hp] at hafter
      exact hafter.setWrite id (by simp)

theorem Watched.pollRead {u : Usage α} (h : u.Watched) (id : Nat) (waker : Waker) :
    (u.step (.pollRead id waker)).Watched := by
  simp only [step]
  split
  · exact h
  · rename_i r hr
    have hsound := h.sound.pollRead waker r.state
    have hserves := Pipe.serves_pollRead u.pipe waker r.state
    split
    · rename_i state p events hp
      have hpending : (u.pipe.pollRead waker r.state).1 = .pending := by rw [hp]
      obtain ⟨ticket, hstate, hticket, hparked⟩ := h.sound.waits_pollRead waker r.state hpending
      obtain ⟨ticket', hstate', hmem, -⟩ := Pipe.pollRead_pending u.pipe waker r.state hpending
        (fun ticket ht => h.held id r ticket hr ht)
      rw [hp] at hsound hserves hstate hparked hstate' hmem
      obtain rfl : ticket' = ticket := by simpa using hstate'.symm.trans hstate
      rw [show state = .parked ticket' from hstate]
      exact h.waitRead hr hsound hserves hticket
        (List.mem_append_left _ (List.mem_map.mpr ⟨_, hmem, rfl⟩)) hparked
    · rename_i item _ p events hp
      have hgone := h.sound.gone_pollRead waker r.state (by rw [hp])
      rw [hp] at hsound hserves hgone
      exact (h.endRead hr hsound hserves hgone).answer item

/-- Every operation keeps the invariant. -/
theorem Watched.step {u : Usage α} (h : u.Watched) (use : Use α) : (u.step use).Watched := by
  cases use with
  | openRead => exact h.after h.sound.openRead (Pipe.serves_openRead _) (.of_eq rfl rfl)
  | openWrite => exact h.after h.sound.openWrite (Pipe.serves_openWrite _) (.of_eq rfl rfl)
  | closeRead =>
    exact h.after h.sound.closeRead (Pipe.serves_closeRead _) (Pipe.noneJoins_closeRead _)
  | closeWrite =>
    exact h.after h.sound.closeWrite (Pipe.serves_closeWrite _) (Pipe.noneJoins_closeWrite _)
  | forceClose =>
    exact h.after h.sound.forceClose (Pipe.serves_forceClose _) (Pipe.noneJoins_forceClose _)
  | tryWrite item =>
    have hafter := h.after (h.sound.tryWrite item) (Pipe.serves_tryWrite u.pipe item)
      (by rw [Pipe.tryWrite_snd]; exact Pipe.noneJoins_offer _ _ _)
    simp only [Usage.step]
    split
    · rename_i p events hp
      rw [hp] at hafter
      exact hafter.accept item
    · rename_i p events hp
      rw [hp] at hafter
      exact hafter
  | write id item =>
    simp only [Usage.step]
    split
    · exact h
    · exact h.setWrite id (by rintro v waker hv hwaker; simp [← Option.some.inj hv] at hwaker)
  | pollWrite id waker => exact h.pollWrite id waker
  | dropWrite id => exact h.setWrite id (by simp)
  | read id =>
    simp only [Usage.step]
    split
    · exact h
    · rename_i hid
      exact h.startRead (Option.not_isSome_iff_eq_none.mp hid)
  | pollRead id waker => exact h.pollRead id waker
  | dropRead id =>
    simp only [Usage.step]
    split
    · exact h
    · rename_i r hr
      exact h.endRead hr (h.sound.dropRead r.state) (Pipe.serves_dropRead u.pipe r.state)
        (h.sound.gone_dropRead r.state)

theorem Watched.run {u : Usage α} (h : u.Watched) (uses : List (Use α)) : (u.run uses).Watched := by
  induction uses generalizing u with
  | nil => exact h
  | cons use uses ih => exact ih (h.step use)

/-- A read that holds a ticket without an answer is in the queue, with the waker of its latest
poll. -/
theorem Watched.mem_parked {u : Usage α} (h : u.Watched) {id : Nat} {r : Reading} {ticket : Nat}
    (hr : u.reads id = some r) (hstate : r.state = .parked ticket)
    (ha : u.pipe.answer? ticket = none) :
    ∃ waker, r.waker = some waker ∧ (ticket, waker) ∈ u.pipe.parked := by
  have ht : r.state.ticket? = some ticket := by rw [hstate]; rfl
  rcases List.mem_append.mp (h.held id r ticket hr ht) with hq | hq
  · obtain ⟨⟨ticket', waker⟩, he, rfl⟩ := List.mem_map.mp hq
    obtain ⟨id', hid'⟩ := h.owned _ he
    obtain rfl := h.distinct id' id _ r ticket' hid' hr rfl ht
    rw [Option.some.inj (hr.symm.trans hid')]
    exact ⟨waker, rfl, he⟩
  · obtain ⟨e, he, het⟩ := List.mem_map.mp hq
    simp only [Pipe.answer?, Option.map_eq_none_iff, List.find?_eq_none] at ha
    exact absurd (by simpa using het) (ha e he)

/-- No wakeup is lost, whoever uses a pipe and in whatever order. A parked read waits on an empty
pipe with both sides open, under the waker of its latest poll; a blocked write waits on a full pipe
with both sides open; a write that had to wait has been woken since or will be. -/
theorem no_lost_wakeup (name : String) (capacity : Nat) (uses : List (Use α)) :
    let u := (create name capacity).run uses
    (∀ id r ticket, u.reads id = some r → r.state = .parked ticket →
      u.pipe.answer? ticket = none →
        u.pipe.buffer = [] ∧ u.pipe.readClosed = false ∧ u.pipe.writeClosed = false ∧
          ∃ waker, r.waker = some waker ∧ (ticket, waker) ∈ u.pipe.parked) ∧
    (∀ e ∈ u.pipe.parked,
      u.pipe.buffer = [] ∧ u.pipe.readClosed = false ∧ u.pipe.writeClosed = false ∧
        ∃ id, u.reads id = some ⟨.parked e.1, some e.2⟩) ∧
    (∀ waker ∈ u.pipe.blocked, u.pipe.capacity ≤ u.pipe.buffer.length ∧
      u.pipe.readClosed = false ∧ u.pipe.writeClosed = false) ∧
    ∀ id w waker, u.writes id = some w → w.waker = some waker →
      w.woken = true ∨ waker ∈ u.pipe.blocked := by
  intro u
  have h : u.Watched := (watched_create name capacity).run uses
  have hparked : ∀ e ∈ u.pipe.parked, u.pipe.buffer = [] ∧ u.pipe.readClosed = false ∧
      u.pipe.writeClosed = false := fun e he => h.sound.parked (List.ne_nil_of_mem he)
  refine ⟨?_, ?_, ?_, h.awaited⟩
  · intro id r ticket hr hstate ha
    obtain ⟨waker, hwaker, hmem⟩ := h.mem_parked hr hstate ha
    obtain ⟨hb, hrc, hwc⟩ := hparked _ hmem
    exact ⟨hb, hrc, hwc, waker, hwaker, hmem⟩
  · intro e he
    obtain ⟨hb, hrc, hwc⟩ := hparked e he
    exact ⟨hb, hrc, hwc, h.owned e he⟩
  · exact fun waker hwaker => h.sound.blocked (List.ne_nil_of_mem hwaker)

end Usage

end Pipework
