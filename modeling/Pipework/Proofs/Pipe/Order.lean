import Pipework.Proofs.Pipe.Stock
import Pipework.Proofs.Pipe.Usage

/-!
# What reads return

A pipe in use on which reads wait one at a time (`Usage.OneRead`) is a queue, however many writes
are under way and whatever is dropped or closed:

* reads return a prefix of the accepted items, in the order of acceptance;
* while the reading side is open, a read meets the end of data only after the writing side has
  closed and everything accepted has been returned;
* every read after that meets the end of data too.

The invariant is `Usage.Ordered`: the accepted items are those returned, followed by the stock of
the pipe, followed by what a closed reading side has dropped.
-/

namespace Pipework

namespace Usage

variable {α : Type}

/-- No other read waits. -/
def Alone (u : Usage α) (id : Nat) : Prop :=
  ∀ id' r, u.reads id' = some r → r.state ≠ .fresh → id' = id

/-- A read is polled only while no other read waits. -/
def OneRead (u : Usage α) : List (Use α) → Prop
  | [] => True
  | .pollRead id waker :: uses => u.Alone id ∧ (u.step (.pollRead id waker)).OneRead uses
  | use :: uses => (u.step use).OneRead uses

/-- The invariant of a pipe on which reads wait one at a time. -/
structure Ordered (u : Usage α) : Prop where
  watched : u.Watched
  single : u.pipe.Single
  /-- A read that is over is not under way. -/
  live : ∀ id r, u.reads id = some r → r.state ≠ .finished
  /-- Whoever waits is a read under way. -/
  waiting : ∀ ticket ∈ u.pipe.tickets, ∃ id r, u.reads id = some r ∧ r.state.ticket? = some ticket
  /-- Two reads do not wait at once. -/
  alone : ∀ id r, u.reads id = some r → r.state ≠ .fresh → u.Alone id
  /-- Nothing is reordered or made up, and nothing is lost but to a closed reading side. -/
  ordered : ∃ lost, u.accepted = u.returned ++ u.pipe.stock ++ lost ∧
    (u.pipe.readClosed = false → lost = [])

theorem ordered_create (name : String) (capacity : Nat) :
    (create name capacity : Usage α).Ordered where
  watched := watched_create name capacity
  single := Pipe.single_create name capacity
  live := by simp [create]
  waiting := by simp [create, Pipe.create, Pipe.tickets]
  alone := by simp [create]
  ordered := ⟨[], by simp [create, returned, Pipe.create, Pipe.stock], fun _ => rfl⟩

namespace Ordered

variable {u : Usage α}

theorem returned_accepted (h : u.Ordered) : u.returned <+: u.accepted := by
  obtain ⟨lost, hlost, -⟩ := h.ordered
  rw [hlost, List.append_assoc]
  exact List.prefix_append _ _

/-- The flow through a pipe from which the stock is taken at its head and lost at its end. -/
theorem flow (h : u.Ordered) {p : Pipe α} (hclosed : u.pipe.readClosed = true → p.readClosed = true)
    (taken : List α) (hkeeps : ∃ lost, u.pipe.stock = taken ++ p.stock ++ lost ∧
      (p.readClosed = false → lost = [])) :
    ∃ lost, u.accepted = u.returned ++ taken ++ p.stock ++ lost ∧
      (p.readClosed = false → lost = []) := by
  obtain ⟨lost, hlost, hopen⟩ := h.ordered
  obtain ⟨lost', hlost', hopen'⟩ := hkeeps
  refine ⟨lost' ++ lost, ?_, fun hp => ?_⟩
  · rw [hlost, hlost']
    simp only [List.append_assoc]
  · have hu : u.pipe.readClosed = false := by
      cases hc : u.pipe.readClosed with
      | false => rfl
      | true => exact absurd (hclosed hc) (by simp [hp])
    rw [hopen hu, hopen' hp, List.append_nil]

/-- An operation without a read of its own that accepts nothing. -/
theorem after (h : u.Ordered) {p : Pipe α} {events : List Pipe.Event} (hsingle : p.Single)
    (hserves : Pipe.Serves none u.pipe p events) (hjoins : Pipe.NoneJoins u.pipe p)
    (hkeeps : Pipe.Keeps u.pipe p) : (u.after p events).Ordered where
  watched := h.watched.after hsingle.sound hserves hjoins
  single := hsingle
  live := h.live
  waiting ticket ht := h.waiting ticket (hjoins.tickets ht)
  alone := h.alone
  ordered := by
    have hflow := h.flow hserves.readClosed [] (by simpa [Pipe.Keeps] using hkeeps)
    simpa [Usage.after, Usage.returned] using hflow

theorem setWrite (h : u.Ordered) (id : Nat) {w : Option (Writing α)}
    (hwatched : (u.setWrite id w).Watched) : (u.setWrite id w).Ordered :=
  ⟨hwatched, h.single, h.live, h.waiting, h.alone, h.ordered⟩

/-- An operation that accepts an item. -/
theorem accept (h : u.Ordered) {p : Pipe α} {events : List Pipe.Event} {item : α}
    (hsingle : p.Single) (hserves : Pipe.Serves none u.pipe p events)
    (hjoins : Pipe.NoneJoins u.pipe p) (hopen : u.pipe.readClosed = false)
    (hstock : p.stock = u.pipe.stock ++ [item]) : ((u.after p events).accept item).Ordered where
  watched := (h.watched.after hsingle.sound hserves hjoins).accept item
  single := hsingle
  live := h.live
  waiting ticket ht := h.waiting ticket (hjoins.tickets ht)
  alone := h.alone
  ordered := by
    obtain ⟨lost, hlost, hnone⟩ := h.ordered
    refine ⟨[], ?_, fun _ => rfl⟩
    rw [hnone hopen] at hlost
    simp [Usage.accept, Usage.after, Usage.returned, hlost, hstock]

/-- An item is offered, and recorded if the pipe takes it. -/
theorem offer (h : u.Ordered) (item : α) (waker : Option Waker) :
    let (outcome, p, events) := u.pipe.offer item waker
    if outcome = .accepted then ((u.after p events).accept item).Ordered
    else (u.after p events).Ordered := by
  have hsingle := h.single.offer item waker
  have hserves := Pipe.serves_offer u.pipe item waker
  have hjoins := Pipe.noneJoins_offer u.pipe item waker
  have hstock := h.single.stock_offer item waker
  have hopen := Pipe.Single.open_of_accepted u.pipe item waker
  rcases ho : u.pipe.offer item waker with ⟨outcome, p, events⟩
  rw [ho] at hsingle hserves hjoins hstock hopen
  by_cases haccepted : outcome = .accepted
  · simp only [haccepted, if_true] at hstock ⊢
    exact h.accept hsingle hserves hjoins (hopen haccepted) hstock
  · simp only [haccepted, if_false] at hstock ⊢
    exact h.after hsingle hserves hjoins (.of_eq (by simpa using hstock))

/-- The only read that waits holds the only ticket. -/
theorem tickets_eq (h : u.Ordered) {id : Nat} {r : Reading} (hr : u.reads id = some r)
    (halone : u.Alone id) : u.pipe.tickets = r.state.ticket?.toList := by
  have hmine : ∀ ticket ∈ u.pipe.tickets, r.state.ticket? = some ticket := by
    intro ticket ht
    obtain ⟨id', r', hr', ht'⟩ := h.waiting ticket ht
    obtain rfl := halone id' r' hr' (by rintro hfresh; simp [hfresh, ReadState.ticket?] at ht')
    rwa [Option.some.inj (hr.symm.trans hr')]
  cases hticket : r.state.ticket? with
  | none =>
    refine List.eq_nil_iff_forall_not_mem.mpr fun ticket ht => ?_
    simp [hmine ticket ht] at hticket
  | some ticket =>
    have hmem := h.watched.held id r ticket hr hticket
    obtain ⟨t, ht⟩ := List.length_eq_one_iff.mp
      (Nat.le_antisymm h.single.one (List.length_pos_of_mem hmem))
    rw [ht, List.mem_singleton] at hmem
    rw [ht, ← hmem]
    rfl

theorem pollWrite (h : u.Ordered) (id : Nat) (waker : Waker) :
    (u.step (.pollWrite id waker)).Ordered := by
  have hwatched := h.watched.step (.pollWrite id waker)
  simp only [step] at hwatched ⊢
  split
  · exact h
  · rename_i w hw
    have hoffer := h.offer w.item (some waker)
    rw [hw] at hwatched
    simp only [Pipe.pollWrite] at hwatched ⊢
    rcases ho : u.pipe.offer w.item (some waker) with ⟨outcome, p, events⟩
    rw [ho] at hoffer hwatched
    cases outcome with
    | accepted =>
      change (((u.after p events).accept w.item).setWrite id none).Ordered
      exact Ordered.setWrite (by simpa using hoffer) id hwatched
    | full => exact Ordered.setWrite (by simpa using hoffer) id hwatched
    | failed e => exact Ordered.setWrite (by simpa using hoffer) id hwatched

theorem tryWrite (h : u.Ordered) (item : α) : (u.step (.tryWrite item)).Ordered := by
  have hoffer := h.offer item none
  simp only [step, Pipe.tryWrite]
  rcases ho : u.pipe.offer item none with ⟨outcome, p, events⟩
  rw [ho] at hoffer
  cases outcome with
  | accepted => simpa using hoffer
  | full => simpa using hoffer
  | failed e => simpa using hoffer

/-- A read that waits alone goes on waiting. -/
theorem waitRead (h : u.Ordered) {id : Nat} {p : Pipe α} {ticket : Nat} {waker : Waker}
    {events : List Pipe.Event} (halone : u.Alone id) (hsingle : p.Single)
    (htickets : p.tickets = [ticket]) (hclosed : u.pipe.readClosed = true → p.readClosed = true)
    (hkeeps : Pipe.Keeps u.pipe p)
    (hwatched : ((u.after p events).setRead id (some ⟨.parked ticket, some waker⟩)).Watched) :
    ((u.after p events).setRead id (some ⟨.parked ticket, some waker⟩)).Ordered where
  watched := hwatched
  single := hsingle
  live id' r' hr' := by
    by_cases hid : id' = id
    · simp only [hid, setRead, Function.update_self, Option.some.injEq] at hr'
      simp [← hr']
    · exact h.live id' r' (by simpa [setRead, Usage.after, hid] using hr')
  waiting t ht := by
    have ht : t = ticket := by
      have : t ∈ p.tickets := ht
      rw [htickets] at this
      exact List.mem_singleton.mp this
    exact ⟨id, ⟨.parked ticket, some waker⟩, by simp [setRead], by rw [ht]; rfl⟩
  alone := by
    have hmine : ∀ id' r', ((u.after p events).setRead id
        (some ⟨.parked ticket, some waker⟩)).reads id' = some r' → r'.state ≠ .fresh → id' = id := by
      intro id' r' hr' hfresh
      by_contra hid
      exact hid (halone id' r' (by simpa [setRead, Usage.after, hid] using hr') hfresh)
    intro id₁ r₁ h₁ hfresh₁ id₂ r₂ h₂ hfresh₂
    rw [hmine id₁ r₁ h₁ hfresh₁, hmine id₂ r₂ h₂ hfresh₂]
  ordered := by
    have hflow := h.flow hclosed [] (by simpa [Pipe.Keeps] using hkeeps)
    simpa [setRead, Usage.after, Usage.returned] using hflow

/-- A read is gone, with these answers returned so far. -/
theorem endRead (h : u.Ordered) {id : Nat} {p : Pipe α} {events : List Pipe.Event}
    (answers : List (Option α)) (hsingle : p.Single)
    (hothers : ∀ ticket ∈ p.tickets, ticket ∈ u.pipe.tickets ∧
      ∀ r, u.reads id = some r → r.state.ticket? ≠ some ticket)
    (hwatched : ((u.after p events).setRead id none).Watched)
    (hordered : ∃ lost, u.accepted = answers.filterMap (·) ++ p.stock ++ lost ∧
      (p.readClosed = false → lost = [])) :
    ({ (u.after p events).setRead id none with answers := answers } : Usage α).Ordered := by
  have hold : ∀ {id' r'}, ((u.after p events).setRead id none).reads id' = some r' →
      id' ≠ id ∧ u.reads id' = some r' := by
    intro id' r' hr'
    by_cases hid : id' = id
    · simp [setRead, hid] at hr'
    · exact ⟨hid, by simpa [setRead, Usage.after, hid] using hr'⟩
  refine ⟨⟨hwatched.sound, hwatched.owned, hwatched.held, hwatched.distinct, hwatched.awaited⟩,
    hsingle, fun id' r' hr' => h.live id' r' (hold hr').2, ?_, ?_, hordered⟩
  · intro ticket ht
    obtain ⟨hmem, hgone⟩ := hothers ticket ht
    obtain ⟨id', r', hr', ht'⟩ := h.waiting ticket hmem
    have hid : id' ≠ id := by
      rintro rfl
      exact hgone r' hr' ht'
    exact ⟨id', r', by simpa [setRead, Usage.after, hid] using hr', ht'⟩
  · intro id₁ r₁ h₁ hfresh₁ id₂ r₂ h₂ hfresh₂
    exact h.alone id₁ r₁ (hold h₁).2 hfresh₁ id₂ r₂ (hold h₂).2 hfresh₂

theorem pollRead (h : u.Ordered) {id : Nat} (halone : u.Alone id) (waker : Waker) :
    (u.step (.pollRead id waker)).Ordered := by
  have hwatched := h.watched.step (.pollRead id waker)
  simp only [step] at hwatched ⊢
  split
  · exact h
  · rename_i r hr
    have hheld := h.tickets_eq hr halone
    have hsingle := h.single.pollRead waker hheld
    have hserves := Pipe.serves_pollRead u.pipe waker r.state
    have hstock := h.single.stock_pollRead waker hheld (h.live id r hr)
    have htickets := h.single.tickets_pollRead waker hheld
    have hwaits := h.watched.sound.waits_pollRead waker r.state
    rw [hr] at hwatched
    rcases hp : u.pipe.pollRead waker r.state with ⟨outcome, state, p, events⟩
    rw [hp] at hsingle hserves hstock htickets hwaits
    simp only [hp] at hwatched
    cases outcome with
    | pending =>
      obtain ⟨ticket, hstate, -⟩ := hwaits rfl
      obtain rfl : state = .parked ticket := hstate
      exact h.waitRead halone hsingle htickets hserves.readClosed
        (.of_eq (hstock.2.trans hstock.1.symm)) hwatched
    | ready item =>
      have hover := Pipe.pollRead_ready u.pipe waker r.state (by rw [hp])
      rw [hp] at hover
      obtain rfl : state = .finished := hover
      refine h.endRead (u.answers ++ [item]) hsingle ?_ ?_ ?_
      · intro ticket ht
        rw [htickets] at ht
        exact absurd ht (List.not_mem_nil)
      · exact ⟨hwatched.sound, hwatched.owned, hwatched.held, hwatched.distinct, hwatched.awaited⟩
      · cases item with
        | some item =>
          have hflow := h.flow hserves.readClosed [item]
            ⟨[], by simpa using hstock, fun _ => rfl⟩
          simpa [Usage.returned] using hflow
        | none =>
          have hflow := h.flow hserves.readClosed []
            ⟨[], by simp [hstock.1, hstock.2.1], fun _ => rfl⟩
          simpa [Usage.returned] using hflow

theorem dropRead (h : u.Ordered) (id : Nat) : (u.step (.dropRead id)).Ordered := by
  have hwatched := h.watched.step (.dropRead id)
  simp only [step] at hwatched ⊢
  split
  · exact h
  · rename_i r hr
    have hsingle := h.single.dropRead r.state
    have hserves := Pipe.serves_dropRead u.pipe r.state
    rw [hr] at hwatched
    refine h.endRead u.answers hsingle ?_ hwatched ?_
    · by_cases hfresh : r.state = .fresh
      · rw [hfresh]
        intro ticket ht
        refine ⟨ht, fun r' hr' => ?_⟩
        rw [← Option.some.inj (hr.symm.trans hr'), hfresh]
        simp [ReadState.ticket?]
      · have hheld := h.tickets_eq hr (h.alone id r hr hfresh)
        intro ticket ht
        rw [h.single.tickets_dropRead hheld] at ht
        exact absurd ht (List.not_mem_nil)
    · have hflow := h.flow hserves.readClosed []
        (by simpa [Pipe.Keeps] using h.single.keeps_dropRead r.state)
      simpa [Usage.returned] using hflow

/-- A read starts unpolled. -/
theorem startRead (h : u.Ordered) {id : Nat} (hid : u.reads id = none) :
    (u.setRead id (some {})).Ordered := by
  have hold : ∀ {id' r'}, (u.setRead id (some {})).reads id' = some r' → r'.state ≠ .fresh →
      u.reads id' = some r' := by
    intro id' r' hr' hfresh
    by_cases heq : id' = id
    · simp only [setRead, heq, Function.update_self, Option.some.injEq] at hr'
      exact absurd (by rw [← hr']) hfresh
    · simpa [setRead, heq] using hr'
  refine ⟨h.watched.startRead hid, h.single, ?_, ?_, ?_, h.ordered⟩
  · intro id' r' hr' hfinished
    exact h.live id' r' (hold hr' (by simp [hfinished])) hfinished
  · intro ticket ht
    obtain ⟨id', r', hr', ht'⟩ := h.waiting ticket ht
    have hne : id' ≠ id := by
      rintro rfl
      exact absurd (hid.symm.trans hr') (by simp)
    exact ⟨id', r', by simpa [setRead, hne] using hr', ht'⟩
  · intro id₁ r₁ h₁ hfresh₁ id₂ r₂ h₂ hfresh₂
    exact h.alone id₁ r₁ (hold h₁ hfresh₁) hfresh₁ id₂ r₂ (hold h₂ hfresh₂) hfresh₂

/-- Every operation keeps the invariant, polls under the condition that no other read waits. -/
theorem step (h : u.Ordered) (use : Use α)
    (halone : ∀ id waker, use = .pollRead id waker → u.Alone id) : (u.step use).Ordered := by
  cases use with
  | openRead =>
    exact h.after h.single.openRead (Pipe.serves_openRead _) (.of_eq rfl rfl) (.of_eq rfl)
  | openWrite =>
    exact h.after h.single.openWrite (Pipe.serves_openWrite _) (.of_eq rfl rfl) (.of_eq rfl)
  | closeRead =>
    exact h.after h.single.closeRead (Pipe.serves_closeRead _) (Pipe.noneJoins_closeRead _)
      (Pipe.keeps_closeRead _)
  | closeWrite =>
    exact h.after h.single.closeWrite (Pipe.serves_closeWrite _) (Pipe.noneJoins_closeWrite _)
      (.of_eq (Pipe.stock_closeWrite _))
  | forceClose =>
    exact h.after h.single.forceClose (Pipe.serves_forceClose _) (Pipe.noneJoins_forceClose _)
      (Pipe.keeps_forceClose _)
  | tryWrite item => exact h.tryWrite item
  | write id item =>
    have hwatched := h.watched.step (.write id item)
    simp only [Usage.step] at hwatched ⊢
    split
    · exact h
    · rename_i hid
      rw [if_neg hid] at hwatched
      exact h.setWrite id hwatched
  | pollWrite id waker => exact h.pollWrite id waker
  | dropWrite id => exact h.setWrite id (h.watched.step (.dropWrite id))
  | read id =>
    simp only [Usage.step]
    split
    · exact h
    · rename_i hid
      exact h.startRead (Option.not_isSome_iff_eq_none.mp hid)
  | pollRead id waker => exact h.pollRead (halone id waker rfl) waker
  | dropRead id => exact h.dropRead id

theorem run (h : u.Ordered) {uses : List (Use α)} (hone : u.OneRead uses) :
    (u.run uses).Ordered := by
  induction uses generalizing u with
  | nil => exact h
  | cons use uses ih =>
    have hrest : (u.step use).OneRead uses := by
      cases use with
      | pollRead id waker => exact hone.2
      | _ => exact hone
    refine ih (h.step use ?_) hrest
    rintro id waker rfl
    exact hone.1

end Ordered

end Usage

/-! ## After the end of data -/

/-- Nothing is left in a pipe that has closed. -/
structure Pipe.Drained {α : Type} (p : Pipe α) : Prop where
  closed : p.readClosed = true ∨ p.writeClosed = true
  empty : p.stock = []

namespace Pipe.Drained

variable {α : Type} {p : Pipe α}

theorem serve (h : p.Drained) {own : Option Nat} {p' : Pipe α} {events : List Event}
    (hserves : Serves own p p' events) (hempty : p'.stock = []) : p'.Drained :=
  ⟨h.closed.imp hserves.readClosed hserves.writeClosed, hempty⟩

theorem keep (h : p.Drained) {own : Option Nat} {p' : Pipe α} {events : List Event}
    (hserves : Serves own p p' events) (hkeeps : Keeps p p') : p'.Drained := by
  obtain ⟨lost, hlost, -⟩ := hkeeps
  rw [h.empty] at hlost
  exact h.serve hserves (List.append_eq_nil_iff.mp hlost.symm).1

/-- Nothing is accepted any more. -/
theorem offer (h : p.Drained) (item : α) (waker : Option Waker) :
    ∃ e events, p.offer item waker = (.failed e, p, events) := by
  obtain ⟨-, ho⟩ | ⟨-, -, ho⟩ | ⟨hr, hw, -⟩ := p.offer_cases item waker
  · exact ⟨_, _, ho⟩
  · exact ⟨_, _, ho⟩
  · have := h.closed
    simp [hr, hw] at this

theorem answer_eq_none (h : p.Drained) {ticket : Nat} {item : Option α}
    (ha : p.answer? ticket = some item) : item = none := by
  obtain ⟨e, hfound, rfl⟩ := Option.map_eq_some_iff.mp ha
  have hempty := List.filterMap_eq_nil_iff.mp (List.append_eq_nil_iff.mp h.empty).1
  exact hempty e (List.mem_of_find?_eq_some hfound)

theorem collect (h : p.Drained) (ticket : Nat) : (p.collect ticket).Drained := by
  refine h.serve (p.serves_collect ticket) ?_
  obtain ⟨hanswered, hbuffer⟩ := List.append_eq_nil_iff.mp h.empty
  refine List.append_eq_nil_iff.mpr ⟨?_, hbuffer⟩
  rw [List.filterMap_eq_nil_iff] at hanswered ⊢
  exact fun e he => hanswered e (List.mem_of_mem_filter he)

/-- A read that returns meets the end of data. -/
theorem pollRead (h : p.Drained) (waker : Waker) (state : ReadState) :
    (p.pollRead waker state).2.2.1.Drained ∧
      ((p.pollRead waker state).1 = .pending ∨ (p.pollRead waker state).1 = .ready none) := by
  obtain ⟨-, hp⟩ | ⟨ticket, -, ⟨_, ha, hp⟩ | ⟨-, hp⟩⟩ |
    ⟨-, ⟨-, hp⟩ | ⟨hr, ⟨_, _, hb, hp⟩ | ⟨-, ⟨-, hp⟩ | ⟨hw, hp⟩⟩⟩⟩ := p.pollRead_cases waker state
  · rw [hp]; exact ⟨h, .inr rfl⟩
  · rw [hp, h.answer_eq_none ha]; exact ⟨h.collect ticket, .inr rfl⟩
  · rw [hp]; exact ⟨h.serve (p.serves_rewake ticket waker) h.empty, .inl rfl⟩
  · rw [hp]; exact ⟨h, .inr rfl⟩
  · have := (List.append_eq_nil_iff.mp h.empty).2
    simp [hb] at this
  · rw [hp]; exact ⟨h, .inr rfl⟩
  · have := h.closed
    simp [hr, hw] at this

theorem dropRead (h : p.Drained) (state : ReadState) : (p.dropRead state).1.Drained := by
  obtain ⟨-, hd⟩ | ⟨ticket, -, ⟨item, ha, -⟩ | ⟨-, hd⟩ | ⟨-, hd⟩⟩ := p.dropRead_cases state
  · rw [hd]; exact h
  · exact absurd (h.answer_eq_none ha) (by simp)
  · rw [hd]; exact h.collect ticket
  · rw [hd]; exact h.serve (p.serves_unpark ticket) h.empty

end Pipe.Drained

namespace Usage

variable {α : Type} {u : Usage α}

/-- Once a pipe is drained it stays so, and every read that returns meets the end of data. -/
theorem drained_step (h : u.pipe.Drained) (use : Use α) :
    (u.step use).pipe.Drained ∧
      ∃ n, (u.step use).answers = u.answers ++ List.replicate n none := by
  have hsame : u.answers = u.answers ++ List.replicate 0 none := by simp
  cases use with
  | openRead => exact ⟨h.keep (Pipe.serves_openRead _) (.of_eq rfl), 0, hsame⟩
  | openWrite => exact ⟨h.keep (Pipe.serves_openWrite _) (.of_eq rfl), 0, hsame⟩
  | closeRead => exact ⟨h.keep (Pipe.serves_closeRead _) (Pipe.keeps_closeRead _), 0, hsame⟩
  | closeWrite =>
    exact ⟨h.keep (Pipe.serves_closeWrite _) (.of_eq (Pipe.stock_closeWrite _)), 0, hsame⟩
  | forceClose => exact ⟨h.keep (Pipe.serves_forceClose _) (Pipe.keeps_forceClose _), 0, hsame⟩
  | tryWrite item =>
    obtain ⟨e, events, ho⟩ := h.offer item none
    simp only [step, Pipe.tryWrite, ho]
    exact ⟨h, 0, hsame⟩
  | write id item =>
    simp only [step]
    split <;> exact ⟨h, 0, hsame⟩
  | pollWrite id waker =>
    simp only [step]
    split
    · exact ⟨h, 0, hsame⟩
    · rename_i w _
      obtain ⟨e, events, ho⟩ := h.offer w.item (some waker)
      simp only [Pipe.pollWrite, ho]
      exact ⟨h, 0, hsame⟩
  | dropWrite id => exact ⟨h, 0, hsame⟩
  | read id =>
    simp only [step]
    split <;> exact ⟨h, 0, hsame⟩
  | pollRead id waker =>
    simp only [step]
    split
    · exact ⟨h, 0, hsame⟩
    · rename_i r _
      obtain ⟨hdrained, houtcome⟩ := h.pollRead waker r.state
      rcases hp : u.pipe.pollRead waker r.state with ⟨outcome, state, p, events⟩
      rw [hp] at hdrained houtcome
      rcases houtcome with hpending | hready
      · obtain rfl : outcome = .pending := hpending
        exact ⟨hdrained, 0, hsame⟩
      · obtain rfl : outcome = .ready none := hready
        exact ⟨hdrained, 1, rfl⟩
  | dropRead id =>
    simp only [step]
    split
    · exact ⟨h, 0, hsame⟩
    · rename_i r _
      exact ⟨h.dropRead r.state, 0, hsame⟩

theorem drained_run (h : u.pipe.Drained) (uses : List (Use α)) :
    ∃ n, (u.run uses).answers = u.answers ++ List.replicate n none := by
  induction uses generalizing u with
  | nil => exact ⟨0, by simp [run]⟩
  | cons use uses ih =>
    obtain ⟨hdrained, n, hn⟩ := drained_step h use
    obtain ⟨m, hm⟩ := ih hdrained
    refine ⟨n + m, ?_⟩
    rw [run, List.foldl_cons, ← run, hm, hn, List.append_assoc, List.replicate_append_replicate]

/-- A read that returns the end of data has drained the pipe. -/
theorem Ordered.end_of_data (h : u.Ordered) {id : Nat} {waker : Waker} (halone : u.Alone id)
    (hend : (u.step (.pollRead id waker)).answers = u.answers ++ [none]) :
    u.pipe.Drained ∧ (u.step (.pollRead id waker)).pipe.Drained := by
  simp only [Usage.step] at hend ⊢
  split at hend
  · simp at hend
  · rename_i r hr
    have hserves := Pipe.serves_pollRead u.pipe waker r.state
    have hstock := h.single.stock_pollRead waker (h.tickets_eq hr halone)
      (h.live id r hr)
    rcases hp : u.pipe.pollRead waker r.state with ⟨outcome, state, p, events⟩
    rw [hp] at hserves hstock
    simp only [hp] at hend
    cases outcome with
    | pending => simp [setRead, Usage.after] at hend
    | ready item =>
      obtain rfl : item = none := by
        simpa [answer, setRead, Usage.after] using hend
      have hdrained : u.pipe.Drained := ⟨hstock.2.2, hstock.1⟩
      exact ⟨hdrained, hdrained.serve hserves hstock.2.1⟩

/-- Reads that wait one at a time return the accepted items in order. While the reading side is
open they meet the end of data only after the writing side has closed and all has been returned,
and from then on they meet nothing else, whatever is done. -/
theorem reads_in_order (name : String) (capacity : Nat) (uses : List (Use α))
    (hone : (create name capacity).OneRead uses) :
    let u := (create name capacity).run uses
    u.returned <+: u.accepted ∧
      ∀ id waker, u.Alone id → (u.step (.pollRead id waker)).answers = u.answers ++ [none] →
        (u.pipe.readClosed = false → u.pipe.writeClosed = true ∧ u.returned = u.accepted) ∧
          ∀ later, ∃ n, ((u.step (.pollRead id waker)).run later).answers =
            u.answers ++ List.replicate (n + 1) none := by
  intro u
  have h : u.Ordered := (ordered_create name capacity).run hone
  refine ⟨h.returned_accepted, fun id waker halone hend => ?_⟩
  obtain ⟨hdrained, hdrained'⟩ := h.end_of_data halone hend
  refine ⟨fun hopen => ⟨?_, ?_⟩, fun later => ?_⟩
  · rcases hdrained.closed with hclosed | hclosed
    · simp [hopen] at hclosed
    · exact hclosed
  · obtain ⟨lost, hlost, hnone⟩ := h.ordered
    rw [hlost, hdrained.empty, hnone hopen, List.append_nil, List.append_nil]
  · obtain ⟨n, hn⟩ := drained_run hdrained' later
    refine ⟨n, ?_⟩
    rw [hn, hend, List.append_assoc]
    rfl

/-- A write, a read of it, the end of data. -/
theorem reads_in_order_one :
    let uses : List (Use Nat) :=
      [.openWrite, .tryWrite 7, .read 0, .pollRead 0 .main, .closeWrite, .read 1]
    let u := (create "numbers" 1).run uses
    (create "numbers" 1).OneRead uses ∧ u.returned <+: u.accepted ∧ u.Alone 1 ∧
      (u.step (.pollRead 1 .main)).answers = u.answers ++ [none] ∧
      u.pipe.writeClosed = true ∧ u.returned = u.accepted := by
  intro uses u
  have halone₀ : ((create "numbers" 1).run (uses.take 3)).Alone 0 := by
    intro id r hr hfresh
    by_contra hid
    simp [uses, run, step, create, setRead, after, accept, Pipe.create, Pipe.tryWrite, Pipe.offer,
      Pipe.openWrite, hid] at hr
  have hone : (create "numbers" 1).OneRead uses := ⟨halone₀, trivial⟩
  have halone : u.Alone 1 := by
    intro id r hr hfresh
    by_contra hid
    have hnone : u.reads id = none := by
      change Function.update (Function.update (Function.update (fun _ => none) 0 _) 0 none) 1 _ id = none
      by_cases hzero : id = 0 <;> simp [hid, hzero]
    simp [hr] at hnone
  have hend : (u.step (.pollRead 1 .main)).answers = u.answers ++ [none] := by decide
  obtain ⟨hreturned, hrest⟩ := reads_in_order "numbers" 1 uses hone
  obtain ⟨hclosed, hall⟩ := (hrest 1 .main halone hend).1 rfl
  exact ⟨hone, hreturned, halone, hend, hclosed, hall⟩

end Usage

end Pipework
