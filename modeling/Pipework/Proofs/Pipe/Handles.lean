import Pipework.Proofs.Pipe.Attempts

/-!
# Handles and sides

However handles are opened, cloned, closed, dropped and used, the two sides of their pipe follow
them:

* **counts** — the count of a side is the number of its handles that have not been released
  (`Traffic.Counted`);
* **closing** — a side closes at the first operation that brings its count back to zero, and stays
  closed whatever is opened later;
* **independence** — what is done to a handle does not touch the other side;
* **the last close** — the close of a handle returns true when it closes the side, so at most once
  on either side.

One step is `Traffic.Advances`: the counts stay right, and a side closes exactly when its count
falls to zero.
-/

namespace Pipework

namespace Pipe

variable {α : Type}

/-- The open handles of a side. -/
def count (p : Pipe α) : Side → Nat
  | .read => p.readers
  | .write => p.writers

/-- The side has closed. -/
def closed (p : Pipe α) : Side → Bool
  | .read => p.readClosed
  | .write => p.writeClosed

namespace SameEnds

variable {p p' p'' : Pipe α}

theorem refl : SameEnds p p := ⟨rfl, rfl, rfl, rfl⟩

theorem trans (h : SameEnds p p') (h' : SameEnds p' p'') : SameEnds p p'' :=
  ⟨h'.readers.trans h.readers, h'.writers.trans h.writers, h'.readClosed.trans h.readClosed,
    h'.writeClosed.trans h.writeClosed⟩

theorem count (h : SameEnds p p') (side : Side) : p'.count side = p.count side := by
  cases side with
  | read => exact h.readers
  | write => exact h.writers

theorem closed (h : SameEnds p p') (side : Side) : p'.closed side = p.closed side := by
  cases side with
  | read => exact h.readClosed
  | write => exact h.writeClosed

end SameEnds

theorem sameEnds_tryWrite (p : Pipe α) (item : α) : SameEnds p (p.tryWrite item).2.1 := by
  rw [tryWrite_snd]
  exact p.sameEnds_offer item none

theorem sameEnds_pollWrite (p : Pipe α) (waker : Waker) (item : α) :
    SameEnds p (p.pollWrite waker item).2.1 := by
  rw [pollWrite_snd]
  exact p.sameEnds_offer item (some waker)

theorem sameEnds_restore (p : Pipe α) (item : α) : SameEnds p (p.restore item).1 := by
  obtain ⟨-, hp⟩ | ⟨-, ⟨_, _, _, -, hp⟩ | ⟨-, hp⟩⟩ := p.restore_cases item <;> rw [hp]
  · exact .refl
  · exact p.sameEnds_handOver item
  · exact ⟨rfl, rfl, rfl, rfl⟩

theorem sameEnds_dropRead (p : Pipe α) (state : ReadState) : SameEnds p (p.dropRead state).1 := by
  obtain ⟨-, hd⟩ | ⟨ticket, -, ⟨item, -, hd⟩ | ⟨-, hd⟩ | ⟨-, hd⟩⟩ := p.dropRead_cases state <;>
    rw [hd]
  · exact .refl
  · have hcollect : SameEnds p (p.collect ticket) := ⟨rfl, rfl, rfl, rfl⟩
    exact hcollect.trans ((p.collect ticket).sameEnds_restore item)
  · exact ⟨rfl, rfl, rfl, rfl⟩
  · exact ⟨rfl, rfl, rfl, rfl⟩

theorem sameEnds_addReadCallback (p : Pipe α) (label : Nat) :
    SameEnds p (p.addReadCallback label).1 := by
  unfold addReadCallback
  split <;> exact ⟨rfl, rfl, rfl, rfl⟩

theorem sameEnds_addWriteCallback (p : Pipe α) (label : Nat) :
    SameEnds p (p.addWriteCallback label).1 := by
  unfold addWriteCallback
  split <;> exact ⟨rfl, rfl, rfl, rfl⟩

/-- Moving items leaves the ends as they are. -/
theorem Goes.sameEnds {p p' : Pipe α} {events : List Event} (h : Goes Call.moves p p' events) :
    SameEnds p p' := by
  induction h with
  | start => exact .refl
  | @call q _ call kept _ ih =>
    refine ih.trans ?_
    cases call with
    | pollRead waker state => exact q.sameEnds_pollRead waker state
    | dropRead state => exact q.sameEnds_dropRead state
    | tryWrite item => exact q.sameEnds_tryWrite item
    | pollWrite waker item => exact q.sameEnds_pollWrite waker item
    | _ => exact kept.elim

end Pipe

namespace Traffic

variable {α : Type}

/-! ## One handle -/

/-- Opening a handle adds one to the count of its side, and closes nothing. -/
theorem openSide_spec (p : Pipe α) (side other : Side) :
    (openSide p side).1.count other = p.count other + (if other = side then 1 else 0) ∧
      (openSide p side).1.closed other = p.closed other := by
  cases side <;> cases other <;> exact ⟨rfl, rfl⟩

/-- Releasing a handle takes one off the count of its side, and the last one closes the side. The
answer is true where it does. -/
theorem closeSide_spec {p : Pipe α} {side : Side} {n : Nat} (hcount : p.count side = n + 1) :
    (closeSide p side).1 = (decide (n = 0) && !p.closed side) ∧ ∀ other,
      (closeSide p side).2.1.count other = (if other = side then n else p.count other) ∧
      (closeSide p side).2.1.closed other =
        (p.closed other || decide (other = side ∧ n = 0)) := by
  cases side with
  | read =>
    replace hcount : p.readers = n + 1 := hcount
    cases n with
    | zero =>
      cases hr : p.readClosed <;> refine ⟨?_, ?_⟩ <;> try rintro (_ | _)
      all_goals simp [closeSide, Pipe.closeRead, hcount, Pipe.finishRead, hr, Pipe.count,
        Pipe.closed, Pipe.endParked]
    | succ n =>
      refine ⟨?_, ?_⟩ <;> try rintro (_ | _)
      all_goals simp [closeSide, Pipe.closeRead, hcount, Pipe.count, Pipe.closed]
  | write =>
    replace hcount : p.writers = n + 1 := hcount
    cases n with
    | zero =>
      cases hw : p.writeClosed <;> refine ⟨?_, ?_⟩ <;> try rintro (_ | _)
      all_goals simp [closeSide, Pipe.closeWrite, hcount, Pipe.finishWrite, hw, Pipe.count,
        Pipe.closed, Pipe.endParked]
    | succ n =>
      refine ⟨?_, ?_⟩ <;> try rintro (_ | _)
      all_goals simp [closeSide, Pipe.closeWrite, hcount, Pipe.count, Pipe.closed]

/-! ## The table of handles -/

/-- The handles of a side that have not been released. -/
def openHandles (t : Traffic α) (side : Side) : Nat :=
  t.handles.countP fun e => e.2.side == side && !e.2.closed

/-- What a handle adds to the count of a side. -/
def weight (h : Handle) (side : Side) : Nat := if h.side == side && !h.closed then 1 else 0

/-- The open handles of a side but for the one of a name. -/
def othersOpen (t : Traffic α) (id : String) (side : Side) : Nat :=
  (t.handles.filter (·.1 != id)).countP fun e => e.2.side == side && !e.2.closed

variable {t t' : Traffic α} {id : String} {h : Handle}

/-- Where no two handles share a name, the handle of a name is in the table once. -/
theorem perm_handles (hnames : (t.handles.map (·.1)).Nodup) (hid : t.handle? id = some h) :
    t.handles.Perm ((id, h) :: t.handles.filter (·.1 != id)) := by
  obtain ⟨e, hfound, rfl⟩ := Option.map_eq_some_iff.mp hid
  obtain rfl : e.1 = id := by simpa using List.find?_some hfound
  obtain ⟨before, later, hsplit⟩ := List.append_of_mem (List.mem_of_find?_eq_some hfound)
  rw [hsplit, List.map_append, List.map_cons] at hnames
  have hne : e.1 ∉ (before ++ later).map (·.1) := by
    rw [List.map_append]
    exact (List.nodup_cons.mp (List.nodup_middle.mp hnames)).1
  have hrest : t.handles.filter (·.1 != e.1) = before ++ later := by
    rw [hsplit, List.filter_append, List.filter_cons_of_neg (by simp), ← List.filter_append]
    refine List.filter_eq_self.mpr fun a ha => bne_iff_ne.mpr fun heq => hne ?_
    exact heq ▸ List.mem_map_of_mem ha
  rw [hrest, hsplit]
  exact List.perm_middle

theorem openHandles_split (hnames : (t.handles.map (·.1)).Nodup) (hid : t.handle? id = some h)
    (side : Side) : t.openHandles side = t.othersOpen id side + weight h side := by
  rw [openHandles, (perm_handles hnames hid).countP_eq, List.countP_cons]
  rfl

theorem filter_of_none (hid : t.handle? id = none) : t.handles.filter (·.1 != id) = t.handles := by
  rw [handle?, Option.map_eq_none_iff, List.find?_eq_none] at hid
  exact List.filter_eq_self.mpr fun e he => by simpa using hid e he

theorem names_filter (hnames : (t.handles.map (·.1)).Nodup) :
    ((t.handles.filter (·.1 != id)).map (·.1)).Nodup :=
  hnames.sublist (List.filter_sublist.map _)

theorem names_setHandle (hnames : (t.handles.map (·.1)).Nodup) (h : Handle) :
    ((t.setHandle id h).handles.map (·.1)).Nodup := by
  rw [setHandle, List.map_append, List.map_cons, List.map_nil]
  refine List.nodup_append_comm.mp (List.nodup_cons.mpr ⟨fun hmem => ?_, names_filter hnames⟩)
  obtain ⟨e, he, heq⟩ := List.mem_map.mp hmem
  simpa [heq] using (List.mem_filter.mp he).2

theorem openHandles_setHandle (t : Traffic α) (id : String) (h : Handle) (side : Side) :
    (t.setHandle id h).openHandles side = t.othersOpen id side + weight h side := by
  rw [openHandles, setHandle, List.countP_append, List.countP_singleton]
  rfl

/-! ## One operation -/

/-- The count of a side is the number of its open handles, and of `more` that are not in the table
yet. No two handles share a name. -/
structure Counted (t : Traffic α) (more : Side → Nat) : Prop where
  count : ∀ side, t.pipe.count side = t.openHandles side + more side
  names : (t.handles.map (·.1)).Nodup

/-- The counts stay right, and a side closes exactly when its count falls to zero. -/
structure Advances (more : Side → Nat) (t t' : Traffic α) : Prop where
  counted : t'.Counted more
  closed : ∀ side, t'.pipe.closed side =
    (t.pipe.closed side || decide (0 < t.pipe.count side ∧ t'.pipe.count side = 0))

/-- Neither handles nor sides change. -/
structure Still (t t' : Traffic α) : Prop where
  handles : t'.handles = t.handles
  ends : Pipe.SameEnds t.pipe t'.pipe

theorem Still.refl : Still t t := ⟨rfl, .refl⟩

theorem Counted.still {more : Side → Nat} (hc : t.Counted more) (hstill : Still t t') :
    Advances more t t' where
  counted :=
    { count := fun side => by
        rw [hstill.ends.count, hc.count, openHandles, openHandles, hstill.handles]
      names := by
        rw [hstill.handles]
        exact hc.names }
  closed side := by
    have hpos : ¬(0 < t.pipe.count side ∧ t.pipe.count side = 0) := by omega
    rw [hstill.ends.closed, hstill.ends.count, decide_eq_false hpos, Bool.or_false]

/-- An open handle is counted. -/
theorem Counted.positive {more : Side → Nat} (hc : t.Counted more) (hid : t.handle? id = some h)
    (hopen : h.closed = false) : ∃ n, t.pipe.count h.side = n + 1 := by
  have hcount := hc.count h.side
  have hweight : weight h h.side = 1 := by simp [weight, hopen]
  rw [openHandles_split hc.names hid] at hcount
  exact ⟨t.othersOpen id h.side + more h.side, by omega⟩

theorem release_closed (t : Traffic α) (id : String) (hclosed : h.closed = true) :
    t.releaseHandle id h = (false, t, []) := by simp [releaseHandle, hclosed]

theorem release_open (t : Traffic α) (id : String) (hopen : h.closed = false) :
    t.releaseHandle id h = ((closeSide t.pipe h.side).1,
      { t.setHandle id { h with closed := true } with pipe := (closeSide t.pipe h.side).2.1 },
      (closeSide t.pipe h.side).2.2) := by simp [releaseHandle, hopen]

/-- A handle that is released takes its weight off the count of its side. -/
theorem Counted.release {more : Side → Nat} (hc : t.Counted more) (hid : t.handle? id = some h) :
    Advances more t (t.releaseHandle id h).2.1 := by
  cases hclosed : h.closed with
  | true =>
    rw [t.release_closed id hclosed]
    exact hc.still .refl
  | false =>
    obtain ⟨n, hn⟩ := hc.positive hid hclosed
    obtain ⟨-, hspec⟩ := closeSide_spec hn
    rw [t.release_open id hclosed]
    refine ⟨⟨fun side => ?_, names_setHandle hc.names _⟩, fun side => ?_⟩
    · change (closeSide t.pipe h.side).2.1.count side =
        (t.setHandle id { h with closed := true }).openHandles side + more side
      have hcount := hc.count side
      rw [openHandles_split hc.names hid] at hcount
      have hreleased : weight { h with closed := true } side = 0 := by simp [weight]
      rw [(hspec side).1, openHandles_setHandle, hreleased]
      by_cases hs : side = h.side
      · subst hs
        have hweight : weight h h.side = 1 := by simp [weight, hclosed]
        rw [if_pos rfl]
        omega
      · have hweight : weight h side = 0 := by simp [weight, Ne.symm hs]
        rw [if_neg hs]
        omega
    · change (closeSide t.pipe h.side).2.1.closed side = (t.pipe.closed side ||
        decide (0 < t.pipe.count side ∧ (closeSide t.pipe h.side).2.1.count side = 0))
      rw [(hspec side).1, (hspec side).2]
      by_cases hs : side = h.side
      · subst hs
        simp [hn]
      · have hnot : ¬(0 < t.pipe.count side ∧ t.pipe.count side = 0) := by omega
        simp [hs, hnot]

/-- A handle that is released leaves the other side alone. -/
theorem Counted.apart {more : Side → Nat} (hc : t.Counted more) (hid : t.handle? id = some h)
    {other : Side} (hother : other ≠ h.side) :
    (t.releaseHandle id h).2.1.pipe.count other = t.pipe.count other ∧
      (t.releaseHandle id h).2.1.pipe.closed other = t.pipe.closed other := by
  cases hclosed : h.closed with
  | true =>
    rw [t.release_closed id hclosed]
    exact ⟨rfl, rfl⟩
  | false =>
    obtain ⟨n, hn⟩ := hc.positive hid hclosed
    obtain ⟨hcount, hside⟩ := (closeSide_spec hn).2 other
    rw [t.release_open id hclosed]
    exact ⟨hcount.trans (if_neg hother), hside.trans (by simp [hother])⟩

/-- The release of a handle answers true where it closes the side. -/
theorem Counted.answer {more : Side → Nat} (hc : t.Counted more) (hid : t.handle? id = some h) :
    (t.releaseHandle id h).1 =
      (!t.pipe.closed h.side && (t.releaseHandle id h).2.1.pipe.closed h.side) := by
  cases hclosed : h.closed with
  | true => simp [t.release_closed id hclosed]
  | false =>
    obtain ⟨n, hn⟩ := hc.positive hid hclosed
    obtain ⟨hanswer, hspec⟩ := closeSide_spec hn
    rw [t.release_open id hclosed, hanswer, (hspec h.side).2]
    cases t.pipe.closed h.side <;> simp

theorem handle?_release (t : Traffic α) (hid : t.handle? id = some h) :
    (t.releaseHandle id h).2.1.handle? id = some { h with closed := true } := by
  cases hclosed : h.closed with
  | true =>
    have hsame : { h with closed := true } = h := by rw [← hclosed]
    simp [releaseHandle, hclosed, hid, hsame]
  | false =>
    have hnone : (t.handles.filter (·.1 != id)).find? (·.1 == id) = none := by
      rw [List.find?_eq_none]
      intro e he
      simpa using (List.mem_filter.mp he).2
    simp only [releaseHandle, hclosed, Bool.false_eq_true, if_false, handle?, setHandle,
      List.find?_append, hnone, Option.none_or]
    simp

/-- A handle that is dropped has been released, and is in the table no longer. -/
theorem Counted.drop {more : Side → Nat} (hc : t.Counted more) (hid : t.handle? id = some h) :
    Advances more t (t.dropHandle id h).1 ∧ (t.dropHandle id h).1.handle? id = none := by
  have hadvances := hc.release hid
  have hreleased := handle?_release t hid
  set r := (t.releaseHandle id h).2.1 with hr
  have hresult : (t.dropHandle id h).1 = { r with handles := r.handles.filter (·.1 != id) } := rfl
  rw [hresult]
  refine ⟨⟨⟨fun side => ?_, names_filter hadvances.counted.names⟩, hadvances.closed⟩, ?_⟩
  · have hcount := hadvances.counted.count side
    have hweight : weight { h with closed := true } side = 0 := by simp [weight]
    rw [openHandles_split hadvances.counted.names hreleased, hweight] at hcount
    exact hcount
  · rw [handle?, Option.map_eq_none_iff, List.find?_eq_none]
    intro e he
    simpa using (List.mem_filter.mp he).2

/-- A handle that has been counted is entered under a free name. -/
theorem Counted.enter {side : Side} (hc : t.Counted fun s => if s = side then 1 else 0)
    (hid : t.handle? id = none) : (t.setHandle id { side := side }).Counted 0 where
  count s := by
    have hothers : t.othersOpen id s = t.openHandles s := by
      rw [othersOpen, filter_of_none hid]
      rfl
    rw [openHandles_setHandle, hothers]
    refine (hc.count s).trans ?_
    by_cases hs : s = side
    · simp [weight, hs]
    · simp [weight, hs, Ne.symm hs]
  names := names_setHandle hc.names _

/-- A handle is opened before the one that had its name is dropped. -/
theorem Counted.open (hc : t.Counted 0) (side : Side) (id : String) :
    Advances 0 t (t.openHandle side id).1 := by
  set t₁ : Traffic α := { t with pipe := (openSide t.pipe side).1 } with ht₁
  have hcount₁ : ∀ s, t₁.pipe.count s = t.pipe.count s + if s = side then 1 else 0 :=
    fun s => (openSide_spec t.pipe side s).1
  have hc₁ : t₁.Counted fun s => if s = side then 1 else 0 :=
    { count := fun s => by rw [hcount₁, hc.count]; rfl
      names := hc.names }
  -- the table has been cleared of the name
  obtain ⟨t₂, hadvances, hfree, hresult⟩ : ∃ t₂,
      Advances (fun s => if s = side then 1 else 0) t₁ t₂ ∧ t₂.handle? id = none ∧
        (t.openHandle side id).1 = t₂.setHandle id { side := side } := by
    cases hid : t₁.handle? id with
    | none => exact ⟨t₁, hc₁.still .refl, hid, by simp [openHandle, ← ht₁, hid]⟩
    | some old =>
      obtain ⟨hadvances, hfree⟩ := hc₁.drop hid
      exact ⟨_, hadvances, hfree, by simp [openHandle, ← ht₁, hid]⟩
  rw [hresult]
  refine ⟨hadvances.counted.enter hfree, fun s => ?_⟩
  change t₂.pipe.closed s = _
  rw [hadvances.closed s, show t₁.pipe.closed s = t.pipe.closed s from (openSide_spec _ _ _).2]
  have hnew := hadvances.counted.count s
  have hiff : (0 < t₁.pipe.count s ∧ t₂.pipe.count s = 0) ↔
      (0 < t.pipe.count s ∧ t₂.pipe.count s = 0) := by
    rw [hcount₁]
    by_cases hs : s = side
    · simp only [hs, if_true] at hnew ⊢
      omega
    · simp [hs]
  exact congrArg (t.pipe.closed s || ·) (decide_eq_decide.mpr hiff)

/-! ## Operations under way -/

theorem still_forget (t : Traffic α) (id : String) (f : Future α) :
    Still t (t.forgetFuture id f).1 := ⟨rfl, (t.goes_forget id f).sameEnds⟩

theorem still_start (t : Traffic α) (id : String) (owner : Option String) (transfer : Transfer α) :
    Still t (t.start id owner transfer).2.1 := by
  simp only [start]
  cases t.future? id with
  | none => exact ⟨rfl, .refl⟩
  | some old =>
    obtain ⟨hhandles, hends⟩ := t.still_forget id old
    exact ⟨hhandles, hends⟩

theorem still_startOn (t : Traffic α) (side : Side) (handle : Option String) (id : String)
    (transfer onClosed : Transfer α) :
    Still t (t.startOn side handle id transfer onClosed).2.1 := by
  simp only [startOn]
  cases handle with
  | none => exact t.still_start id none transfer
  | some name =>
    dsimp only
    split
    · exact .refl
    · exact t.still_start id (some name) _

end Traffic

/-- An operation on handles, or of reads and writes under way; the pipe is not closed over the heads
of its handles. -/
def PipeOp.onHandles {α : Type} : PipeOp α → Bool
  | .closeSide _ => false
  | .forceClose => false
  | _ => true

namespace Traffic

variable {α : Type} {t : Traffic α}

/-- **One step.** -/
theorem Counted.step (hc : t.Counted 0) {op : PipeOp α} (hop : op.onHandles = true) :
    Advances 0 t (t.step op).2.1 := by
  cases op with
  | openHandle side id =>
    simp only [Traffic.step]
    split
    · exact hc.still .refl
    · exact hc.open side id
  | clone name id =>
    simp only [Traffic.step]
    split
    · exact hc.still .refl
    · rename_i h _
      split
      · exact hc.still .refl
      · exact hc.open h.side id
  | close name =>
    simp only [Traffic.step]
    split
    · exact hc.still .refl
    · rename_i hid
      exact hc.release hid
  | drop name =>
    simp only [Traffic.step]
    split
    · exact hc.still .refl
    · rename_i hid
      split
      · exact hc.still .refl
      · exact (hc.drop hid).1
  | tryWrite handle item =>
    have hwrite := t.pipe.sameEnds_tryWrite item
    cases handle with
    | none => exact hc.still ⟨rfl, hwrite⟩
    | some name =>
      simp only [Traffic.step]
      split
      · exact hc.still .refl
      · split
        · exact hc.still .refl
        · exact hc.still ⟨rfl, hwrite⟩
  | read handle id => exact hc.still (t.still_startOn _ _ _ _ _)
  | write handle id item => exact hc.still (t.still_startOn _ _ _ _ _)
  | readAll handle id => exact hc.still (t.still_startOn _ _ _ _ _)
  | writeAll handle id items => exact hc.still (t.still_startOn _ _ _ _ _)
  | poll id =>
    simp only [Traffic.step]
    split
    · exact hc.still .refl
    · rename_i f _
      have hpoll := (t.goes_pollFuture f).sameEnds
      split <;> rename_i hp <;> rw [hp] at hpoll <;> exact hc.still ⟨rfl, hpoll⟩
  | forget id =>
    simp only [Traffic.step]
    split
    · exact hc.still .refl
    · exact hc.still (t.still_forget id _)
  | closeSide side => simp [PipeOp.onHandles] at hop
  | forceClose => simp [PipeOp.onHandles] at hop
  | onClose side handle label =>
    simp only [Traffic.step]
    split
    · exact hc.still .refl
    · cases side with
      | read => exact hc.still ⟨rfl, t.pipe.sameEnds_addReadCallback label⟩
      | write => exact hc.still ⟨rfl, t.pipe.sameEnds_addWriteCallback label⟩
  | isClosed name =>
    simp only [Traffic.step]
    split <;> exact hc.still .refl
  | name handle =>
    simp only [Traffic.step]
    split <;> exact hc.still .refl
  | describe handle =>
    cases handle with
    | none => exact hc.still .refl
    | some name =>
      simp only [Traffic.step]
      split <;> exact hc.still .refl

/-! ## A run -/

theorem counted_create (name : String) (capacity : Nat) :
    (create name capacity : Traffic α × List Pipe.Event).1.Counted 0 where
  count side := by cases side <;> rfl
  names := List.nodup_nil

theorem run_cons (t : Traffic α) (op : PipeOp α) (ops : List (PipeOp α)) :
    (t.run (op :: ops)).2 = ((t.step op).2.1.run ops).2 := rfl

theorem Counted.run (hc : t.Counted 0) {ops : List (PipeOp α)}
    (hops : ∀ op ∈ ops, op.onHandles = true) : (t.run ops).2.Counted 0 := by
  induction ops generalizing t with
  | nil => exact hc
  | cons op ops ih =>
    rw [run_cons]
    exact ih (hc.step (hops op List.mem_cons_self)).counted
      fun op' hop => hops op' (List.mem_cons_of_mem _ hop)

/-- The count of a side has been positive after some of the operations, and is zero after some
more. -/
def ReturnsToZero (t : Traffic α) (side : Side) (ops : List (PipeOp α)) : Prop :=
  ∃ before between, before ++ between <+: ops ∧ 0 < (t.run before).2.pipe.count side ∧
    (t.run (before ++ between)).2.pipe.count side = 0

/-- The count returns to zero at the first operation, or later. -/
theorem returnsToZero_cons (side : Side) (op : PipeOp α) (ops : List (PipeOp α)) :
    t.ReturnsToZero side (op :: ops) ↔
      (0 < t.pipe.count side ∧ (t.step op).2.1.pipe.count side = 0) ∨
        (t.step op).2.1.ReturnsToZero side ops := by
  constructor
  · rintro ⟨_ | ⟨op', before⟩, between, hprefix, hpos, hzero⟩
    · -- the count is positive at once
      cases between with
      | nil => exact absurd hzero (Nat.pos_iff_ne_zero.mp hpos)
      | cons op' between =>
        obtain ⟨rfl, hrest⟩ := List.cons_prefix_cons.mp hprefix
        by_cases hnow : (t.step op').2.1.pipe.count side = 0
        · exact .inl ⟨hpos, hnow⟩
        · exact .inr ⟨[], between, hrest, Nat.pos_of_ne_zero hnow, hzero⟩
    · obtain ⟨rfl, hrest⟩ := List.cons_prefix_cons.mp hprefix
      exact .inr ⟨before, between, hrest, hpos, hzero⟩
  · rintro (⟨hpos, hzero⟩ | ⟨before, between, hprefix, hpos, hzero⟩)
    · exact ⟨[], [op], List.cons_prefix_cons.mpr ⟨rfl, List.nil_prefix⟩, hpos, hzero⟩
    · exact ⟨op :: before, between, List.cons_prefix_cons.mpr ⟨rfl, hprefix⟩, hpos, hzero⟩

theorem Counted.closed_run (hc : t.Counted 0) {ops : List (PipeOp α)}
    (hops : ∀ op ∈ ops, op.onHandles = true) (side : Side) :
    (t.run ops).2.pipe.closed side = true ↔
      t.pipe.closed side = true ∨ t.ReturnsToZero side ops := by
  induction ops generalizing t with
  | nil =>
    have hnever : ¬t.ReturnsToZero side [] := by
      rintro ⟨before, between, hprefix, hpos, hzero⟩
      obtain ⟨rfl, rfl⟩ := List.append_eq_nil_iff.mp (List.prefix_nil.mp hprefix)
      exact absurd hzero (Nat.pos_iff_ne_zero.mp hpos)
    simp [hnever, Traffic.run]
  | cons op ops ih =>
    have hstep := hc.step (hops op List.mem_cons_self)
    rw [run_cons, ih hstep.counted fun op' hop => hops op' (List.mem_cons_of_mem _ hop),
      hstep.closed, returnsToZero_cons, Bool.or_eq_true, decide_eq_true_eq, or_assoc]

/-! ## The last close -/

/-- The operation is the close of a handle of the side, and answers true. -/
def lastClose (t : Traffic α) (side : Side) (op : PipeOp α) : Bool :=
  match op with
  | .close name =>
    (t.handleOn? side name).isSome &&
      match (t.step op).1 with
      | .flag last => last
      | _ => false
  | _ => false

/-- How many of the operations are, each where those before it have led. -/
def lastCloses (t : Traffic α) (side : Side) : List (PipeOp α) → Nat
  | [] => 0
  | op :: ops => (t.lastClose side op).toNat + (t.step op).2.1.lastCloses side ops

/-- A close that answers true finds its side open and leaves it closed. -/
theorem Counted.lastClose (hc : t.Counted 0) {side : Side} {op : PipeOp α}
    (hlast : t.lastClose side op = true) :
    t.pipe.closed side = false ∧ (t.step op).2.1.pipe.closed side = true := by
  cases op with
  | close name =>
    cases hid : t.handle? name with
    | none => simp [Traffic.lastClose, handleOn?, hid] at hlast
    | some h =>
      have hanswer := hc.answer hid
      simp only [Traffic.lastClose, handleOn?, hid, Traffic.step, Bool.and_eq_true] at hlast ⊢
      obtain ⟨hside, hlast⟩ := hlast
      obtain rfl : h.side = side := by simpa [Option.isSome_filter] using hside
      rw [hlast] at hanswer
      simpa using hanswer.symm
  | _ => simp [Traffic.lastClose] at hlast

/-- Each close that answers true uses up the one closing of its side. -/
theorem Counted.lastCloses_le (hc : t.Counted 0) {ops : List (PipeOp α)}
    (hops : ∀ op ∈ ops, op.onHandles = true) (side : Side) :
    t.lastCloses side ops + (t.pipe.closed side).toNat ≤
      ((t.run ops).2.pipe.closed side).toNat := by
  induction ops generalizing t with
  | nil => exact (Nat.zero_add _).le
  | cons op ops ih =>
    have hstep := hc.step (hops op List.mem_cons_self)
    have hrest := ih hstep.counted fun op' hop => hops op' (List.mem_cons_of_mem _ hop)
    refine le_trans ?_ hrest
    rw [lastCloses, hstep.closed side]
    cases hlast : t.lastClose side op with
    | false => cases t.pipe.closed side <;> simp
    | true =>
      obtain ⟨hopen, hclosed⟩ := hc.lastClose hlast
      rw [hstep.closed side, hopen] at hclosed
      rw [hopen, hclosed]
      simp [Nat.add_comm]

/-! ## The theorem -/

/-- Whatever is done with the handles of a pipe, and whatever is read and written meanwhile: the
count of a side is the number of its handles that have not been released; a side has closed exactly
when its count has been positive and zero after that, so it closes where the count first returns to
zero, and does not open again; a handle that is closed or dropped leaves the other side alone; the
close of a handle returns true where it closes the side, at most once on either side. -/
theorem sides_follow_handles (name : String) (capacity : Nat) (ops : List (PipeOp α))
    (hops : ∀ op ∈ ops, op.onHandles = true) :
    let start : Traffic α := (create name capacity).1
    let t := (start.run ops).2
    (∀ side, t.pipe.count side = t.openHandles side) ∧
    (∀ side, t.pipe.closed side = true ↔ start.ReturnsToZero side ops) ∧
    (∀ side more, (∀ op ∈ more, op.onHandles = true) → t.pipe.closed side = true →
      (t.run more).2.pipe.closed side = true) ∧
    (∀ id h other, t.handle? id = some h → other ≠ h.side → ∀ op ∈ [.close id, .drop id],
      (t.step op).2.1.pipe.count other = t.pipe.count other ∧
        (t.step op).2.1.pipe.closed other = t.pipe.closed other) ∧
    (∀ id h, t.handle? id = some h → (t.step (.close id)).1 =
      .flag (!t.pipe.closed h.side && (t.step (.close id)).2.1.pipe.closed h.side)) ∧
    ∀ side, start.lastCloses side ops ≤ 1 := by
  intro start t
  have hstart : start.Counted 0 := counted_create name capacity
  have hc : t.Counted 0 := hstart.run hops
  refine ⟨hc.count, fun side => ?_, fun side more hmore hclosed => ?_,
    fun id h other hid hother => ?_, fun id h hid => ?_, fun side => ?_⟩
  · have hopen : start.pipe.closed side = false := by cases side <;> rfl
    rw [hstart.closed_run hops side, hopen]
    simp
  · exact (hc.closed_run hmore side).mpr (.inl hclosed)
  · have hapart := hc.apart hid hother
    simp only [List.forall_mem_cons, List.not_mem_nil, false_implies, implies_true, and_true]
    refine ⟨by simpa [Traffic.step, hid] using hapart, ?_⟩
    simp only [Traffic.step, hid]
    split
    · exact ⟨rfl, rfl⟩
    · exact hapart
  · simpa [Traffic.step, hid] using hc.answer hid
  · calc start.lastCloses side ops
        ≤ start.lastCloses side ops + (start.pipe.closed side).toNat := Nat.le_add_right _ _
      _ ≤ (t.pipe.closed side).toNat := hstart.lastCloses_le hops side
      _ ≤ 1 := Bool.toNat_le _

/-- A writer and its clone are closed, the first one twice, and a third one is opened too late. -/
theorem sides_follow_handles_clone :
    let ops : List (PipeOp Nat) := [.openHandle .write "w", .openHandle .read "r",
      .clone "w" "v", .close "w", .close "w", .tryWrite (some "v") 1, .close "v",
      .openHandle .write "x", .close "x"]
    let start : Traffic Nat := (create "numbers" 1).1
    let t := (start.run ops).2
    t.pipe.count .write = t.openHandles .write ∧ t.pipe.closed .write = true ∧
      t.pipe.closed .read = false ∧ start.lastCloses .write ops = 1 ∧
      start.lastCloses .write ops ≤ 1 := by
  intro ops start t
  obtain ⟨hcount, -, -, -, -, hcloses⟩ := sides_follow_handles "numbers" 1 ops (by decide)
  exact ⟨hcount .write, by decide, by decide, by decide, hcloses .write⟩

end Traffic

end Pipework
