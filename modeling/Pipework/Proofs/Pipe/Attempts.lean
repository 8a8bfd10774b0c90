import Pipework.Proofs.Pipe.Calls

/-!
# Writes through handles

A write is attempted by `tryWrite`, or by a poll of a write under way. A handle that is closed when
the write is started refuses it, and the pipe does not hear of it; every other attempt is an offer
to the pipe, whose table is `Pipe.Judged`.

`Traffic.reaches_step` takes an operation of a user apart into calls on the pipe, so what calls keep
holds of the pipe whatever its users do.
-/

namespace Pipework

namespace Traffic

variable {α : Type}

open Pipe (Call Goes Reaches)

/-! ## Operations as calls -/

theorem reaches_openSide (p : Pipe α) (side : Side) : Reaches p (openSide p side).1 := by
  cases side with
  | read => exact .one .openRead
  | write => exact .one .openWrite

theorem reaches_closeSide (p : Pipe α) (side : Side) : Reaches p (closeSide p side).2.1 := by
  cases side with
  | read => exact .one .closeRead
  | write => exact .one .closeWrite

theorem reaches_release (t : Traffic α) (id : String) (h : Handle) :
    Reaches t.pipe (t.releaseHandle id h).2.1.pipe := by
  simp only [releaseHandle]
  split
  · exact .start
  · exact reaches_closeSide t.pipe h.side

theorem reaches_open (t : Traffic α) (side : Side) (id : String) :
    Reaches t.pipe (t.openHandle side id).1.pipe := by
  simp only [openHandle]
  have hopen := reaches_openSide t.pipe side
  split
  · rename_i old _
    exact hopen.trans (reaches_release { t with pipe := (openSide t.pipe side).1 } id old)
  · exact hopen

theorem goes_pollWriteAll (waker : Waker) (closed started : Bool) (items : List α) (p : Pipe α) :
    Goes Call.moves p (pollWriteAll p waker closed started items).2.2.1
      (pollWriteAll p waker closed started items).2.2.2 := by
  induction items generalizing p started with
  | nil => exact .start
  | cons item rest ih =>
    have hwrite : Goes Call.moves p (p.pollWrite waker item).2.1 (p.pollWrite waker item).2.2 :=
      .one (.pollWrite waker item) trivial
    simp only [pollWriteAll]
    split
    · exact .start
    · rcases hp : p.pollWrite waker item with ⟨_ | _ | _, p', events⟩ <;> rw [hp] at hwrite
      · exact hwrite
      · exact hwrite
      · exact hwrite.trans (ih false p')

theorem goes_pollReadAll (waker : Waker) (fuel : Nat) (p : Pipe α) (got : List α)
    (state : ReadState) : Goes Call.moves p (pollReadAll waker fuel p got state).2.2.1
      (pollReadAll waker fuel p got state).2.2.2 := by
  induction fuel generalizing p got state with
  | zero => exact .start
  | succ fuel ih =>
    have hread : Goes Call.moves p (p.pollRead waker state).2.2.1 (p.pollRead waker state).2.2.2 :=
      .one (.pollRead waker state) trivial
    simp only [pollReadAll]
    rcases hp : p.pollRead waker state with ⟨_ | _ | item, state', p', events⟩ <;> rw [hp] at hread
    · exact hread
    · exact hread
    · exact hread.trans (ih p' (got ++ [item]) .fresh)

/-- A poll of an operation under way moves items, and nothing else. -/
theorem goes_pollFuture (t : Traffic α) (f : Future α) :
    Goes Call.moves t.pipe (t.pollFuture f).2.2.1 (t.pollFuture f).2.2.2 := by
  simp only [pollFuture]
  cases f.transfer with
  | read state =>
    have hread : Goes Call.moves t.pipe (t.pipe.pollRead (.task f.waker) state).2.2.1
        (t.pipe.pollRead (.task f.waker) state).2.2.2 :=
      .one (.pollRead _ state) trivial
    dsimp only
    split <;> rename_i hp <;> rw [hp] at hread <;> exact hread
  | write item =>
    have hwrite : Goes Call.moves t.pipe (t.pipe.pollWrite (.task f.waker) item).2.1
        (t.pipe.pollWrite (.task f.waker) item).2.2 :=
      .one (.pollWrite _ item) trivial
    dsimp only
    split <;> rename_i hp <;> rw [hp] at hwrite <;> exact hwrite
  | refused => exact .start
  | readAll started got state =>
    dsimp only
    split
    · exact .start
    · have hread := goes_pollReadAll (.task f.waker) (t.pipe.buffer.length + 2) t.pipe got state
      split <;> rename_i hp <;> rw [hp] at hread <;> exact hread
  | writeAll started items =>
    have hwrite := goes_pollWriteAll (.task f.waker) (t.ownerClosed f) started items t.pipe
    dsimp only
    split <;> rename_i hp <;> rw [hp] at hwrite <;> exact hwrite

theorem goes_forget (t : Traffic α) (id : String) (f : Future α) :
    Goes Call.moves t.pipe (t.forgetFuture id f).1.pipe (t.forgetFuture id f).2 := by
  simp only [forgetFuture, dropTransfer]
  cases f.transfer with
  | read state => exact .one (.dropRead state) trivial
  | readAll started got state => exact .one (.dropRead state) trivial
  | _ => exact .start

theorem goes_start (t : Traffic α) (id : String) (owner : Option String)
    (transfer : Transfer α) :
    Goes Call.moves t.pipe (t.start id owner transfer).2.1.pipe (t.start id owner transfer).2.2 := by
  simp only [start]
  cases t.future? id with
  | none => exact .start
  | some old => exact t.goes_forget id old

/-- What is started moves no item yet, and what had its name gives back what it holds. -/
theorem goes_startOn (t : Traffic α) (side : Side) (handle : Option String) (id : String)
    (transfer onClosed : Transfer α) :
    Goes Call.moves t.pipe (t.startOn side handle id transfer onClosed).2.1.pipe
      (t.startOn side handle id transfer onClosed).2.2 := by
  simp only [startOn]
  cases handle with
  | none => exact t.goes_start id none transfer
  | some name =>
    dsimp only
    split
    · exact .start
    · exact t.goes_start id (some name) _

theorem reaches_pollFuture (t : Traffic α) (f : Future α) :
    Reaches t.pipe (t.pollFuture f).2.2.1 := (t.goes_pollFuture f).reaches

theorem reaches_forget (t : Traffic α) (id : String) (f : Future α) :
    Reaches t.pipe (t.forgetFuture id f).1.pipe := (t.goes_forget id f).reaches

theorem reaches_startOn (t : Traffic α) (side : Side) (handle : Option String) (id : String)
    (transfer onClosed : Transfer α) :
    Reaches t.pipe (t.startOn side handle id transfer onClosed).2.1.pipe :=
  (t.goes_startOn side handle id transfer onClosed).reaches

/-- Every operation of a user comes to calls on the pipe. -/
theorem reaches_step (t : Traffic α) (op : PipeOp α) : Reaches t.pipe (t.step op).2.1.pipe := by
  cases op with
  | openHandle side id =>
    simp only [Traffic.step]
    split
    · exact .start
    · exact t.reaches_open side id
  | clone name id =>
    simp only [Traffic.step]
    split
    · exact .start
    · split
      · exact .start
      · exact t.reaches_open _ id
  | close name =>
    simp only [Traffic.step]
    split
    · exact .start
    · exact t.reaches_release name _
  | drop name =>
    simp only [Traffic.step]
    split
    · exact .start
    · split
      · exact .start
      · exact t.reaches_release name _
  | tryWrite handle item =>
    have hwrite : Reaches t.pipe (t.pipe.tryWrite item).2.1 := .one (.tryWrite item)
    cases handle with
    | none => exact hwrite
    | some name =>
      simp only [Traffic.step]
      split
      · exact .start
      · split
        · exact .start
        · exact hwrite
  | read handle id => exact t.reaches_startOn _ _ _ _ _
  | write handle id item => exact t.reaches_startOn _ _ _ _ _
  | readAll handle id => exact t.reaches_startOn _ _ _ _ _
  | writeAll handle id items => exact t.reaches_startOn _ _ _ _ _
  | poll id =>
    simp only [Traffic.step]
    split
    · exact .start
    · rename_i f _
      have hpoll := t.reaches_pollFuture f
      split <;> rename_i hp <;> rw [hp] at hpoll <;> exact hpoll
  | forget id =>
    simp only [Traffic.step]
    split
    · exact .start
    · exact t.reaches_forget id _
  | closeSide side => exact reaches_closeSide t.pipe side
  | forceClose => exact .one .forceClose
  | onClose side handle label =>
    simp only [Traffic.step]
    split
    · exact .start
    · cases side with
      | read => exact .one (.onReadClose label)
      | write => exact .one (.onWriteClose label)
  | isClosed name =>
    simp only [Traffic.step]
    split <;> exact .start
  | name handle =>
    simp only [Traffic.step]
    split <;> exact .start
  | describe handle =>
    cases handle with
    | none => exact .start
    | some name =>
      simp only [Traffic.step]
      split <;> exact .start

theorem reaches_run (t : Traffic α) (ops : List (PipeOp α)) :
    Reaches t.pipe (t.run ops).2.pipe := by
  induction ops generalizing t with
  | nil => exact .start
  | cons op ops ih => exact (t.reaches_step op).trans (ih (t.step op).2.1)

/-! ## Attempts -/

/-- A write may go to the pipe itself, or through this handle, which is open. -/
def Writable (t : Traffic α) (handle : Option String) : Prop :=
  ∀ name, handle = some name → ∃ h, t.handleOn? .write name = some h ∧ h.closed = false

/-- An attempt without waiting, through no handle or an open one, is an offer to the pipe. -/
theorem step_tryWrite {t : Traffic α} {handle : Option String} (hopen : t.Writable handle)
    (item : α) : t.step (.tryWrite handle item) =
      (.written ((t.pipe.offer item none).1.tried t.pipe.name),
        { t with pipe := (t.pipe.offer item none).2.1 }, (t.pipe.offer item none).2.2) := by
  cases handle with
  | none => simp only [Traffic.step, Pipe.tryWrite_eq]
  | some name =>
    obtain ⟨h, hname, hclosed⟩ := hopen name rfl
    simp only [Traffic.step, hname, hclosed, Bool.false_eq_true, if_false, Pipe.tryWrite_eq]

/-- The answer to a poll of a write. -/
def writeReply : WriteOutcome → Reply α
  | .pending => .pending
  | .ready outcome => .written outcome

/-- The poll of a write that was started on no handle or an open one is an offer to the pipe. -/
theorem step_poll {t : Traffic α} {id : String} {f : Future α} {item : α}
    (hf : t.future? id = some f) (hwrite : f.transfer = .write item) :
    let o := t.pipe.offer item (some (.task f.waker))
    (t.step (.poll id)).1 = writeReply o.1.polled ∧ (t.step (.poll id)).2.1.pipe = o.2.1 ∧
      (t.step (.poll id)).2.1.handles = t.handles ∧ (t.step (.poll id)).2.2 = o.2.2 := by
  intro o
  have hpoll : t.pipe.pollWrite (.task f.waker) item = (o.1.polled, o.2) :=
    t.pipe.pollWrite_eq _ _
  simp only [Traffic.step, hf, pollFuture, hwrite, hpoll]
  rcases o with ⟨_ | _ | e, p, events⟩ <;> exact ⟨rfl, rfl, rfl, rfl⟩

/-- The poll of a write that was started on a closed handle does not come to the pipe. -/
theorem step_poll_refused {t : Traffic α} {id : String} {f : Future α}
    (hf : t.future? id = some f) (hrefused : f.transfer = .refused) :
    (t.step (.poll id)).1 = .written (.error (.alreadyWriteClosed t.pipe.name)) ∧
      (t.step (.poll id)).2.1.pipe = t.pipe ∧ (t.step (.poll id)).2.2 = [] := by
  simp [Traffic.step, hf, pollFuture, hrefused]

/-! ## Where a write under way comes from -/

/-- The write under way was started like this: refused by a handle that was closed then, or let
through by one that was open, or without a handle. -/
def StartedBy (start : Traffic α) (ops : List (PipeOp α)) (id : String) : Transfer α → Prop
  | .refused => ∃ before name item later h, ops = before ++ .write (some name) id item :: later ∧
      (start.run before).2.handleOn? .write name = some h ∧ h.closed = true
  | .write item => ∃ before handle later, ops = before ++ .write handle id item :: later ∧
      (start.run before).2.Writable handle
  | _ => True

theorem StartedBy.later {start : Traffic α} {ops : List (PipeOp α)} {id : String}
    {transfer : Transfer α} (h : StartedBy start ops id transfer) (more : List (PipeOp α)) :
    StartedBy start (ops ++ more) id transfer := by
  cases transfer with
  | refused =>
    obtain ⟨before, name, item, later, h', rfl, hname⟩ := h
    exact ⟨before, name, item, later ++ more, h', by simp, hname⟩
  | write item =>
    obtain ⟨before, handle, later, rfl, hopen⟩ := h
    exact ⟨before, handle, later ++ more, by simp, hopen⟩
  | _ => trivial

/-- Each operation under way is an old one, or was started by the operation, or is no single
write. -/
def Inherits (t t' : Traffic α) (new : String → Transfer α → Prop) : Prop :=
  ∀ e ∈ t'.futures, (∃ old ∈ t.futures, old.1 = e.1 ∧ old.2.transfer = e.2.transfer) ∨
    new e.1 e.2.transfer

/-- No single write. -/
def Other (_ : String) : Transfer α → Prop
  | .refused | .write _ => False
  | _ => True

theorem Inherits.of_eq {t t' : Traffic α} {new : String → Transfer α → Prop}
    (h : t'.futures = t.futures) : Inherits t t' new :=
  fun e he => .inl ⟨e, h ▸ he, rfl, rfl⟩

theorem futures_release (t : Traffic α) (id : String) (h : Handle) :
    (t.releaseHandle id h).2.1.futures = t.futures := by
  simp only [releaseHandle]
  split <;> rfl

theorem futures_open (t : Traffic α) (side : Side) (id : String) :
    (t.openHandle side id).1.futures = t.futures := by
  simp only [openHandle]
  split
  · rename_i old _
    exact futures_release { t with pipe := (openSide t.pipe side).1 } id old
  · rfl

theorem inherits_forget (t : Traffic α) (id : String) (f : Future α)
    {new : String → Transfer α → Prop} : Inherits t (t.forgetFuture id f).1 new :=
  fun e he => .inl ⟨e, List.mem_of_mem_filter he, rfl, rfl⟩

theorem inherits_start (t : Traffic α) (id : String) (owner : Option String)
    (transfer : Transfer α) {new : String → Transfer α → Prop} (hnew : new id transfer) :
    Inherits t (t.start id owner transfer).2.1 new := by
  have hnew' : ∀ e ∈ [(id, ({ waker := t.nextWaker, owner := owner, transfer := transfer } :
      Future α))], new e.1 e.2.transfer := by simpa using hnew
  intro e he
  simp only [start] at he
  cases hold : t.future? id with
  | none =>
    simp only [hold, List.mem_append] at he
    exact he.imp (fun he => ⟨e, he, rfl, rfl⟩) fun he => by
      obtain rfl := List.mem_singleton.mp he
      exact hnew
  | some old =>
    simp only [hold, List.mem_append] at he
    rcases he with he | he
    · exact t.inherits_forget id old e he
    · obtain rfl := List.mem_singleton.mp he
      exact .inr hnew

theorem inherits_startOn (t : Traffic α) (side : Side) (handle : Option String) (id : String)
    {transfer onClosed : Transfer α} {new : String → Transfer α → Prop}
    (hopen : new id transfer) (hclosed : new id onClosed) :
    Inherits t (t.startOn side handle id transfer onClosed).2.1 new := by
  simp only [startOn]
  cases handle with
  | none => exact t.inherits_start id none transfer hopen
  | some name =>
    dsimp only
    split
    · exact .of_eq rfl
    · refine t.inherits_start id (some name) _ ?_
      split
      · exact hclosed
      · exact hopen

theorem other_pollWriteAll (id : String) (waker : Waker) (closed started : Bool) (items : List α)
    (p : Pipe α) : Other id (pollWriteAll p waker closed started items).2.1 := by
  induction items generalizing p started with
  | nil => trivial
  | cons item rest ih =>
    simp only [pollWriteAll]
    split
    · trivial
    · rcases p.pollWrite waker item with ⟨_ | _ | _, p', events⟩
      · trivial
      · trivial
      · exact ih false p'

theorem other_pollReadAll (id : String) (waker : Waker) (fuel : Nat) (p : Pipe α) (got : List α)
    (state : ReadState) : Other id (pollReadAll waker fuel p got state).2.1 := by
  induction fuel generalizing p got state with
  | zero => trivial
  | succ fuel ih =>
    simp only [pollReadAll]
    rcases p.pollRead waker state with ⟨_ | _ | item, state', p', events⟩
    · trivial
    · trivial
    · exact ih p' (got ++ [item]) .fresh

/-- A write under way stays what it is while it waits. -/
theorem transfer_pollFuture (t : Traffic α) (f : Future α)
    (hpending : (t.pollFuture f).1 = none) :
    (t.pollFuture f).2.1 = f.transfer ∨ ∀ id, Other id (t.pollFuture f).2.1 := by
  simp only [pollFuture] at hpending ⊢
  cases htransfer : f.transfer with
  | read state =>
    refine .inr fun id => ?_
    dsimp only
    split <;> trivial
  | write item =>
    refine .inl ?_
    dsimp only
    split <;> rfl
  | refused => simp [htransfer] at hpending
  | readAll started got state =>
    refine .inr fun id => ?_
    dsimp only
    split
    · trivial
    · have hother :=
        other_pollReadAll id (.task f.waker) (t.pipe.buffer.length + 2) t.pipe got state
      split <;> rename_i hp <;> rw [hp] at hother <;> exact hother
  | writeAll started items =>
    refine .inr fun id => ?_
    have hother := other_pollWriteAll id (.task f.waker) (t.ownerClosed f) started items t.pipe
    dsimp only
    split <;> rename_i hp <;> rw [hp] at hother <;> exact hother

/-- An operation that does not start a single write starts none. -/
theorem inherits_step (t : Traffic α) (op : PipeOp α)
    (hother : ∀ handle id item, op ≠ .write handle id item) :
    Inherits t (t.step op).2.1 Other := by
  cases op with
  | openHandle side id =>
    simp only [Traffic.step]
    split
    · exact .of_eq rfl
    · exact .of_eq (t.futures_open side id)
  | clone name id =>
    simp only [Traffic.step]
    split
    · exact .of_eq rfl
    · split
      · exact .of_eq rfl
      · exact .of_eq (t.futures_open _ id)
  | close name =>
    simp only [Traffic.step]
    split
    · exact .of_eq rfl
    · exact .of_eq (t.futures_release name _)
  | drop name =>
    simp only [Traffic.step]
    split
    · exact .of_eq rfl
    · split
      · exact .of_eq rfl
      · exact .of_eq (t.futures_release name _)
  | tryWrite handle item =>
    cases handle with
    | none => exact .of_eq rfl
    | some name =>
      simp only [Traffic.step]
      split
      · exact .of_eq rfl
      · split <;> exact .of_eq rfl
  | read handle id => exact t.inherits_startOn .read handle id trivial trivial
  | write handle id item => exact absurd rfl (hother handle id item)
  | readAll handle id => exact t.inherits_startOn .read handle id trivial trivial
  | writeAll handle id items => exact t.inherits_startOn .write handle id trivial trivial
  | poll id =>
    simp only [Traffic.step]
    cases hf : t.future? id with
    | none => exact .of_eq rfl
    | some f =>
      have htransfer := t.transfer_pollFuture f
      dsimp only
      rcases hp : t.pollFuture f with ⟨_ | reply, transfer, p, events⟩ <;> rw [hp] at htransfer
      · intro e he
        obtain ⟨old, hold, rfl⟩ := List.mem_map.mp he
        cases hid : old.1 == id with
        | false => exact .inl ⟨old, hold, by simp, by simp⟩
        | true =>
          -- the operation keeps its name; what it transfers changes only if it is no single write
          simp only [if_true]
          rcases htransfer rfl with htransfer | hother
          · obtain ⟨⟨id', f'⟩, hmem, rfl⟩ := Option.map_eq_some_iff.mp hf
            exact .inl ⟨_, List.mem_of_find?_eq_some hmem,
              by simpa using List.find?_some hmem, htransfer.symm⟩
          · exact .inr (hother id)
      · exact fun e he => .inl ⟨e, List.mem_of_mem_filter he, rfl, rfl⟩
  | forget id =>
    simp only [Traffic.step]
    split
    · exact .of_eq rfl
    · exact t.inherits_forget id _
  | closeSide side => exact .of_eq rfl
  | forceClose => exact .of_eq rfl
  | onClose side handle label =>
    simp only [Traffic.step]
    split <;> exact .of_eq rfl
  | isClosed name =>
    simp only [Traffic.step]
    split <;> exact .of_eq rfl
  | name handle =>
    simp only [Traffic.step]
    split <;> exact .of_eq rfl
  | describe handle =>
    cases handle with
    | none => exact .of_eq rfl
    | some name =>
      simp only [Traffic.step]
      split <;> exact .of_eq rfl

/-- A write that is started is refused by a closed handle, and let through otherwise. -/
theorem inherits_write (t : Traffic α) (handle : Option String) (id : String) (item : α) :
    Inherits t (t.step (.write handle id item)).2.1 fun id' transfer => id' = id ∧
      ((transfer = .write item ∧ t.Writable handle) ∨
        transfer = .refused ∧ ∃ name h, handle = some name ∧ t.handleOn? .write name = some h ∧
          h.closed = true) := by
  cases handle with
  | none => exact t.inherits_start id none (.write item) ⟨rfl, .inl ⟨rfl, by simp [Writable]⟩⟩
  | some name =>
    simp only [Traffic.step, startOn]
    cases hname : t.handleOn? .write name with
    | none => exact .of_eq rfl
    | some h =>
      refine t.inherits_start id (some name) _ ⟨rfl, ?_⟩
      cases hclosed : h.closed with
      | true => exact .inr ⟨by simp, name, h, rfl, hname, hclosed⟩
      | false =>
        refine .inl ⟨by simp, fun name' hname' => ?_⟩
        obtain rfl := Option.some.inj hname'
        exact ⟨h, hname, hclosed⟩

theorem run_concat (t : Traffic α) (ops : List (PipeOp α)) (op : PipeOp α) :
    (t.run (ops ++ [op])).2 = ((t.run ops).2.step op).2.1 := by
  induction ops generalizing t with
  | nil => rfl
  | cons op' ops ih => exact ih (t.step op').2.1

/-- Each write under way was started like this. -/
theorem startedBy_run {start : Traffic α} (hstart : start.futures = []) (ops : List (PipeOp α)) :
    ∀ e ∈ (start.run ops).2.futures, StartedBy start ops e.1 e.2.transfer := by
  induction ops using List.reverseRecOn with
  | nil => simp [Traffic.run, hstart]
  | append_singleton ops op ih =>
    rw [run_concat]
    set t := (start.run ops).2 with ht
    intro e he
    by_cases hwrite : ∃ handle id item, op = .write handle id item
    · obtain ⟨handle, id, item, rfl⟩ := hwrite
      rcases t.inherits_write handle id item e he with ⟨old, hold, hid, htransfer⟩ | ⟨hid, hnew⟩
      · rw [← hid, ← htransfer]
        exact (ih old hold).later _
      · rw [hid]
        rcases hnew with ⟨htransfer, hopen⟩ | ⟨htransfer, name, h, rfl, hname, hclosed⟩ <;>
          rw [htransfer]
        · exact ⟨ops, handle, [], rfl, hopen⟩
        · exact ⟨ops, name, item, [], h, rfl, hname, hclosed⟩
    · rcases t.inherits_step op (fun handle id item h => hwrite ⟨handle, id, item, h⟩) e he
        with ⟨old, hold, hid, htransfer⟩ | hother
      · rw [← hid, ← htransfer]
        exact (ih old hold).later _
      · cases htransfer : e.2.transfer <;> rw [htransfer] at hother <;> trivial

/-! ## Every attempt -/

/-- What becomes of an attempt to write when users have done these operations. -/
structure Attempts (start : Traffic α) (ops : List (PipeOp α)) : Prop where
  /-- The reads in the queue stand in the order in which they have come. -/
  oldest : ((start.run ops).2.pipe.parked.map (·.1)).Pairwise (· < ·)
  /-- A closed handle refuses an attempt without waiting, and nothing happens. -/
  tryClosed : ∀ name h item, (start.run ops).2.handleOn? .write name = some h → h.closed = true →
    (start.run ops).2.step (.tryWrite (some name) item) =
      (.written (.error (.alreadyWriteClosed (start.run ops).2.pipe.name)), (start.run ops).2, [])
  /-- Any other attempt without waiting is judged by the pipe. -/
  tryOpen : ∀ handle item, (start.run ops).2.Writable handle → ∃ offer p' events,
    Pipe.Judged (start.run ops).2.pipe item none offer p' events ∧
    (start.run ops).2.step (.tryWrite handle item) =
      (.written (offer.tried (start.run ops).2.pipe.name), { (start.run ops).2 with pipe := p' },
        events)
  /-- A write under way was refused if it was started on a closed handle, and only then. -/
  started : ∀ id f, (start.run ops).2.future? id = some f → StartedBy start ops id f.transfer
  /-- The poll of a refused write tells so, and nothing else happens. -/
  pollRefused : ∀ id f, (start.run ops).2.future? id = some f → f.transfer = .refused →
    ((start.run ops).2.step (.poll id)).1 =
      .written (.error (.alreadyWriteClosed (start.run ops).2.pipe.name)) ∧
    ((start.run ops).2.step (.poll id)).2.1.pipe = (start.run ops).2.pipe ∧
    ((start.run ops).2.step (.poll id)).2.2 = []
  /-- Every poll of any other write is judged by the pipe. -/
  poll : ∀ id f item, (start.run ops).2.future? id = some f → f.transfer = .write item →
    ∃ offer p' events,
      Pipe.Judged (start.run ops).2.pipe item (some (.task f.waker)) offer p' events ∧
      ((start.run ops).2.step (.poll id)).1 = writeReply offer.polled ∧
      ((start.run ops).2.step (.poll id)).2.1.pipe = p' ∧
      ((start.run ops).2.step (.poll id)).2.1.handles = (start.run ops).2.handles ∧
      ((start.run ops).2.step (.poll id)).2.2 = events

/-- Users of a new pipe may do what they like. -/
theorem attempts_create (name : String) (capacity : Nat) (ops : List (PipeOp α)) :
    Attempts (create name capacity).1 ops where
  oldest := ((reaches_run _ ops).ascending (Pipe.ascending_create name capacity)).order
  tryClosed name h item hname hclosed := by simp [Traffic.step, hname, hclosed]
  tryOpen handle item hopen := ⟨_, _, _, Pipe.judged_offer _ item none, step_tryWrite hopen item⟩
  started id f hf := by
    obtain ⟨⟨id', f'⟩, hmem, rfl⟩ := Option.map_eq_some_iff.mp hf
    obtain rfl : id' = id := by simpa using List.find?_some hmem
    exact startedBy_run rfl ops _ (List.mem_of_find?_eq_some hmem)
  pollRefused id f hf hrefused := step_poll_refused hf hrefused
  poll id f item hf hwrite := by
    obtain ⟨hreply, hpipe, hhandles, hevents⟩ := step_poll hf hwrite
    exact ⟨_, _, _, Pipe.judged_offer _ item _, hreply, hpipe, hhandles, hevents⟩

end Traffic

end Pipework
