import Pipework.Pipe.Basic
import Pipework.Text.Quoted

/-!
# Traffic on one pipe

A `Traffic` is a pipe together with its users: reader and writer handles, which count on their side
of the pipe until they are closed or dropped, and reads and writes under way, each with a waker of
its own. `Traffic.step` carries out one operation given as data and tells its answer and the events
it caused; `Traffic.run` carries out a list of them.

* A handle is released at most once, whether it is closed, dropped, or first closed and then
  dropped.
* A handle stays while an operation started on it is under way.
* An operation on a closed handle ends at once: reads with the end of data, writes with an error.
-/

namespace Pipework

/-- A side of a pipe. -/
inductive Side where
  /-- Where items are taken. -/
  | read
  /-- Where items are put. -/
  | write
  deriving Repr, DecidableEq

/-- A handle on one side of a pipe. -/
structure Handle where
  /-- The side it counts on. -/
  side : Side
  /-- It has been released. -/
  closed : Bool := false
  deriving Repr, DecidableEq

/-- An operation under way. -/
inductive Transfer (α : Type) where
  /-- Read one item. -/
  | read (state : ReadState)
  /-- Write one item. -/
  | write (item : α)
  /-- A write started on a closed handle. -/
  | refused
  /-- Read up to the end of data; `started` is false before the first poll. -/
  | readAll (started : Bool) (got : List α) (state : ReadState)
  /-- Write items in order; the first is under way if `started`. -/
  | writeAll (started : Bool) (items : List α)

/-- An operation under way, with its waker and the handle it was started on. -/
structure Future (α : Type) where
  /-- The number of its waker. -/
  waker : Nat
  /-- The handle it borrows; none if it was started on the pipe. -/
  owner : Option String
  /-- What it does. -/
  transfer : Transfer α

/-- Why an operation cannot be carried out at all. -/
inductive Refusal where
  /-- No handle of the right side has this name. -/
  | noHandle
  /-- No operation under way has this name. -/
  | noFuture
  /-- An operation started on the handle is under way. -/
  | borrowed
  deriving Repr, DecidableEq

/-- The answer to an operation. -/
inductive Reply (α : Type) where
  /-- Carried out. -/
  | done
  /-- Yes or no. -/
  | flag (b : Bool)
  /-- A name or a description. -/
  | text (s : String)
  /-- Still waiting. -/
  | pending
  /-- What a read found. -/
  | item (x : Option α)
  /-- All that was read. -/
  | items (xs : List α)
  /-- How a write ended. -/
  | written (outcome : Except ShellError Unit)
  /-- Not carried out. -/
  | refused (why : Refusal)

/-- Operations on a pipe and its users. Names of handles and of operations under way are separate;
where a handle is optional, its absence means the pipe itself. -/
inductive PipeOp (α : Type) where
  /-- Open a handle. -/
  | openHandle (side : Side) (id : String)
  /-- Open another handle on the side of a handle. -/
  | clone (handle id : String)
  /-- Release a handle. -/
  | close (handle : String)
  /-- Drop a handle. -/
  | drop (handle : String)
  /-- Write without waiting. -/
  | tryWrite (handle : Option String) (item : α)
  /-- Start to read an item. -/
  | read (handle : Option String) (id : String)
  /-- Start to write an item. -/
  | write (handle : Option String) (id : String) (item : α)
  /-- Start to read up to the end of data. -/
  | readAll (handle : Option String) (id : String)
  /-- Start to write several items. -/
  | writeAll (handle : Option String) (id : String) (items : List α)
  /-- Poll an operation under way. -/
  | poll (id : String)
  /-- Abandon an operation under way. -/
  | forget (id : String)
  /-- Release a count of a side without a handle. -/
  | closeSide (side : Side)
  /-- Close both sides. -/
  | forceClose
  /-- Register a close callback. -/
  | onClose (side : Side) (handle : Option String) (label : Nat)
  /-- Ask whether a handle is closed. -/
  | isClosed (handle : String)
  /-- The pipe's name. -/
  | name (handle : Option String)
  /-- Describe the pipe or a handle. -/
  | describe (handle : Option String)

/-- A pipe with its handles and the operations under way. -/
structure Traffic (α : Type) where
  /-- The pipe. -/
  pipe : Pipe α
  /-- Handles by name. -/
  handles : List (String × Handle) := []
  /-- Operations under way by name. -/
  futures : List (String × Future α) := []
  /-- The number of the next waker. -/
  nextWaker : Nat := 0

namespace Pipe

variable {α : Type}

/-- A truth value as text. -/
def truthText (b : Bool) : String := if b then "true" else "false"

/-- The description of a pipe. -/
def describe (p : Pipe α) : String :=
  "Pipe \x7b name: " ++ quotedText p.name ++
    s!", readers: {p.readers}, writers: {p.writers}, read_closed: {truthText p.readClosed}" ++
    s!", write_closed: {truthText p.writeClosed}, buffered: {p.buffer.length} " ++ "\x7d"

end Pipe

namespace Traffic

variable {α : Type}

/-- Begin with a pipe that nobody uses. -/
def create (name : String) (capacity : Nat) : Traffic α × List Pipe.Event :=
  let (p, events) := Pipe.create name capacity
  ({ pipe := p }, events)

/-- The handle of a name. -/
def handle? (t : Traffic α) (id : String) : Option Handle :=
  (t.handles.find? (·.1 == id)).map (·.2)

/-- The handle of a name, if it is on the given side. -/
def handleOn? (t : Traffic α) (side : Side) (id : String) : Option Handle :=
  (t.handle? id).filter (·.side == side)

/-- The operation under way of a name. -/
def future? (t : Traffic α) (id : String) : Option (Future α) :=
  (t.futures.find? (·.1 == id)).map (·.2)

/-- An operation started on the handle is under way. -/
def borrowed (t : Traffic α) (id : String) : Bool :=
  t.futures.any fun f => f.2.owner == some id

/-- Put a handle under a name. -/
def setHandle (t : Traffic α) (id : String) (h : Handle) : Traffic α :=
  { t with handles := t.handles.filter (·.1 != id) ++ [(id, h)] }

/-- Count one more handle on a side. -/
def openSide (p : Pipe α) : Side → Pipe α × List Pipe.Event
  | .read => p.openRead
  | .write => p.openWrite

/-- Release one count of a side. -/
def closeSide (p : Pipe α) : Side → Bool × Pipe α × List Pipe.Event
  | .read => p.closeRead
  | .write => p.closeWrite

/-- Release a handle, unless it has been released. -/
def releaseHandle (t : Traffic α) (id : String) (h : Handle) :
    Bool × Traffic α × List Pipe.Event :=
  if h.closed then (false, t, [])
  else
    let (last, p, events) := closeSide t.pipe h.side
    (last, { t.setHandle id { h with closed := true } with pipe := p }, events)

/-- Drop a handle: it is released and its name forgotten. -/
def dropHandle (t : Traffic α) (id : String) (h : Handle) : Traffic α × List Pipe.Event :=
  let (_, t, events) := t.releaseHandle id h
  ({ t with handles := t.handles.filter (·.1 != id) }, events)

/-- Open a handle under a name; one that had the name before is dropped. -/
def openHandle (t : Traffic α) (side : Side) (id : String) : Traffic α × List Pipe.Event :=
  let (p, opened) := openSide t.pipe side
  let t := { t with pipe := p }
  let (t, dropped) := match t.handle? id with
    | some old => t.dropHandle id old
    | none => (t, [])
  (t.setHandle id { side := side }, opened ++ dropped)

/-! ## Operations under way -/

/-- Poll the writing of several items: each is offered in turn, the first failure ends it. A handle
closed by now refuses the items not yet under way. -/
def pollWriteAll (p : Pipe α) (waker : Waker) (closed : Bool) :
    Bool → List α → Poll (Except ShellError Unit) × Transfer α × Pipe α × List Pipe.Event
  | started, [] => (.ready (.ok ()), .writeAll started [], p, [])
  | started, item :: rest =>
    if closed && !started then
      (.ready (.error (.alreadyWriteClosed p.name)), .writeAll false (item :: rest), p, [])
    else
      match p.pollWrite waker item with
      | (.pending, p, events) => (.pending, .writeAll true (item :: rest), p, events)
      | (.ready (.error e), p, events) =>
        (.ready (.error e), .writeAll false (item :: rest), p, events)
      | (.ready (.ok ()), p, events) =>
        let (result, transfer, p, more) := pollWriteAll p waker closed false rest
        (result, transfer, p, events ++ more)

/-- Poll the reading of all items. `fuel` bounds the items that may come at once; one more than is
buffered or answered is enough. -/
def pollReadAll (waker : Waker) : Nat → Pipe α → List α → ReadState →
    Poll (List α) × Transfer α × Pipe α × List Pipe.Event
  | 0, p, got, state => (.pending, .readAll true got state, p, [])
  | fuel + 1, p, got, state =>
    match p.pollRead waker state with
    | (.pending, state, p, events) => (.pending, .readAll true got state, p, events)
    | (.ready none, state, p, events) => (.ready got, .readAll true got state, p, events)
    | (.ready (some item), _, p, events) =>
      let (result, transfer, p, more) := pollReadAll waker fuel p (got ++ [item]) .fresh
      (result, transfer, p, events ++ more)

/-- The handle an operation was started on is closed. -/
def ownerClosed (t : Traffic α) (f : Future α) : Bool :=
  match f.owner.bind t.handle? with
  | some h => h.closed
  | none => false

/-- Poll an operation under way: its answer if it is over, its new state otherwise. -/
def pollFuture (t : Traffic α) (f : Future α) :
    Option (Reply α) × Transfer α × Pipe α × List Pipe.Event :=
  let waker := Waker.task f.waker
  match f.transfer with
  | .read state =>
    match t.pipe.pollRead waker state with
    | (.pending, state, p, events) => (none, .read state, p, events)
    | (.ready item, state, p, events) => (some (.item item), .read state, p, events)
  | .write item =>
    match t.pipe.pollWrite waker item with
    | (.pending, p, events) => (none, .write item, p, events)
    | (.ready outcome, p, events) => (some (.written outcome), .write item, p, events)
  | .refused =>
    (some (.written (.error (.alreadyWriteClosed t.pipe.name))), .refused, t.pipe, [])
  | .readAll started got state =>
    if !started && t.ownerClosed f then (some (.items []), .readAll true got state, t.pipe, [])
    else
      match pollReadAll waker (t.pipe.buffer.length + 2) t.pipe got state with
      | (.pending, transfer, p, events) => (none, transfer, p, events)
      | (.ready items, transfer, p, events) => (some (.items items), transfer, p, events)
  | .writeAll started items =>
    match pollWriteAll t.pipe waker (t.ownerClosed f) started items with
    | (.pending, transfer, p, events) => (none, transfer, p, events)
    | (.ready outcome, transfer, p, events) => (some (.written outcome), transfer, p, events)

/-- What abandoning an operation does to the pipe: a read gives back what it holds. -/
def dropTransfer (p : Pipe α) : Transfer α → Pipe α × List Pipe.Event
  | .read state => p.dropRead state
  | .readAll _ _ state => p.dropRead state
  | _ => (p, [])

/-- Forget an operation under way. -/
def forgetFuture (t : Traffic α) (id : String) (f : Future α) : Traffic α × List Pipe.Event :=
  let (p, events) := dropTransfer t.pipe f.transfer
  ({ t with pipe := p, futures := t.futures.filter (·.1 != id) }, events)

/-- Start an operation under a name; one that had the name before is abandoned. -/
def start (t : Traffic α) (id : String) (owner : Option String) (transfer : Transfer α) :
    Reply α × Traffic α × List Pipe.Event :=
  let (t, events) := match t.future? id with
    | some old => t.forgetFuture id old
    | none => (t, [])
  let future := { waker := t.nextWaker, owner := owner, transfer := transfer }
  (.done, { t with futures := t.futures ++ [(id, future)], nextWaker := t.nextWaker + 1 }, events)

/-- Start an operation on the pipe itself, or on a handle of the given side; `onClosed` takes its
place on a closed handle. -/
def startOn (t : Traffic α) (side : Side) (handle : Option String) (id : String)
    (transfer onClosed : Transfer α) : Reply α × Traffic α × List Pipe.Event :=
  match handle with
  | none => t.start id none transfer
  | some name =>
    match t.handleOn? side name with
    | none => (.refused .noHandle, t, [])
    | some h => t.start id (some name) (if h.closed then onClosed else transfer)

/-! ## Steps -/

/-- A handle is closed for its user: released, or useless because its side of the pipe (for a
writer, either side) has closed. -/
def handleClosed (p : Pipe α) (h : Handle) : Bool :=
  h.closed || p.readClosed || (h.side == .write && p.writeClosed)

/-- The description of a handle. -/
def describeHandle (p : Pipe α) (h : Handle) : String :=
  let kind := match h.side with
    | .read => "Reader"
    | .write => "Writer"
  kind ++ " \x7b pipe: " ++ p.describe ++ ", closed: " ++ Pipe.truthText h.closed ++ " \x7d"

/-- Carry out one operation. -/
def step (t : Traffic α) (op : PipeOp α) : Reply α × Traffic α × List Pipe.Event :=
  match op with
  | .openHandle side id =>
    if t.borrowed id then (.refused .borrowed, t, [])
    else
      let (t, events) := t.openHandle side id
      (.done, t, events)
  | .clone name id =>
    match t.handle? name with
    | none => (.refused .noHandle, t, [])
    | some h =>
      if t.borrowed id then (.refused .borrowed, t, [])
      else
        let (t, events) := t.openHandle h.side id
        (.done, t, events)
  | .close name =>
    match t.handle? name with
    | none => (.refused .noHandle, t, [])
    | some h =>
      let (last, t, events) := t.releaseHandle name h
      (.flag last, t, events)
  | .drop name =>
    match t.handle? name with
    | none => (.done, t, [])
    | some h =>
      if t.borrowed name then (.refused .borrowed, t, [])
      else
        let (t, events) := t.dropHandle name h
        (.done, t, events)
  | .tryWrite none item =>
    let (outcome, p, events) := t.pipe.tryWrite item
    (.written outcome, { t with pipe := p }, events)
  | .tryWrite (some name) item =>
    match t.handleOn? .write name with
    | none => (.refused .noHandle, t, [])
    | some h =>
      if h.closed then (.written (.error (.alreadyWriteClosed t.pipe.name)), t, [])
      else
        let (outcome, p, events) := t.pipe.tryWrite item
        (.written outcome, { t with pipe := p }, events)
  | .read handle id => t.startOn .read handle id (.read .fresh) (.read .finished)
  | .write handle id item => t.startOn .write handle id (.write item) .refused
  | .readAll handle id =>
    t.startOn .read handle id (.readAll false [] .fresh) (.readAll false [] .fresh)
  | .writeAll handle id items =>
    t.startOn .write handle id (.writeAll false items) (.writeAll false items)
  | .poll id =>
    match t.future? id with
    | none => (.refused .noFuture, t, [])
    | some f =>
      match t.pollFuture f with
      | (some reply, _, p, events) =>
        (reply, { t with pipe := p, futures := t.futures.filter (·.1 != id) }, events)
      | (none, transfer, p, events) =>
        (.pending,
          { t with
            pipe := p,
            futures := t.futures.map fun e =>
              if e.1 == id then (id, { f with transfer := transfer }) else e }, events)
  | .forget id =>
    match t.future? id with
    | none => (.flag false, t, [])
    | some f =>
      let (t, events) := t.forgetFuture id f
      (.flag true, t, events)
  | .closeSide side =>
    let (last, p, events) := closeSide t.pipe side
    (.flag last, { t with pipe := p }, events)
  | .forceClose =>
    let (p, events) := t.pipe.forceClose
    (.done, { t with pipe := p }, events)
  | .onClose side handle label =>
    if (handle.any fun name => (t.handleOn? side name).isNone) then (.refused .noHandle, t, [])
    else
      let (p, events) := match side with
        | .read => t.pipe.addReadCallback label
        | .write => t.pipe.addWriteCallback label
      (.done, { t with pipe := p }, events)
  | .isClosed name =>
    match t.handle? name with
    | none => (.refused .noHandle, t, [])
    | some h => (.flag (handleClosed t.pipe h), t, [])
  | .name handle =>
    if (handle.any fun name => (t.handle? name).isNone) then (.refused .noHandle, t, [])
    else (.text t.pipe.name, t, [])
  | .describe none => (.text t.pipe.describe, t, [])
  | .describe (some name) =>
    match t.handle? name with
    | none => (.refused .noHandle, t, [])
    | some h => (.text (describeHandle t.pipe h), t, [])

/-- Carry out operations one after another; the answers and events of each. -/
def run (t : Traffic α) : List (PipeOp α) → List (Reply α × List Pipe.Event) × Traffic α
  | [] => ([], t)
  | op :: rest =>
    let (reply, t, events) := t.step op
    let (replies, t) := t.run rest
    ((reply, events) :: replies, t)

end Traffic

end Pipework
