import Pipework.Error

/-!
# Pipes

A pipe is a bounded queue of items between stages. Each side counts its open handles and closes for
good when its count returns to zero; the two sides close independently:

* **closed for writing** — what is buffered is still delivered, then every read meets the end of
  data;
* **closed for reading** — what is buffered is dropped, and every write fails as a broken pipe.

A read that finds nothing *parks*; a write hands its item to the oldest parked read, and only when
no read is parked does the item go to the buffer. The answer to a parked read waits in the pipe
until the read collects it; a read that is abandoned instead gives its item back, so no item is
lost. A write that finds the buffer full leaves its waker and keeps its item.

Every operation returns the pipe after it and, in order, the events it caused: wakers called, close
callbacks run, diagnostics, and one signal for each write to a pipe without readers.
-/

namespace Pipework

/-- Whom to wake when a parked operation may go on. -/
inductive Waker where
  /-- The future that the executor was asked to run to its end. -/
  | main
  /-- A task of the executor. -/
  | task (id : Nat)
  /-- Nobody: the operation is polled once and given up. -/
  | nobody
  deriving Repr, DecidableEq, Inhabited

namespace Pipe

/-- What an operation on a pipe causes outside of it. -/
inductive Event where
  /-- A diagnostic line. -/
  | note (text : String)
  /-- A waker is called. -/
  | wake (waker : Waker)
  /-- The close callback with this label runs. -/
  | call (label : Nat)
  /-- A write met a pipe without readers. -/
  | signal (pipe message : String)
  deriving Repr, DecidableEq

end Pipe

/-- A bounded queue with two sides that close. -/
structure Pipe (α : Type) where
  /-- The name in diagnostics and errors. -/
  name : String
  /-- How many items may be buffered. -/
  capacity : Nat
  /-- At least one item may be buffered. -/
  capacity_pos : 0 < capacity
  /-- Open handles for reading. -/
  readers : Nat := 0
  /-- Open handles for writing. -/
  writers : Nat := 0
  /-- The reading side has closed. -/
  readClosed : Bool := false
  /-- The writing side has closed. -/
  writeClosed : Bool := false
  /-- Items accepted and not yet taken, oldest first. -/
  buffer : List α := []
  /-- Reads waiting for an item, oldest first, each with the waker of its last poll. -/
  parked : List (Nat × Waker) := []
  /-- Answers that parked reads have not collected yet; `none` is the end of data. -/
  answered : List (Nat × Option α) := []
  /-- The ticket that the next parked read will hold. -/
  nextTicket : Nat := 0
  /-- Wakers of writes that found the buffer full. -/
  blocked : List Waker := []
  /-- Callbacks to run when the reading side closes. -/
  onReadClose : List Nat := []
  /-- Callbacks to run when the writing side closes. -/
  onWriteClose : List Nat := []

/-- What a poll finds: an answer, or nothing yet. -/
inductive Poll (β : Type) where
  /-- The operation has to wait. -/
  | pending
  /-- The operation is over. -/
  | ready (answer : β)
  deriving Repr, DecidableEq

/-- Where a read stands between two polls. -/
inductive ReadState where
  /-- Not polled yet. -/
  | fresh
  /-- Parked, or answered and not collected, under this ticket. -/
  | parked (ticket : Nat)
  /-- Over: every further poll meets the end of data. -/
  | finished
  deriving Repr, DecidableEq, Inhabited

namespace Pipe

variable {α : Type}

/-- A pipe without handles that buffers up to `capacity` items, but at least one. -/
def create (name : String) (capacity : Nat) : Pipe α × List Event :=
  ({ name := name, capacity := max capacity 1, capacity_pos := by omega },
    [.note s!"created #<{name}> capacity={capacity}"])

/-! ## Opening -/

/-- Count a new handle for reading. -/
def openRead (p : Pipe α) : Pipe α × List Event :=
  let p := { p with readers := p.readers + 1 }
  (p, [.note s!"#<{p.name}> OPEN read (r={p.readers},w={p.writers})"])

/-- Count a new handle for writing. -/
def openWrite (p : Pipe α) : Pipe α × List Event :=
  let p := { p with writers := p.writers + 1 }
  (p, [.note s!"#<{p.name}> OPEN write (r={p.readers},w={p.writers})"])

/-! ## Writing -/

/-- What becomes of an item offered to a pipe. -/
inductive Offer where
  /-- The pipe has taken it. -/
  | accepted
  /-- There is no room. -/
  | full
  /-- The pipe will never take it. -/
  | failed (e : ShellError)
  deriving Repr, DecidableEq

/-- Leave a waker to call when there may be room, unless it is there already. -/
def block (p : Pipe α) (waker : Option Waker) : Pipe α :=
  match waker with
  | some w => if p.blocked.contains w then p else { p with blocked := p.blocked ++ [w] }
  | none => p

/-- Offer an item. A pipe closed for reading refuses it first of all; else one closed for writing;
else the oldest parked read takes it; else the buffer, if there is room. -/
def offer (p : Pipe α) (item : α) (waker : Option Waker) : Offer × Pipe α × List Event :=
  if p.readClosed then
    (.failed (.brokenPipe p.name), p,
      [.note s!"#<{p.name}> sending sigPipe",
        .signal p.name s!"pipe is read-closed '{p.name}'"])
  else if p.writeClosed then (.failed (.alreadyWriteClosed p.name), p, [])
  else
    match p.parked with
    | (ticket, w) :: rest =>
      (.accepted, { p with parked := rest, answered := p.answered ++ [(ticket, some item)] },
        [.wake w])
    | [] =>
      if p.buffer.length < p.capacity then
        (.accepted, { p with buffer := p.buffer ++ [item] }, [])
      else (.full, p.block waker, [])

/-- Write without waiting. -/
def tryWrite (p : Pipe α) (item : α) : Except ShellError Unit × Pipe α × List Event :=
  match p.offer item none with
  | (.accepted, p, events) => (.ok (), p, events)
  | (.full, p, events) => (.error (.wouldBlock p.name), p, events)
  | (.failed e, p, events) => (.error e, p, events)

/-- Poll a write that still holds its item. -/
def pollWrite (p : Pipe α) (waker : Waker) (item : α) :
    Poll (Except ShellError Unit) × Pipe α × List Event :=
  match p.offer item (some waker) with
  | (.accepted, p, events) => (.ready (.ok ()), p, events)
  | (.full, p, events) => (.pending, p, events)
  | (.failed e, p, events) => (.ready (.error e), p, events)

/-! ## Reading -/

/-- The answer waiting under a ticket. -/
def answer? (p : Pipe α) (ticket : Nat) : Option (Option α) :=
  (p.answered.find? (·.1 == ticket)).map (·.2)

/-- Take the answer under a ticket away. -/
def collect (p : Pipe α) (ticket : Nat) : Pipe α :=
  { p with answered := p.answered.filter (·.1 != ticket) }

/-- Replace the waker of a parked read. -/
def rewake (p : Pipe α) (ticket : Nat) (waker : Waker) : Pipe α :=
  { p with parked := p.parked.map fun e => if e.1 == ticket then (ticket, waker) else e }

/-- Poll a read. A new read meets, in this order, the closed reading side, the oldest buffered item,
the closed writing side; else it parks. Taking an item from the buffer wakes every write that waits
for room. -/
def pollRead (p : Pipe α) (waker : Waker) (state : ReadState) :
    Poll (Option α) × ReadState × Pipe α × List Event :=
  match state with
  | .finished => (.ready none, .finished, p, [])
  | .parked ticket =>
    match p.answer? ticket with
    | some item => (.ready item, .finished, p.collect ticket, [])
    | none => (.pending, .parked ticket, p.rewake ticket waker, [])
  | .fresh =>
    if p.readClosed then (.ready none, .finished, p, [])
    else
      match p.buffer with
      | item :: rest =>
        (.ready (some item), .finished, { p with buffer := rest, blocked := [] },
          p.blocked.map .wake)
      | [] =>
        if p.writeClosed then (.ready none, .finished, p, [])
        else
          (.pending, .parked p.nextTicket,
            { p with
              parked := p.parked ++ [(p.nextTicket, waker)], nextTicket := p.nextTicket + 1 }, [])

/-- Give an item back that a read has taken and will not return: to the oldest parked read, else to
the front of the buffer; a pipe closed for reading drops it. -/
def restore (p : Pipe α) (item : α) : Pipe α × List Event :=
  if p.readClosed then (p, [])
  else
    match p.parked with
    | (ticket, w) :: rest =>
      ({ p with parked := rest, answered := p.answered ++ [(ticket, some item)] }, [.wake w])
    | [] => ({ p with buffer := item :: p.buffer }, [])

/-- Abandon a read: a parked one leaves the queue, an answered one gives its item back. -/
def dropRead (p : Pipe α) (state : ReadState) : Pipe α × List Event :=
  match state with
  | .parked ticket =>
    match p.answer? ticket with
    | some (some item) => (p.collect ticket).restore item
    | some none => (p.collect ticket, [])
    | none => ({ p with parked := p.parked.filter (·.1 != ticket) }, [])
  | _ => (p, [])

/-! ## Closing -/

/-- Answer every parked read with the end of data. -/
def endParked (p : Pipe α) : Pipe α :=
  { p with parked := [], answered := p.answered ++ p.parked.map fun e => (e.1, none) }

/-- Close the writing side: parked reads meet the end of data, waiting writes are woken, callbacks
run. The Boolean tells whether this closed it. -/
def finishWrite (p : Pipe α) : Bool × Pipe α × List Event :=
  if p.writeClosed then (false, p, [])
  else
    (true, { p.endParked with writeClosed := true, blocked := [], onWriteClose := [] },
      .note s!"#<{p.name}> write closed" :: (p.parked.map fun e => .wake e.2) ++
        p.blocked.map .wake ++ p.onWriteClose.map .call)

/-- Close the reading side: what is buffered is dropped, parked reads meet the end of data, waiting
writes are woken, callbacks run. The Boolean tells whether this closed it. -/
def finishRead (p : Pipe α) : Bool × Pipe α × List Event :=
  if p.readClosed then (false, p, [])
  else
    (true, { p.endParked with readClosed := true, buffer := [], blocked := [], onReadClose := [] },
      .note s!"#<{p.name}> read closed (dropped {p.buffer.length})" ::
        (p.parked.map fun e => .wake e.2) ++ p.blocked.map .wake ++ p.onReadClose.map .call)

/-- Release one handle for writing; the last one closes the side. -/
def closeWrite (p : Pipe α) : Bool × Pipe α × List Event :=
  match p.writers with
  | 0 => (false, p, [])
  | 1 => { p with writers := 0 }.finishWrite
  | n + 2 => (false, { p with writers := n + 1 }, [])

/-- Release one handle for reading; the last one closes the side. -/
def closeRead (p : Pipe α) : Bool × Pipe α × List Event :=
  match p.readers with
  | 0 => (false, p, [])
  | 1 => { p with readers := 0 }.finishRead
  | n + 2 => (false, { p with readers := n + 1 }, [])

/-- Close both sides, however many handles are open. -/
def forceClose (p : Pipe α) : Pipe α × List Event :=
  let (_, p, written) := { p with writers := 0, readers := 0 }.finishWrite
  let (_, p, read) := p.finishRead
  (p, written ++ read)

/-- Run a callback once the writing side closes, or now if it has closed. -/
def addWriteCallback (p : Pipe α) (label : Nat) : Pipe α × List Event :=
  if p.writeClosed then (p, [.call label])
  else ({ p with onWriteClose := p.onWriteClose ++ [label] }, [])

/-- Run a callback once the reading side closes, or now if it has closed. -/
def addReadCallback (p : Pipe α) (label : Nat) : Pipe α × List Event :=
  if p.readClosed then (p, [.call label])
  else ({ p with onReadClose := p.onReadClose ++ [label] }, [])

end Pipe

end Pipework
