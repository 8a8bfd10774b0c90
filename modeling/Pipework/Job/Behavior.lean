import Pipework.Job.Basic

/-!
# Behaviors

A `Behavior` is what a stage does: a program that performs actions on its job one at a time. It is a
value, so it can be run up to the next action that has to wait and taken up again later.

* An action that may wait is `read`, `write`, `awaitTimer` or `pause`; all others answer at once.
* A `loop` repeats its body with a state until the body answers with a result. It is unfolded one
  round at a time, so a behavior may go on for ever.
* `fail` ends a behavior with an error, `crash` ends the whole program.

A stage has at most one reader and one writer, which its actions refer to without naming them.
-/

namespace Pipework

/-- What a stage has still to take from its argument text, and which flags it has seen there. -/
structure Arguments where
  /-- Items not taken yet. -/
  queue : List Value := []
  /-- Flags seen. -/
  flags : List Char := []
  deriving Inhabited

/-- What a stage may do, with the type of the answer. -/
inductive Action : Type → Type where
  /-- Read an item; none at the end of data, or without a reader. May wait. -/
  | read : Action (Option Value)
  /-- Write an item. May wait. -/
  | write (v : Value) : Action (Except ShellError Unit)
  /-- Release the reader. -/
  | closeInput : Action Unit
  /-- Release the writer. -/
  | closeOutput : Action Unit
  /-- The reader is closed, or there is none. -/
  | inputClosed : Action Bool
  /-- The writer is closed, or nobody reads. -/
  | outputClosed : Action Bool
  /-- The interrupt level of the job. -/
  | level : Action Nat
  /-- Interrupt the job, at once to the end if `hard`. -/
  | interrupt (hard : Bool) : Action Unit
  /-- Start a timer; its cancellation closes the stage's pipe for writing. -/
  | startTimer (kind : TimerKind) : Action Nat
  /-- Wait on a timer: whether the time has passed. May wait. -/
  | awaitTimer (timer ms : Nat) : Action Bool
  /-- Take a timer out of use. -/
  | forgetTimer (timer : Nat) : Action Unit
  /-- Wait, without a timer to cancel. May wait. -/
  | pause (ms : Nat) : Action Unit
  /-- The presses of the interrupt key since the last time. -/
  | takePresses : Action Nat
  /-- Log a message. -/
  | log (level : Verbosity) (subsystem message : String) : Action Unit
  /-- Report an error line. -/
  | report (message : String) : Action Unit
  /-- Ask the front end to clear its screen. -/
  | clearScreen : Action Unit
  /-- The shell. -/
  | shell : Action Shell
  /-- Change the shell. -/
  | setShell (s : Shell) : Action Unit
  /-- What is left of the arguments. -/
  | arguments : Action Arguments
  /-- Change what is left of the arguments. -/
  | setArguments (a : Arguments) : Action Unit

/-- What a stage does. -/
inductive Behavior : Type → Type 1 where
  /-- Nothing more: the result. -/
  | result {α : Type} (a : α) : Behavior α
  /-- The stage fails. -/
  | fail {α : Type} (e : ShellError) : Behavior α
  /-- The program ends. -/
  | crash {α : Type} : Behavior α
  /-- Perform an action and go on with its answer. -/
  | act {α β : Type} (action : Action β) (next : β → Behavior α) : Behavior α
  /-- Repeat a body until it answers on the right, and go on with that. -/
  | loop {α σ β : Type} (s : σ) (body : σ → Behavior (σ ⊕ β)) (next : β → Behavior α) : Behavior α

namespace Behavior

/-- One behavior after another. -/
protected def bind {α β : Type} : Behavior α → (α → Behavior β) → Behavior β
  | .result a, f => f a
  | .fail e, _ => .fail e
  | .crash, _ => .crash
  | .act action next, f => .act action fun answer => (next answer).bind f
  | .loop s body next, f => .loop s body fun b => (next b).bind f

instance : Monad Behavior where
  pure := .result
  bind := .bind

/-- One round of a loop, and then the rest of it. -/
def unfold {α σ β : Type} (s : σ) (body : σ → Behavior (σ ⊕ β)) (next : β → Behavior α) :
    Behavior α :=
  (body s).bind fun
    | .inl s => .loop s body next
    | .inr b => next b

/-- Perform an action. -/
def perform {β : Type} (action : Action β) : Behavior β := .act action .result

/-- Repeat a body until it answers on the right. -/
def forever {σ β : Type} (s : σ) (body : σ → Behavior (σ ⊕ β)) : Behavior β := .loop s body .result

/-- Take items until there are no more, with a state that each item changes. -/
def forEach {σ : Type} (source : Behavior (Option Value)) (s : σ)
    (body : σ → Value → Behavior σ) : Behavior σ :=
  forever s fun s => do
    match ← source with
    | some v => return .inl (← body s v)
    | none => return .inr s

/-- Take items until there are no more. -/
def forAll (source : Behavior (Option Value)) (body : Value → Behavior Unit) : Behavior Unit :=
  forEach source () fun _ v => body v

/-- A result, or failure with an error. -/
def ofExcept {α : Type} : Except ShellError α → Behavior α
  | .ok a => .result a
  | .error e => .fail e

/-! ## Actions as behaviors -/

/-- Read an item. -/
def read : Behavior (Option Value) := perform .read

/-- Read all items up to the end of data. -/
def readAll : Behavior (List Value) := do
  return (← forEach read [] fun items v => return v :: items).reverse

/-- Write an item; the stage fails if it cannot be written. -/
def write (v : Value) : Behavior Unit := do ofExcept (← perform (.write v))

/-- Write items in order; the stage fails at the first that cannot be written. -/
def writeAll : List Value → Behavior Unit
  | [] => .result ()
  | v :: rest => do
    write v
    writeAll rest

/-- Read what is left and release the reader. -/
def drain : Behavior Unit := do
  forAll read fun _ => return
  perform .closeInput

/-- Log a debugging message. -/
def note (subsystem message : String) : Behavior Unit := perform (.log .debug subsystem message)

/-- The shell. -/
def shell : Behavior Shell := perform .shell

/-- Change the configuration. -/
def setConfig (c : Config) : Behavior Unit := do
  perform (.setShell { ← shell with config := c })

/-- Change the filter of the log. -/
def setFilter (f : Filter) : Behavior Unit := do
  perform (.setShell { ← shell with filter := f })

/-- The job has not been interrupted. -/
def undisturbed : Behavior Bool := do return (← perform .level) == 0

/-- Wait: whether the time has passed, and the wait was not cancelled. -/
def sleep (ms : Nat) : Behavior Bool := do
  if Job.hardLevel ≤ (← perform .level) then return false
  let timer ← perform (.startTimer .timeout)
  let elapsed ← perform (.awaitTimer timer ms)
  perform (.forgetTimer timer)
  return elapsed

end Behavior

/-- The program of a command: what a stage does, told whether it has a reader and given its argument
text. -/
abbrev StageProgram : Type 1 := Bool → Option String → Behavior Unit

end Pipework
