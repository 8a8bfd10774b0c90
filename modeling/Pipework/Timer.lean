import Pipework.Pipe.Basic

/-!
# Timers

A wait ends in one of two ways: its time passes, or its timer is cancelled. A timer stays cancelled,
so every later wait on it ends at once.

Time is counted in milliseconds from the start and moves only while nobody has anything to do. A
wait takes one millisecond at least.
-/

namespace Pipework

/-- What a timer is for. -/
inductive TimerKind where
  /-- One wait. -/
  | timeout
  /-- A wait after every item. -/
  | interval
  deriving Repr, DecidableEq, Inhabited

/-- The name of a kind of timer. -/
def TimerKind.name : TimerKind → String
  | .timeout => "timeout"
  | .interval => "interval"

/-- A timer that can be waited on. -/
structure Timer where
  /-- The timer has been cancelled. -/
  cancelled : Bool := false
  /-- Whom to wake on cancellation: the waker of the last wait. -/
  waker : Option Waker := none
  deriving Repr, DecidableEq, Inhabited

namespace Timer

/-- Cancel the timer. The answer tells whom to wake: whoever waits on it, the first time. -/
def cancel (t : Timer) : Timer × Option Waker :=
  if t.cancelled then (t, none) else ({ cancelled := true, waker := none }, t.waker)

/-- The time at which a wait that begins now is over. -/
def deadline (now ms : Nat) : Nat := now + max ms 1

/-- Poll a wait: `false` if the timer has been cancelled, `true` once the time is over. -/
def pollWait (t : Timer) (now deadline : Nat) (waker : Waker) : Poll Bool × Timer :=
  if t.cancelled then (.ready false, t)
  else
    let t := { t with waker := some waker }
    if deadline ≤ now then (.ready true, t) else (.pending, t)

/-- The description of a timer. -/
def describe (t : Timer) : String :=
  "TimerHandle \x7b cancelled: " ++ (if t.cancelled then "true" else "false") ++ " \x7d"

end Timer

end Pipework
