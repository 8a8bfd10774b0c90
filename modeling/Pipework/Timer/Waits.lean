import Pipework.Timer

/-!
# Waits on one timer

A `Waits` is a timer together with the waits begun on it. A wait counts from the moment it began,
and is gone once it has ended.
-/

namespace Pipework

/-- A timer and the waits begun on it. -/
structure Waits where
  /-- The timer. -/
  timer : Timer := {}
  /-- When the time of each wait is over, by the number of the wait; none for those that ended. -/
  deadlines : List (Option Nat) := []
  /-- Milliseconds since the start. -/
  now : Nat := 0
  deriving Repr, DecidableEq

namespace Waits

/-- Begin a wait; the answer is its number. -/
def begin (ms : Nat) (w : Waits) : Nat × Waits :=
  (w.deadlines.length, { w with deadlines := w.deadlines ++ [some (Timer.deadline w.now ms)] })

/-- Poll a wait, which ends with the answer if there is one. No answer at all is given on a wait
that has ended. -/
def poll (i : Nat) (w : Waits) : Option (Poll Bool) × Waits :=
  match (w.deadlines[i]?).join with
  | none => (none, w)
  | some deadline =>
    match w.timer.pollWait w.now deadline .nobody with
    | (.pending, t) => (some .pending, { w with timer := t })
    | (.ready b, t) =>
      (some (.ready b), { w with timer := t, deadlines := w.deadlines.set i none })

/-- Let time pass until a wait ends, and end it. -/
def finish (i : Nat) (w : Waits) : Option (Poll Bool) × Waits :=
  match w.poll i with
  | (some .pending, w) =>
    { w with now := ((w.deadlines[i]?).join).getD w.now }.poll i
  | other => other

/-- Cancel the timer. -/
def cancel (w : Waits) : Waits := { w with timer := w.timer.cancel.1 }

end Waits

end Pipework
