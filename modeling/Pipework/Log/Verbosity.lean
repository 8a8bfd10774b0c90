import Pipework.Number.Reading

/-!
# Verbosity

How much a subsystem reports, from nothing at all to everything. A message of some level is reported
when its level is at most the verbosity set.

A level is spelled as its name in any case or as a number from 0 to 5; the empty text means `error`.
-/

namespace Pipework

/-- Levels, from silent to most verbose. -/
inductive Verbosity where
  /-- Nothing. -/
  | off
  /-- Errors only. -/
  | error
  /-- Also warnings. -/
  | warn
  /-- Also information. -/
  | info
  /-- Also debugging output. -/
  | debug
  /-- Everything. -/
  | trace
  deriving Repr, DecidableEq, Inhabited

namespace Verbosity

/-- All levels, in order. -/
def all : List Verbosity := [.off, .error, .warn, .info, .debug, .trace]

/-- The place of a level in the order. -/
def rank : Verbosity → Nat
  | .off => 0
  | .error => 1
  | .warn => 2
  | .info => 3
  | .debug => 4
  | .trace => 5

/-- The name of a level. -/
def name : Verbosity → String
  | .off => "off"
  | .error => "error"
  | .warn => "warn"
  | .info => "info"
  | .debug => "debug"
  | .trace => "trace"

/-- A message of level `message` is reported at this verbosity. -/
def reports (verbosity message : Verbosity) : Bool := message.rank ≤ verbosity.rank

/-- The level a text spells. -/
def ofText? (s : String) : Option Verbosity :=
  match Number.natural? Number.maxWord s.toList with
  | some n => if n ≤ 5 then all[n]? else none
  | none =>
    if s.isEmpty then some .error
    else all.find? fun level => level.name.toList == s.toList.map Number.lowered

end Verbosity

end Pipework
