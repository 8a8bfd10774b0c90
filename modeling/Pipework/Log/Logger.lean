import Pipework.Log.Filter

/-!
# Loggers

A logger is a handle on a filter. What asks for a message to be logged is given a logger of its own,
most often a clone of another one, and a clone looks at the same filter: a level that is set through
one of them is set for all.

`Loggers` is a number of loggers with the filters they look at. `Loggers.step` makes another logger
or changes the filter of one, and `Loggers.run` carries out a list of such operations. Where a shell
hands out clones of one logger only, it is enough to keep the filter (`Shell`).
-/

namespace Pipework

/-- Loggers and the filters that they look at. -/
structure Loggers where
  /-- The filters. -/
  filters : List Filter := []
  /-- For each logger the place of its filter. -/
  handles : List Nat := []
  deriving Repr, DecidableEq

/-- Operations on loggers, which go by their number. -/
inductive LoggerOp where
  /-- Make a logger from a filter text. -/
  | read (text : String)
  /-- Make a logger from rules. -/
  | ofRules (rules : List Rule)
  /-- Make another logger with the filter of one. -/
  | clone (logger : Nat)
  /-- Replace the filter by that of a text, if the text can be read. -/
  | setFilter (logger : Nat) (text : String)
  /-- Set the verbosity of one subsystem, or by `*` of the default. -/
  | setLevel (logger : Nat) (subsystem : String) (level : Verbosity)
  deriving Repr, DecidableEq

namespace Loggers

/-- The filter that a logger looks at. -/
def filter? (ls : Loggers) (logger : Nat) : Option Filter :=
  ls.handles[logger]?.bind fun place => ls.filters[place]?

/-- A message of the level from the subsystem is let through by the logger. -/
def enabled (ls : Loggers) (logger : Nat) (subsystem : String) (level : Verbosity) : Bool :=
  (ls.filter? logger).any fun filter => filter.enabled subsystem level

/-- A new logger with a filter of its own. -/
def make (ls : Loggers) (filter : Filter) : Loggers :=
  { filters := ls.filters ++ [filter], handles := ls.handles ++ [ls.filters.length] }

/-- Change the filter that a logger looks at. -/
def change (ls : Loggers) (logger : Nat) (f : Filter → Filter) : Loggers :=
  match ls.handles[logger]? with
  | some place => { ls with filters := ls.filters.modify place f }
  | none => ls

/-- Carry out one operation. One on a logger that does not exist does nothing. -/
def step (ls : Loggers) : LoggerOp → Loggers
  | .read text => ls.make (Filter.start text).1
  | .ofRules rules => ls.make (.ofRules rules)
  | .clone logger => { ls with handles := ls.handles ++ ls.handles[logger]?.toList }
  | .setFilter logger text => ls.change logger fun filter => (Filter.parse? text).toOption.getD filter
  | .setLevel logger subsystem level => ls.change logger fun filter => filter.setLevel subsystem level

/-- Carry out operations, one after another. -/
def run (ls : Loggers) (ops : List LoggerOp) : Loggers := ops.foldl step ls

end Loggers

end Pipework
