import Pipework.Text.Blank

/-!
# Stages of a command line

A line is a list of stages separated by bars; a stage is the name of a command and, after the
first run of blanks, a free argument text. Quotes have no meaning here: a bar inside quotes
separates too.

* `Stage.parseLine` cuts a line into its stages;
* `Stage.display` writes a stage back, with one space before its argument text.
-/

namespace Pipework

/-- One stage of a line. -/
structure Stage where
  /-- The command, as typed or by its canonical name. -/
  command : String
  /-- The text after the command, if there is any. -/
  args : Option String
  deriving Repr, DecidableEq, Inhabited

namespace Stage

/-- The text of a stage. -/
def display (stage : Stage) : String :=
  match stage.args with
  | some args => stage.command ++ " " ++ args
  | none => stage.command

/-- Read one stage from the text between two bars. -/
def ofSegment (segment : List Char) : Stage :=
  let segment := Text.trim segment
  match Text.cut? Text.isBlank segment with
  | some (head, rest) => ⟨.ofList head, some (.ofList (Text.trimLeft rest))⟩
  | none => ⟨.ofList segment, none⟩

/-- The stages of a line. A line has at least one, which may be empty. -/
def parseLine (line : String) : List Stage :=
  (Text.pieces (· == '|') (Text.trim line.toList)).map ofSegment

end Stage

end Pipework
