import Pipework.Command.Catalogue
import Pipework.Command.Configuring
import Pipework.Command.Editing
import Pipework.Command.Informing
import Pipework.Command.Measuring
import Pipework.Command.Recalling
import Pipework.Command.Reshaping
import Pipework.Command.Selecting
import Pipework.Command.Timing

/-!
# The programs of the commands

`Command.program?` gives the program of a command by its canonical name. A command without one
passes its input on.
-/

namespace Pipework.Command

/-- The program of a command. -/
def program? (name : String) : Option StageProgram :=
  match name with
  | "echo" => some echo
  | "help" => some help
  | "collect" => some collect
  | "len" => some len
  | "sum" => some sum
  | "wc" => some wc
  | "join" => some join
  | "split" => some split
  | "chunk" => some chunk
  | "head" => some head
  | "tail" => some tail
  | "drop" => some drop
  | "wait" => some wait
  | "uniq" => some uniq
  | "sort" => some sort
  | "reverse" => some reverse
  | "trim" => some trim
  | "gsub" => some gsub
  | "grep" => some grep
  | "tick" => some tick
  | "yes" => some yes
  | "history" => some history
  | "_" => some previous
  | "clear" => some clear
  | "alias" => some «alias»
  | "debug" => some debug
  | "settings" => some settings
  | "background" => some background
  | _ => none

end Pipework.Command
