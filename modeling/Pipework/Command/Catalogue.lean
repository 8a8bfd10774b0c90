import Pipework.Command.Registry

/-!
# The commands of the shell

Names, usage and help of every built-in command, by category.
-/

namespace Pipework.Catalogue

/-- Basic commands. -/
def core : List CommandSpec := [
  { name := "echo", usage := "echo [TEXT]", description := "Output the argument text" },
  { name := "help", usage := "help [-l] [COMMAND]...", description := "Show help",
    help := [
      "help - show short descriptions for all commands",
      "help commands... - show all help for COMMANDS",
      "help -l - list commands"] },
  { name := "collect", usage := "collect [ITEM]...",
    description := "Collect inputs into an array" }]

/-- Commands that reshape a sequence of items. -/
def stream : List CommandSpec := [
  { name := "len", usage := "len [ITEM]...", description := "Compute length of inputs" },
  { name := "sum", usage := "sum [NUMBER]...", description := "Sum inputs" },
  { name := "wc", usage := "wc [-lwc] [TEXT]...",
    description := "Count lines, words or chars for each input",
    help := [
      "wc [-lwc] - count by lines, words or chars",
      "  Flags: l => lines(default), w => words, c => chars"] },
  { name := "join", usage := "join [SEP]", description := "Join inputs",
    help := ["join [sep=\\n] - join inputs with SEP"] },
  { name := "split", usage := "split [REGEX]", description := "Split inputs",
    help := ["split [sep=\\s*\\n+\\s*] - split inputs by SEP"] },
  { name := "chunk", usage := "chunk [n=5]",
    description := "Accumulate inputs into chunks of size [n=5]" },
  { name := "head", usage := "head [n=5]", description := "Keep the first [n=5] elements",
    aliases := ["take"] },
  { name := "tail", usage := "tail [n=5]", description := "Keep the last [n=5] elements",
    aliases := ["last"] },
  { name := "drop", usage := "drop [n=5]", description := "Drop the first [n=5] elements" },
  { name := "wait", usage := "wait [ms=2000]",
    description := "Wait for [ms=2000] before passing input on" },
  { name := "uniq", usage := "uniq [ITEM]...",
    description := "Remove duplicates, keeping the first occurrence" },
  { name := "sort", usage := "sort [ITEM]...", description := "Sort inputs" },
  { name := "reverse", usage := "reverse [ITEM]...", description := "Reverse inputs" },
  { name := "pause", usage := "pause", description := "Pause stream (passes input through)",
    forwards := true }]

/-- Commands that edit and filter texts. -/
def text : List CommandSpec := [
  { name := "trim", usage := "trim [TEXT]...", description := "Trim whitespace",
    aliases := ["chomp"] },
  { name := "gsub", usage := "gsub [-gGi] REGEX REPLACEMENT [TEXT]...",
    description := "Search and replace regexp",
    help := [
      "gsub [-gGi] regex replacement - replace REGEX match(es) with REPLACEMENT",
      "  Flags: g => global(default), G => not global, i => ignore case"] },
  { name := "grep", usage := "grep [-iv] PATTERN [TEXT]...",
    description := "Search for lines matching a pattern",
    help := [
      "grep [-iv] pattern ...rest - find matches for PATTERN in REST.",
      "  Flags: i => ignore case, v => keep non-matching lines"] }]

/-- Commands that emit items over time. -/
def interval : List CommandSpec := [
  { name := "tick", usage := "tick [ms=400]", description := "Read at intervals",
    help := ["tick [ms=400] - pass one item on every MS millisecs"] },
  { name := "yes", usage := "yes [ms] [TEXT=y]", description := "Emit text until stopped",
    help := [
      "yes [text=y] - emit TEXT as fast as it is consumed",
      "yes ms [text=y] - emit TEXT every MS millisecs",
      "  With input, upstream items are emitted instead of TEXT until it runs out"] }]

/-- Commands that look at earlier lines and at the screen. -/
def terminal : List CommandSpec := [
  { name := "history", usage := "history [INDEX]", description := "Show command history",
    aliases := ["hist"],
    help := [
      "history - print command history",
      "history index - print output from history[INDEX]"] },
  { name := "_", usage := "_ [n=1]", description := "Access the previous command's output",
    help := ["_ n - output of the Nth previous command"] },
  { name := "clear", usage := "clear [history]", description := "Clear the screen",
    help := ["clear - clear the screen", "clear history - forget every history entry"] }]

/-- Commands that change the session. -/
def settings : List CommandSpec := [
  { name := "alias", usage := "alias [NAME [COMMAND]]", description := "Show command aliases",
    help := [
      "alias - list aliases",
      "alias name command - define NAME as alias for COMMAND",
      "alias name - undefine alias NAME"] },
  { name := "debug", usage := "debug enable|enabled|disable [SUBSYSTEM]",
    description := "Control debug logging",
    help := [
      "debug enable [subsystem] - log debug output for SUBSYSTEM (default: all)",
      "debug enabled [subsystem] - check whether SUBSYSTEM logs debug output",
      "debug disable - back to warnings only"] },
  { name := "settings", usage := "settings [reset | KEY | KEY:VALUE]",
    description := "Show or change settings", aliases := ["set"],
    help := [
      "settings - list every setting as [key, value]",
      "settings key - show one setting, e.g. pipe.capacity",
      "settings key:value - change a setting",
      "settings reset - restore the defaults"] }]

/-- Commands that talk to the host. -/
def host : List CommandSpec := [
  { name := "background", usage := "background TARGET:COMMAND [KEY:VALUE]...",
    description := "Send command to background", aliases := ["bg"],
    help := [
      "bg target:command [args...] - send COMMAND to TARGET",
      "   ARGS can be key-value pairs with syntax KEY:VALUE"] }]

/-- Every built-in command. -/
def all : List CommandSpec :=
  core ++ stream ++ text ++ interval ++ terminal ++ settings ++ host

end Pipework.Catalogue

namespace Pipework

/-- The registry of the built-in commands. -/
def Registry.builtin : Registry := .ofSpecs Catalogue.all

end Pipework
