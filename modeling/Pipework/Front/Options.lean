import Pipework.Config

/-!
# Arguments of the program

The program takes three options, each at most once: a file with the configuration, a file for the
history, and a line to run instead of the lines of its input. It takes nothing else.

* A long option has its value after an equals sign or in the next argument; the short one may have
  it in the same argument.
* A value in an argument of its own does not begin with a hyphen, unless it is just that.
* The names of files are not empty.
* `--` ends the options.
-/

namespace Pipework

/-- What the program is asked to do. -/
structure Options where
  /-- The file with the configuration. -/
  config : Option String := none
  /-- The file of the history; it goes before the one that the configuration names. -/
  history : Option String := none
  /-- The line to run. -/
  command : Option String := none
  deriving Repr, DecidableEq

/-- The options that take a value. -/
inductive OptionKey where
  /-- The file with the configuration. -/
  | config
  /-- The file of the history. -/
  | history
  /-- The line to run. -/
  | command
  deriving Repr, DecidableEq

namespace OptionKey

/-- The option of a long name. -/
def ofLong? : String → Option OptionKey
  | "config" => some .config
  | "history" => some .history
  | "command" => some .command
  | _ => none

/-- An option as messages show it. -/
def display : OptionKey → String
  | .config => "--config <FILE>"
  | .history => "--history <FILE>"
  | .command => "--command <LINE>"

/-- The value that options give to a key. -/
def get (o : Options) : OptionKey → Option String
  | .config => o.config
  | .history => o.history
  | .command => o.command

/-- Options with a value under a key. -/
def set (value : String) (o : Options) : OptionKey → Options
  | .config => { o with config := some value }
  | .history => { o with history := some value }
  | .command => { o with command := some value }

end OptionKey

/-- Why arguments cannot be followed. -/
inductive Misuse where
  /-- An argument that is no option. -/
  | unexpected (argument : String)
  /-- An option that is given twice. -/
  | repeated (key : OptionKey)
  /-- An option without its value. -/
  | missing (key : OptionKey)
  /-- An option that takes no value has one. -/
  | excess (value argument : String)
  deriving Repr, DecidableEq

/-- The message of a misuse. -/
def Misuse.message : Misuse → String
  | .unexpected argument => s!"unexpected argument '{argument}' found"
  | .repeated key => s!"the argument '{key.display}' cannot be used multiple times"
  | .missing key => s!"a value is required for '{key.display}' but none was supplied"
  | .excess value argument =>
    s!"unexpected value '{value}' for '{argument}' found; no more were expected"

/-- What arguments ask for. -/
inductive Invocation where
  /-- Run with these options. -/
  | run (o : Options)
  /-- Describe the options. -/
  | help
  /-- Nothing that can be done. -/
  | misuse (why : Misuse)
  deriving Repr, DecidableEq

/-- An argument by its form. -/
inductive Argument where
  /-- A long option, with the value after its equals sign. -/
  | long (name : String) (value : Option String)
  /-- A short option, with the rest of the argument. -/
  | short (name : Char) (value : Option String)
  /-- The end of the options. -/
  | endMark
  /-- Anything else. -/
  | plain
  deriving Repr, DecidableEq

namespace Argument

/-- The value that follows the name of a short option, with or without an equals sign. -/
def shortValue? : List Char → Option String
  | [] => none
  | '=' :: rest => some (.ofList rest)
  | rest => some (.ofList rest)

/-- The form of an argument. -/
def ofText (s : String) : Argument :=
  match s.toList with
  | ['-', '-'] => .endMark
  | '-' :: '-' :: cs =>
    match Text.cut? (· == '=') cs with
    | some (name, value) => .long (.ofList name) (some (.ofList value))
    | none => .long (.ofList cs) none
  | '-' :: c :: cs => .short c (shortValue? cs)
  | _ => .plain

end Argument

namespace Invocation

/-- Give an option its value. -/
def assign (key : OptionKey) (value : String) (o : Options) : Except Misuse Options :=
  if (key.get o).isSome then .error (.repeated key)
  else if value.isEmpty && key ≠ .command then .error (.missing key)
  else .ok (key.set value o)

/-- What an argument of a form asks for. -/
inductive Request where
  /-- Give an option a value; the value is the next argument if there is none here. -/
  | option (key : OptionKey) (value : Option String)
  /-- Describe the options. -/
  | help
  /-- End the options. -/
  | endMark
  /-- Nothing that can be done. -/
  | misuse (why : Misuse)

/-- What an argument asks for. -/
def request (argument : String) : Request :=
  match Argument.ofText argument with
  | .long "help" none => .help
  | .long "help" (some value) => .misuse (.excess value "--help")
  | .long name value =>
    match OptionKey.ofLong? name with
    | some key => .option key value
    | none => .misuse (.unexpected ("--" ++ name))
  | .short 'h' _ => .help
  | .short 'c' value => .option .command value
  | .short c _ => .misuse (.unexpected (.ofList ['-', c]))
  | .endMark => .endMark
  | .plain => .misuse (.unexpected argument)

/-- Follow arguments, after options have been given. -/
def follow (o : Options) : List String → Invocation
  | [] => .run o
  | argument :: rest =>
    match request argument with
    | .help => .help
    | .misuse why => .misuse why
    | .endMark =>
      match rest with
      | [] => .run o
      | extra :: _ => .misuse (.unexpected extra)
    | .option key (some value) =>
      match assign key value o with
      | .ok o => follow o rest
      | .error why => .misuse why
    | .option key none =>
      match rest with
      | [] => .misuse (.missing key)
      | value :: rest =>
        if Argument.ofText value = .plain then
          match assign key value o with
          | .ok o => follow o rest
          | .error why => .misuse why
        else .misuse (.missing key)

/-- What the arguments of the program ask for. -/
def ofArguments (arguments : List String) : Invocation := follow {} arguments

end Invocation

namespace Options

/-- How the program is used. -/
def usage : String := "Usage: bshell [OPTIONS]"

/-- The description of the options. -/
def help : String :=
  joined "\n"
    ["Run stream-of-values command pipelines", "", usage, "", "Options:",
      "      --config <FILE>   TOML config file",
      "      --history <FILE>  Persist history to this JSON file (overrides the config)",
      "  -c, --command <LINE>  Run a single line and exit",
      "  -h, --help            Print help", ""]

/-- The configuration that options ask for. `text` is what the file with the configuration holds, if
it could be read. -/
def config? (o : Options) (text : Option String) : Except ShellError Config := do
  let c ← match o.config with
    | none => .ok .standard
    | some path =>
      match text with
      | none => .error (.config (path ++ ": the file cannot be read"))
      | some text =>
        match Config.ofToml? text with
        | some c => .ok c
        | none => .error (.config (path ++ ": the file does not hold a configuration"))
  return if o.history.isSome then { c with path := o.history } else c

end Options

end Pipework
