import Pipework.Command.Input

/-!
# Changing the shell

`alias` lists, defines and removes aliases, `debug` sets what is logged, and `settings` shows and
changes settings. The changes hold for the lines that follow, too.

The log filter stands twice, as the filter in force and as the text of a setting: `debug` writes the
setting from the filter, `settings` changes the filter before it stores the text.
-/

namespace Pipework.Command

open Behavior

/-! ## Aliases -/

/-- List the aliases, remove one, or define one for a command that resolves. -/
def «alias» : StageProgram := fun hasInput args => do
  let o : Input := { name := "alias", splitsInput := true, flattens := true }
  o.openText hasInput args
  let words := (← o.rest).map (·.display)
  let s ← shell
  let c := s.config
  match words with
  | [] => writeAll (c.aliases.map fun (name, target) => .text s!"alias {name}={target}")
  | [name] =>
    setConfig { c with aliases := c.aliases.erase name }
    if (c.aliases.find? name).isNone then perform (.report s!"alias: not found: {name}")
  | name :: command :: _ =>
    if (s.registry.lookup? name).isSome then
      .fail (.invalidArgument s!"alias: {name} is a built-in command")
    else
      match s.resolve? command with
      | none => .fail (.unknownCommand command)
      | some target =>
        note "cmd:alias" s!"{name} -> {target}"
        setConfig { c with aliases := c.aliases.insert name target }

/-! ## The log filter -/

/-- Raise the filter for a subsystem, bring it back to warnings, or tell what is enabled. The
setting then follows the filter. -/
def debug : StageProgram := fun hasInput args => do
  let o : Input := { name := "debug", required := 1 }
  o.openText hasInput args
  let action := ((← o.require).headD .null).display
  let subsystem := ((← o.next).map (·.display)).getD "*"
  let filter := (← shell).filter
  let (filter, message) ← match action with
    | "disable" =>
      pure (Filter.standard, s!"debug disabled (was '{filter.render}')")
    | "enable" =>
      pure (filter.setLevel subsystem .debug, s!"debug enabled for '{subsystem}'")
    | "enabled" =>
      let answer := if filter.enabled subsystem .debug then "enabled" else "NOT enabled"
      pure (filter, s!"debug {answer} for '{subsystem}'")
    | _ => .fail (.invalidArgument ("unknown debug args: " ++ trimmed (args.getD "")))
  setFilter filter
  setConfig { (← shell).config with filter := filter.render }
  write (.text message)

/-! ## Settings -/

mutual

/-- A setting's value as an item. -/
def settingValue : Toml → Value
  | .string s => .text s
  | .integer n => .number (Number.ofInt n)
  | .float x => .number x
  | .array items => .list (settingValues items)
  | v => .text v.inline

/-- `settingValue` of each element. -/
def settingValues : List Toml → List Value
  | [] => []
  | v :: rest => settingValue v :: settingValues rest

end

/-- A setting as an item: its key and its value. -/
def settingRow (key : String) (v : Toml) : Value := .list [.text key, settingValue v]

/-- What the arguments of `settings` ask for. -/
inductive SettingRequest where
  /-- Show what goes by a key. -/
  | see (key : String)
  /-- Change what goes by a key. -/
  | change (key raw : String)
  /-- Key and value are separated by a blank of several bytes, which ends the program. -/
  | unreadable

/-- Read a request: a key, or a key and a value after the first colon or blank. -/
def settingRequest (text : String) : SettingRequest :=
  let isSeparator (c : Char) : Bool := c == ':' || Text.isBlank c
  let cs := text.toList
  match cs.dropWhile (!isSeparator ·) with
  | [] => .see text
  | c :: rest =>
    if 0x80 ≤ c.toNat then .unreadable
    else .change (.ofList (cs.takeWhile (!isSeparator ·))) (.ofList (Text.trimLeft rest))

/-- Replace the filter by the one of a text. -/
def adoptFilter (text : String) : Behavior Unit := do setFilter (← ofExcept (Filter.parse? text))

/-- List the settings, restore the defaults, show one or change one. -/
def settings : StageProgram := fun _ args => do
  drain
  let text := trimmed (args.getD "")
  let c := (← shell).config
  if text.isEmpty then
    writeAll ((← ofExcept c.settings).map fun (key, v) => settingRow key v)
  else if text == "reset" then
    adoptFilter Config.standard.filter
    setConfig { Config.standard with aliases := c.aliases }
  else
    match settingRequest text with
    | .unreadable => .crash
    | .see key =>
      match ← ofExcept (c.get key) with
      | some v => write (settingRow key v)
      | none => .fail (.invalidArgument s!"unknown setting: {key}")
    | .change key raw =>
      if key == "debug.filter" then adoptFilter raw
      let (v, c) ← ofExcept (c.set key raw)
      setConfig c
      write (settingRow key v)

end Pipework.Command
