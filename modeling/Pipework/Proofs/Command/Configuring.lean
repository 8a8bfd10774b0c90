import Pipework.Command.Programs
import Pipework.Proofs.Command.Following
import Pipework.Proofs.Config.Frame
import Pipework.Proofs.Job.SoloLine

/-!
# Changing a setting by a command

The argument text of `settings` has a separator, a colon or a blank, or it has none. The first separator
stands between a key and a value; what the command does with them is told by `Shell.change`
(`Command.plays_change`). A separator of several bytes ends the program (`Command.plays_unreadable`),
and a text without separators does not (`Command.concludes_undivided`).
-/

namespace Pipework

/-! ## The shell -/

/-- The filter in force, if the setting of it is about to be changed. -/
def Shell.adopt (s : Shell) (key raw : String) : Except ShellError Shell :=
  if key = "debug.filter" then (Filter.parse? raw).map fun f => { s with filter := f } else .ok s

/-- A change of a setting: the value stored or an error, and the shell that holds afterwards. The log
takes a new filter before the configuration is changed. -/
def Shell.change (s : Shell) (key raw : String) : Except ShellError Toml × Shell :=
  match s.adopt key raw with
  | .error e => (.error e, s)
  | .ok s => ((s.config.change key raw).1, { s with config := (s.config.change key raw).2 })

/-- A key other than that of the filter. -/
theorem Shell.change_of_ne {s : Shell} {key raw : String} (h : key ≠ "debug.filter") :
    s.change key raw =
      ((s.config.change key raw).1, { s with config := (s.config.change key raw).2 }) := by
  rw [Shell.change, Shell.adopt, if_neg h]

namespace Command

open Behavior

/-! ## Requests -/

/-- What may stand between a key and a value. -/
def isSeparator (c : Char) : Bool := c == ':' || Text.isBlank c

theorem settingRequest_eq (text : String) :
    settingRequest text = match text.toList.dropWhile (!isSeparator ·) with
      | [] => .see text
      | c :: rest => if 0x80 ≤ c.toNat then .unreadable else .change
          (.ofList (text.toList.takeWhile (!isSeparator ·))) (.ofList (Text.trimLeft rest)) := rfl

section Request

variable {text : String} {key rest : List Char} {c : Char}

/-- The first separator ends the key. -/
theorem settingRequest_of_separator (htext : text.toList = key ++ c :: rest)
    (hkey : ∀ x ∈ key, isSeparator x = false) (hc : isSeparator c) :
    settingRequest text = if 0x80 ≤ c.toNat then .unreadable
      else .change (.ofList key) (.ofList (Text.trimLeft rest)) := by
  have hbefore : ∀ x ∈ key, (!isSeparator x) = true := fun x hx => by rw [hkey x hx]; rfl
  have htake : text.toList.takeWhile (!isSeparator ·) = key := by
    rw [htext, List.takeWhile_append_of_pos hbefore, List.takeWhile_cons, hc]
    exact List.append_nil key
  have hdrop : text.toList.dropWhile (!isSeparator ·) = c :: rest := by
    rw [htext, List.dropWhile_append_of_pos hbefore, List.dropWhile_cons, hc]
    rfl
  rw [settingRequest_eq, hdrop, htake]

theorem settingRequest_undivided (h : ∀ x ∈ text.toList, isSeparator x = false) :
    settingRequest text = .see text := by
  have hdrop : text.toList.dropWhile (!isSeparator ·) = [] :=
    List.dropWhile_eq_nil_iff.mpr fun x hx => by rw [h x hx]; rfl
  rw [settingRequest_eq, hdrop]

/-- A text with a separator is neither empty nor the word for the defaults. -/
theorem words_of_separator (hmem : c ∈ text.toList) (hc : isSeparator c) :
    text.isEmpty = false ∧ (text == "reset") = false := by
  constructor
  · rw [← Bool.not_eq_true, String.isEmpty_iff]
    rintro rfl
    exact absurd hmem List.not_mem_nil
  · refine beq_false_of_ne ?_
    rintro rfl
    have hword : "reset".toList.all (!isSeparator ·) := by decide +kernel
    have hno := List.all_eq_true.mp hword c hmem
    rw [hc] at hno
    cases hno

end Request

/-! ## The program -/

/-- What is written of a change. -/
def changeItems (key : String) : Except ShellError Toml → List Value
  | .ok v => [settingRow key v]
  | .error _ => []

section Program

variable (r : Room)

/-- A change of the configuration: the value stored is written. -/
theorem plays_set (key raw : String) :
    (do
      let (v, c) ← ofExcept (r.shell.config.set key raw)
      setConfig c
      write (settingRow key v) : Behavior Unit).Plays r
      (changeItems key (r.shell.config.change key raw).1)
      (.ofExcept ((r.shell.config.change key raw).1.map fun _ => ()),
        { r with shell := { r.shell with config := (r.shell.config.change key raw).2 } }) := by
  unfold Config.change
  cases hset : r.shell.config.set key raw with
  | error e => exact plays_fail r e
  | ok answer => exact (plays_setConfig r answer.2).then (plays_write _ _)

/-- A key and a value: the change is made as `Shell.change` says. -/
theorem plays_change (key raw : String) :
    (do
      if key == "debug.filter" then adoptFilter raw
      let (v, c) ← ofExcept (r.shell.config.set key raw)
      setConfig c
      write (settingRow key v) : Behavior Unit).Plays r
      (changeItems key (r.shell.change key raw).1)
      (.ofExcept ((r.shell.change key raw).1.map fun _ => ()),
        { r with shell := (r.shell.change key raw).2 }) := by
  by_cases hkey : key = "debug.filter"
  · rw [if_pos (by simpa using hkey), Shell.change, Shell.adopt, if_pos hkey]
    cases hparse : Filter.parse? raw with
    | error e =>
      rw [adoptFilter_error hparse]
      exact plays_fail r e
    | ok f =>
      rw [adoptFilter_ok hparse]
      -- the configuration that is changed was read before the filter, which is no part of it
      exact (plays_setFilter r f).then (plays_set { r with shell := { r.shell with filter := f } } key raw)
  · rw [if_neg (by simpa using hkey), Shell.change_of_ne hkey]
    exact plays_set r key raw

variable (hasInput : Bool) {args : Option String} {key rest : List Char} {c : Char}
  (htext : (trimmed (args.getD "")).toList = key ++ c :: rest)
  (hkey : ∀ x ∈ key, isSeparator x = false) (hc : isSeparator c)

include htext hkey hc

/-- A separator of one byte divides the text into a key and a value. -/
theorem plays_divided (hbyte : c.toNat < 0x80) :
    (settings hasInput args).Plays r
      (changeItems (.ofList key) (r.shell.change (.ofList key) (.ofList (Text.trimLeft rest))).1)
      (.ofExcept ((r.shell.change (.ofList key) (.ofList (Text.trimLeft rest))).1.map fun _ => ()),
        { r with
          input := none
          shell := (r.shell.change (.ofList key) (.ofList (Text.trimLeft rest))).2 }) := by
  obtain ⟨hempty, hreset⟩ := words_of_separator (htext ▸ List.mem_append_right _ List.mem_cons_self) hc
  refine (plays_drain r).then ((plays_shell _).then ?_)
  rw [hempty, if_neg Bool.false_ne_true, hreset, if_neg Bool.false_ne_true,
    settingRequest_of_separator htext hkey hc, if_neg (by omega)]
  exact plays_change { r with input := none } _ _

/-- A separator of several bytes ends the program. -/
theorem plays_unreadable (hbyte : 0x80 ≤ c.toNat) :
    (settings hasInput args).Plays r [] (.crashed, { r with input := none }) := by
  obtain ⟨hempty, hreset⟩ := words_of_separator (htext ▸ List.mem_append_right _ List.mem_cons_self) hc
  refine (plays_drain r).then ((plays_shell _).then ?_)
  rw [hempty, if_neg Bool.false_ne_true, hreset, if_neg Bool.false_ne_true,
    settingRequest_of_separator htext hkey hc, if_pos hbyte]
  exact plays_crash _

omit htext hkey hc

/-- A text without separators does not: it asks for all settings, for the defaults or for one setting. -/
theorem concludes_undivided (h : ∀ x ∈ (trimmed (args.getD "")).toList, isSeparator x = false) :
    (settings hasInput args).Concludes r := by
  refine Concludes.after (Concludes.after ?_ (plays_shell _)) (plays_drain r)
  rw [settingRequest_undivided h]
  set text := trimmed (args.getD "")
  by_cases hempty : text.isEmpty
  · rw [if_pos hempty]
    cases r.shell.config.settings with
    | error e => exact concludes_fail _ e
    | ok rows => exact (plays_writeAll _ _).concludes
  · rw [if_neg hempty]
    by_cases hreset : text == "reset"
    · have hparse : Filter.parse? Config.standard.filter = .ok .standard := by decide
      rw [if_pos hreset, adoptFilter_ok hparse]
      exact ((plays_setFilter _ _).then (plays_setConfig _ _)).concludes
    · rw [if_neg hreset]
      dsimp only
      cases r.shell.config.get text with
      | error e => exact concludes_fail _ e
      | ok found =>
        cases found with
        | none => exact concludes_fail _ _
        | some v => exact (plays_write _ _).concludes

end Program

/-! ## Lines -/

section Line

variable {line : String} {m : Machine} {stage : Stage} {spec : CommandSpec}
  (hnamed : m.job.shell.registry.Named) (hprograms : m.programs = Command.program?)
  (horderly : m.Orderly) (hlevel : m.job.level = 0) (hhalt : m.halt = none)
  (hline : Stage.parseLine line = [stage]) (hspec : m.job.shell.command? stage.command = some spec)
  (hname : spec.name = "settings")

include hnamed hprograms horderly hlevel hhalt hline hspec hname

theorem crashes_settings {key rest : List Char} {c : Char}
    (htext : (trimmed (stage.args.getD "")).toList = key ++ c :: rest)
    (hkey : ∀ x ∈ key, isSeparator x = false) (hc : isSeparator c) (hbyte : 0x80 ≤ c.toNat) :
    m.Crashes line := by
  have hprogram : Command.program? spec.name = some settings := by rw [hname]; rfl
  exact Machine.runLine_crashed hnamed hprograms horderly hlevel hhalt hline hspec hprogram
    (plays_unreadable ⟨{}, m.job.shell⟩ false htext hkey hc hbyte)

/-- **A key and a value.** The first colon or blank of the argument text divides it into a key and a
value, from which the blanks in front are dropped, if it is a character of one byte: the setting is
changed as `Shell.change` says, the value stored is written, and the shell is left as changed, whatever
the input and the place of the stage; so it is for a line that consists of the stage. If it is a
character of several bytes, the program ends. A text without colons and blanks ends nothing but the
stage. -/
theorem settings_divides :
    (∀ key c rest, (trimmed (stage.args.getD "")).toList = key ++ c :: rest →
      (∀ x ∈ key, isSeparator x = false) → isSeparator c →
      let raw := String.ofList (Text.trimLeft rest)
      (c.toNat < 0x80 →
        (∀ hasInput r, (settings hasInput stage.args).Plays r
          (changeItems (.ofList key) (r.shell.change (.ofList key) raw).1)
          (.ofExcept ((r.shell.change (.ofList key) raw).1.map fun _ => ()),
            { r with input := none, shell := (r.shell.change (.ofList key) raw).2 })) ∧
        m.Completes line (changeItems (.ofList key) (m.job.shell.change (.ofList key) raw).1)
          (m.job.errors ++
            Machine.reported ((m.job.shell.change (.ofList key) raw).1.map fun _ => ()))
          (m.job.shell.change (.ofList key) raw).2) ∧
      (0x80 ≤ c.toNat →
        (∀ hasInput r, (settings hasInput stage.args).Plays r [] (.crashed, { r with input := none })) ∧
        m.Crashes line)) ∧
    ((∀ x ∈ (trimmed (stage.args.getD "")).toList, isSeparator x = false) →
      (∀ hasInput r, (settings hasInput stage.args).Concludes r) ∧
      ∃ out errors shell, m.Completes line out errors shell) := by
  have hprogram : Command.program? spec.name = some settings := by rw [hname]; rfl
  refine ⟨fun key c rest htext hkey hc => ⟨fun hbyte => ?_, fun hbyte => ?_⟩, fun hundivided => ?_⟩
  · have hplays := fun hasInput r => plays_divided r hasInput htext hkey hc hbyte
    exact ⟨hplays, Machine.runLine_solo hnamed hprograms horderly hlevel hhalt hline hspec hprogram
      (hplays false ⟨{}, m.job.shell⟩)⟩
  · exact ⟨fun hasInput r => plays_unreadable r hasInput htext hkey hc hbyte,
      crashes_settings hnamed hprograms horderly hlevel hhalt hline hspec hname htext hkey hc hbyte⟩
  · have hends := fun hasInput r => concludes_undivided r hasInput hundivided
    obtain ⟨out, result, left, hplays⟩ := hends false ⟨{}, m.job.shell⟩
    exact ⟨hends, out, _, left.shell, Machine.runLine_solo hnamed hprograms horderly hlevel hhalt hline
      hspec hprogram hplays⟩

end Line

/-- A machine on which nothing has been changed yet. -/
def unchanged : Machine := { job := { shell := {} }, programs := Command.program? }

theorem orderly_unchanged : unchanged.Orderly := fun _ he => absurd he List.not_mem_nil

theorem command?_unchanged :
    ∃ spec, unchanged.job.shell.command? "settings" = some spec ∧ spec.name = "settings" :=
  Shell.command?_builtin rfl (by decide +kernel)

theorem change_unchanged : unchanged.job.shell.change "pipe.capacity" "5" =
    (.ok (.integer 5), { config := { Config.standard with capacity := 5 } }) := by
  have hchange : Config.standard.change "pipe.capacity" "5" =
      (.ok (.integer 5), { Config.standard with capacity := 5 }) := rfl
  rw [Shell.change_of_ne (by decide), show unchanged.job.shell.config = Config.standard from rfl, hchange]
  rfl

theorem undivided_capacity : ∀ x ∈ "pipe.capacity".toList, isSeparator x = false := by simp; decide

/-- A colon with a blank after it, a blank of three bytes, and neither. -/
theorem settings_divides_capacity :
    unchanged.Completes "settings pipe.capacity: 5" [settingRow "pipe.capacity" (.integer 5)] []
        { config := { Config.standard with capacity := 5 } } ∧
      unchanged.Crashes "settings pipe.capacity\u30005" ∧
      ∃ out errors shell, unchanged.Completes "settings pipe.capacity" out errors shell := by
  obtain ⟨spec, hspec, hname⟩ := command?_unchanged
  refine ⟨?_, ?_, ?_⟩
  · have hcompletes := (((@settings_divides "settings pipe.capacity: 5" unchanged
      ⟨"settings", some "pipe.capacity: 5"⟩ spec Registry.named_builtin rfl orderly_unchanged rfl rfl
      (by decide +kernel) hspec hname).1 "pipe.capacity".toList ':' [' ', '5'] (by decide +kernel)
      undivided_capacity (by decide)).1 (by decide)).2
    have hraw : String.ofList (Text.trimLeft [' ', '5']) = "5" := rfl
    rw [String.ofList_toList, hraw, change_unchanged] at hcompletes
    exact hcompletes
  · exact (((@settings_divides "settings pipe.capacity\u30005" unchanged
      ⟨"settings", some "pipe.capacity\u30005"⟩ spec Registry.named_builtin rfl orderly_unchanged rfl rfl
      (by decide +kernel) hspec hname).1 "pipe.capacity".toList '\u3000' ['5'] (by decide +kernel)
      undivided_capacity (by decide)).2 (by decide)).2
  · have htrimmed : trimmed ((some "pipe.capacity").getD "") = "pipe.capacity" := by decide +kernel
    exact ((@settings_divides "settings pipe.capacity" unchanged ⟨"settings", some "pipe.capacity"⟩ spec
      Registry.named_builtin rfl orderly_unchanged rfl rfl (by decide +kernel) hspec hname).2
      (htrimmed ▸ undivided_capacity)).2

/-- A blank of three bytes stands between a key and a value that would do, and ends the program. -/
theorem settings_divides_unreadable :
    isSeparator '\u3000' ∧
      unchanged.job.shell.change "pipe.capacity" "5" =
        (.ok (.integer 5), { config := { Config.standard with capacity := 5 } }) ∧
      unchanged.Crashes "settings pipe.capacity\u30005" ∧
      ∀ out errors shell, ¬ unchanged.Completes "settings pipe.capacity\u30005" out errors shell := by
  obtain ⟨spec, hspec, hname⟩ := command?_unchanged
  have hcrashes : unchanged.Crashes "settings pipe.capacity\u30005" :=
    @crashes_settings "settings pipe.capacity\u30005" unchanged
      ⟨"settings", some "pipe.capacity\u30005"⟩ spec Registry.named_builtin rfl orderly_unchanged rfl rfl
      (by decide +kernel) hspec hname "pipe.capacity".toList ['5'] '\u3000' (by decide +kernel)
      undivided_capacity (by decide) (by decide)
  exact ⟨by decide, change_unchanged, hcrashes,
    fun out errors shell hcompletes => hcompletes.not_crashes hcrashes⟩

end Command

end Pipework
