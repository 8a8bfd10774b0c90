import Pipework.Proofs.Command.Registry
import Pipework.Proofs.Command.Respecting
import Pipework.Proofs.Config

/-!
# The aliases of the user

An alias of the user may not hide a name of the table of commands, and stands for a command by its
canonical name (`Registry.Admits`). The command `alias` sees to both. The other commands leave the
aliases alone or take entries out, but for one: `settings` enters whatever it is given under a key
of the section of aliases. Where what it is given is admitted (`Command.isLawful`), every command
respects the rule (`Command.wellAliased_program`).
-/

namespace Pipework

/-- The entry may be an alias of the user: its name means nothing in the table of commands, and its
target is the canonical name of a command. -/
structure Registry.Admits (r : Registry) (e : String × String) : Prop where
  free : r.lookup? e.1 = none
  canonical : ∃ spec, r.get? e.2 = some spec ∧ spec.name = e.2

/-- The shell has this table of commands, which admits all of its aliases. -/
structure Shell.WellAliased (r : Registry) (s : Shell) : Prop where
  registry : s.registry = r
  admitted : ∀ e ∈ s.config.aliases, r.Admits e

namespace Shell.WellAliased

variable {r : Registry} {s : Shell}

theorem history (h : s.WellAliased r) (history : History) :
    ({ s with history := history } : Shell).WellAliased r := ⟨h.registry, h.admitted⟩

theorem filter (h : s.WellAliased r) (filter : Filter) :
    ({ s with filter := filter } : Shell).WellAliased r := ⟨h.registry, h.admitted⟩

/-- Only the aliases of a configuration matter. -/
theorem config (h : s.WellAliased r) {c : Config} (hc : ∀ e ∈ c.aliases, r.Admits e) :
    ({ s with config := c } : Shell).WellAliased r := ⟨h.registry, hc⟩

end Shell.WellAliased

namespace Command

/-- A setting does not enter an alias that breaks the rule. A name with a dot in it is never entered. -/
def isLawfulSetting (r : Registry) (args : Option String) : Bool :=
  match settingRequest (trimmed (args.getD "")) with
  | .change key raw =>
    match cutAt? '.' key, Config.valueOf raw with
    | some ("aliases", name), .string target =>
      name.toList.contains '.' || ((r.lookup? name).isNone && (r.get? target).isSome)
    | _, _ => true
  | _ => true

/-- The command does not enter an alias that breaks the rule. -/
def isLawful (r : Registry) (name : String) (args : Option String) : Bool :=
  name != "settings" || isLawfulSetting r args

open Behavior

variable {r : Registry} {hasInput : Bool} {args : Option String}

/-- The rule allows configurations whose aliases are all admitted. -/
theorem wellAliased_allows {c : Config} (hc : ∀ e ∈ c.aliases, r.Admits e) :
    Shell.Allows (Shell.WellAliased r) c := fun _ hs => hs.config hc

theorem admits_insert {aliases : Keyed String} (h : ∀ e ∈ aliases, r.Admits e) {name target : String}
    (hnew : r.Admits (name, target)) : ∀ e ∈ aliases.insert name target, r.Admits e := by
  intro e he
  rcases Keyed.mem_insert he with rfl | hold
  · exact hnew
  · exact h e hold

/-- `alias` enters only what is admitted: the name is free, and the target has been resolved. -/
theorem wellAliased_alias (hr : r.Named) :
    («alias» hasInput args).Obeys (.respecting (Shell.WellAliased r)) := by
  refine respecting_alias (fun s name hs => wellAliased_allows fun e he => ?_) ?_
  · exact hs.admitted e (Keyed.mem_erase he)
  · intro s name command target hs hfree htarget
    obtain ⟨spec, hspec, rfl⟩ := Option.map_eq_some_iff.mp htarget
    have hget := Shell.get?_canonical (hs.registry.symm ▸ hr) hspec
    rw [hs.registry] at hget hfree
    exact wellAliased_allows (admits_insert hs.admitted ⟨hfree, spec, hget, rfl⟩)

/-- `debug` leaves the aliases alone. -/
theorem wellAliased_debug : (debug hasInput args).Obeys (.respecting (Shell.WellAliased r)) :=
  respecting_debug (fun _ filter hs => hs.filter filter)
    fun _ _ hs => wellAliased_allows hs.admitted

/-- A change that is made keeps the rule if the request does. -/
theorem admits_set (hr : r.Named) {c c' : Config} {key raw : String} {v : Toml}
    (h : isLawfulSetting r args) (hrequest : settingRequest (trimmed (args.getD "")) = .change key raw)
    (hset : c.set key raw = .ok (v, c')) (hc : ∀ e ∈ c.aliases, r.Admits e) :
    ∀ e ∈ c'.aliases, r.Admits e := by
  rcases Config.set_aliases hset with hsame | ⟨name, target, hcut, hdot, hvalue, hentered⟩
  · rwa [hsame]
  · have hlawful : r.lookup? name = none ∧ ∃ spec, r.get? target = some spec := by
      simpa [isLawfulSetting, hrequest, hcut, hvalue, hdot, Option.isSome_iff_exists] using h
    obtain ⟨hfree, spec, hspec⟩ := hlawful
    rw [hentered]
    exact admits_insert hc ⟨hfree, spec, hspec, hr _ (Keyed.mem_of_find? hspec)⟩

/-- `settings` keeps the rule unless it is asked to break it. -/
theorem wellAliased_settings (hr : r.Named) (h : isLawfulSetting r args) :
    (settings hasInput args).Obeys (.respecting (Shell.WellAliased r)) := by
  refine respecting_settings (fun _ filter hs => hs.filter filter)
    (fun _ hs => wellAliased_allows hs.admitted) ?_
  intro s key raw v c hs hrequest hset
  exact wellAliased_allows (admits_set hr h hrequest hset hs.admitted)

/-- Every command keeps the rule unless it is asked to break it. -/
theorem wellAliased_program (hr : r.Named) {name : String} {program : StageProgram}
    (h : program? name = some program) (hlawful : isLawful r name args) :
    (program hasInput args).Obeys (.respecting (Shell.WellAliased r)) := by
  by_cases hname : name ∈ ["alias", "debug", "settings"]
  · obtain rfl | rfl | rfl : name = "alias" ∨ name = "debug" ∨ name = "settings" := by
      simpa using hname
    · cases h
      exact wellAliased_alias hr
    · cases h
      exact wellAliased_debug
    · cases h
      exact wellAliased_settings hr (by simpa [isLawful] using hlawful)
  · exact respecting_program h hname (fun _ hs => hs.history _) _ _

end Command

end Pipework
