import Pipework.Config
import Pipework.Proofs.Text.Keyed

/-!
# Sections of a configuration

A section holds what its settings have as values, each under its name (`Config.find?_fields`), and the
section of aliases what each name stands for. Names are distinct within a section, and no setting has
a table as its value.
-/

namespace Pipework

namespace Setting

variable {c : Config} {setting setting' : Setting} {title : String} {v : Toml}

theorem mem_all (setting : Setting) : setting ∈ all := by cases setting <;> decide

theorem mem_ofSection : setting ∈ ofSection title ↔ setting.sectionName = title := by
  simp [ofSection, mem_all]

/-- A setting is known by its section and its name. -/
theorem eq_of_names (hsection : setting.sectionName = setting'.sectionName)
    (hname : setting.name = setting'.name) : setting = setting' := by
  revert setting setting'
  intro a b
  cases a <;> cases b <;> simp [sectionName, name]

theorem sectionName_mem (setting : Setting) : setting.sectionName ∈ Config.sectionNames := by
  cases setting <;> decide

/-- A setting is found by its section and its name. -/
theorem find?_ofSection {name : String} :
    (ofSection title).find? (·.name == name) = some setting ↔
      setting.sectionName = title ∧ setting.name = name := by
  constructor
  · intro h
    exact ⟨mem_ofSection.mp (List.mem_of_find?_eq_some h), by simpa using List.find?_some h⟩
  · rintro ⟨htitle, hname⟩
    obtain ⟨found, hfound⟩ : ∃ found, (ofSection title).find? (·.name == name) = some found :=
      Option.isSome_iff_exists.mp
        (List.find?_isSome.mpr ⟨setting, mem_ofSection.mpr htitle, by simpa using hname⟩)
    have hsection := mem_ofSection.mp (List.mem_of_find?_eq_some hfound)
    have hsame : found.name = name := by simpa using List.find?_some hfound
    rw [hfound, eq_of_names (hsection.trans htitle.symm) (hsame.trans hname.symm)]

end Setting

namespace Config

variable {c : Config} {title name : String} {setting : Setting} {v : Toml}

theorem mem_fields : (name, v) ∈ c.fields title ↔
    ∃ setting : Setting, setting.sectionName = title ∧ setting.name = name ∧ setting.value? c = some v := by
  simp only [fields, List.mem_filterMap, Setting.mem_ofSection, Option.map_eq_some_iff, Prod.mk.injEq]
  constructor
  · rintro ⟨setting, htitle, v, hv, hname, rfl⟩
    exact ⟨setting, htitle, hname, hv⟩
  · rintro ⟨setting, htitle, hname, hv⟩
    exact ⟨setting, htitle, v, hv, hname, rfl⟩

theorem nodup_fields (c : Config) (title : String) : ((c.fields title).map (·.1)).Nodup := by
  have hall : Setting.all.Pairwise fun a b => a.sectionName = b.sectionName → a.name ≠ b.name := by
    decide
  have hsection : (Setting.ofSection title).Pairwise fun a b => a.name ≠ b.name := by
    refine List.Pairwise.imp_of_mem (fun {a b} ha hb h => ?_) (hall.filter (·.sectionName == title))
    have ha : a.sectionName = title := Setting.mem_ofSection.mp ha
    have hb : b.sectionName = title := Setting.mem_ofSection.mp hb
    exact h (ha.trans hb.symm)
  rw [List.Nodup, List.pairwise_map, fields]
  refine hsection.filterMap _ fun a b hne e he f hf => ?_
  obtain ⟨v, -, rfl⟩ := Option.map_eq_some_iff.mp he
  obtain ⟨w, -, rfl⟩ := Option.map_eq_some_iff.mp hf
  exact hne

/-- What stands in a section under a name is the value of the setting of this name. -/
theorem find?_fields (c : Config) (title name : String) :
    (Keyed.ofList (c.fields title)).find? name =
      ((Setting.ofSection title).find? (·.name == name)).bind (·.value? c) := by
  cases hentry : ((Setting.ofSection title).find? (·.name == name)).bind (·.value? c) with
  | some v =>
    obtain ⟨setting, hfound, hv⟩ := Option.bind_eq_some_iff.mp hentry
    obtain ⟨htitle, hname⟩ := Setting.find?_ofSection.mp hfound
    exact Keyed.find?_ofList_of_mem (nodup_fields c title) (mem_fields.mpr ⟨setting, htitle, hname, hv⟩)
  | none =>
    refine Keyed.find?_ofList_of_not_mem fun hmem => ?_
    obtain ⟨⟨_, v⟩, hv, rfl⟩ := List.mem_map.mp hmem
    obtain ⟨setting, htitle, hname, hvalue⟩ := mem_fields.mp hv
    rw [Setting.find?_ofSection.mpr ⟨htitle, hname⟩, Option.bind_some, hvalue] at hentry
    exact absurd hentry (by simp)

theorem find?_fields_setting (c : Config) (setting : Setting) :
    (Keyed.ofList (c.fields setting.sectionName)).find? setting.name = setting.value? c := by
  rw [find?_fields, Setting.find?_ofSection.mpr ⟨rfl, rfl⟩, Option.bind_some]

/-! ## Aliases -/

theorem ordered_aliasFields (h : c.aliases.Ordered) : Keyed.Ordered c.aliasFields := h.map fun _ => rfl

theorem ofList_aliasFields (h : c.aliases.Ordered) : Keyed.ofList c.aliasFields = c.aliasFields :=
  Keyed.ofList_of_ordered (ordered_aliasFields h)

theorem find?_aliasFields (c : Config) (name : String) :
    Keyed.find? name c.aliasFields = (c.aliases.find? name).map .string := by
  have hfind : ∀ aliases : Keyed String, Keyed.find? name (aliases.map fun e => (e.1, Toml.string e.2)) =
      (aliases.find? name).map .string := by
    intro aliases
    induction aliases with
    | nil => rfl
    | cons e aliases ih =>
      simp only [List.map_cons, Keyed.find?]
      split
      · rfl
      · exact ih
  exact hfind c.aliases

end Config

end Pipework
