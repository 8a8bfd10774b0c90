import Pipework.Proofs.Config.Sections
import Pipework.Proofs.Toml.Documents

/-!
# A configuration read back

A configuration that can be written is read back from its document as it was
(`Config.ofToml?_toToml?`): a setting that is unset stays unset, and neither an empty list nor an
empty table of aliases gives way to a default.
-/

namespace Pipework

open Toml (Plain)

namespace Setting

variable {c base : Config} {setting : Setting} {v : Toml}

/-- What is written of a setting is read back. -/
theorem plain_value? (hc : c.isWritable) (h : setting.value? c = some v) : v.Plain := by
  simp only [Config.isWritable, List.all_cons, List.all_nil, Bool.and_true, Bool.and_eq_true,
    decide_eq_true_eq] at hc
  obtain ⟨hcapacity, hmaxSize, hmaxBuffer⟩ := hc
  cases setting with
  | path =>
    obtain ⟨path, -, rfl⟩ := Option.map_eq_some_iff.mp h
    exact .string path
  | filter => exact Option.some.inj h ▸ .string _
  | capacity => exact Option.some.inj h ▸ .natural hcapacity
  | maxSize => exact Option.some.inj h ▸ .natural hmaxSize
  | skip => exact Option.some.inj h ▸ .texts _
  | maxBuffer => exact Option.some.inj h ▸ .natural hmaxBuffer

/-- A configuration with one setting of another, if that has it. -/
def copied (source target : Config) : Setting → Config
  | .filter => { target with filter := source.filter }
  | .capacity => { target with capacity := source.capacity }
  | .maxSize => { target with maxSize := source.maxSize }
  | .path => { target with path := source.path.or target.path }
  | .skip => { target with skip := source.skip }
  | .maxBuffer => { target with maxBuffer := source.maxBuffer }

theorem size_natural {n : Nat} (h : n ≤ Toml.maxInteger) : Toml.size (.integer n) = .ok n := by
  have hword : (n : Int) ≤ Number.maxWord := by
    have hmax : Toml.maxInteger ≤ Number.maxWord := by decide
    exact Int.ofNat_le.mpr (h.trans hmax)
  have hnonneg : ¬ (n : Int) < 0 := by omega
  rw [Toml.size, if_neg hnonneg, if_pos hword, Int.toNat_natCast]

theorem texts_strings (items : List String) : Toml.texts (.array (items.map .string)) = .ok items := by
  have hread : ∀ items : List String, (items.map Toml.string).mapM Toml.text = Except.ok items := by
    intro items
    induction items with
    | nil => rfl
    | cons s items ih =>
      rw [List.map_cons, List.mapM_cons, ih]
      rfl
  exact hread items

/-- A setting is given the value that it has elsewhere. -/
theorem assign_value? (hc : c.isWritable) (h : setting.value? c = some v) :
    setting.assign base v = .ok (setting.copied c base) := by
  simp only [Config.isWritable, List.all_cons, List.all_nil, Bool.and_true, Bool.and_eq_true,
    decide_eq_true_eq] at hc
  obtain ⟨hcapacity, hmaxSize, hmaxBuffer⟩ := hc
  cases setting with
  | path =>
    obtain ⟨path, hpath, rfl⟩ := Option.map_eq_some_iff.mp h
    simp [assign, copied, Toml.text, hpath, bind, Except.bind]
  | filter =>
    obtain rfl := Option.some.inj h
    rfl
  | capacity =>
    obtain rfl := Option.some.inj h
    simp [assign, copied, size_natural hcapacity, bind, Except.bind]
  | maxSize =>
    obtain rfl := Option.some.inj h
    simp [assign, copied, size_natural hmaxSize, bind, Except.bind]
  | skip =>
    obtain rfl := Option.some.inj h
    simp [assign, copied, texts_strings, bind, Except.bind]
  | maxBuffer =>
    obtain rfl := Option.some.inj h
    simp [assign, copied, size_natural hmaxBuffer, bind, Except.bind]

/-- Only a path may be unset. -/
theorem copied_of_none (h : setting.value? c = none) : setting.copied c base = base := by
  cases setting with
  | path =>
    have hpath : c.path = none := by simpa [value?] using h
    simp [copied, hpath]
  | _ => cases h

end Setting

namespace Config

variable {c : Config}

theorem foldlM_ok {α β ε : Type} {step : β → α → Except ε β} (f : β → α → β) {items : List α}
    (h : ∀ b, ∀ a ∈ items, step b a = .ok (f b a)) (b : β) :
    items.foldlM step b = .ok (items.foldl f b) := by
  induction items generalizing b with
  | nil => rfl
  | cons a items ih =>
    rw [List.foldlM_cons, h b a List.mem_cons_self]
    exact ih (fun b a ha => h b a (List.mem_cons_of_mem _ ha)) _

/-- A configuration with the settings of a section of another. -/
def copySection (source target : Config) (title : String) : Config :=
  (Setting.ofSection title).foldl (Setting.copied source) target

/-- The settings of a section are read from what is written of them. -/
theorem readSection_fields (hc : c.isWritable) (title : String) (base : Config) :
    readSection title (.table (Keyed.ofList (c.fields title))) base = .ok (c.copySection base title) := by
  refine foldlM_ok (Setting.copied c) (fun base setting hmem => ?_) base
  rw [← Setting.mem_ofSection.mp hmem, find?_fields_setting]
  cases hvalue : setting.value? c with
  | none => rw [setting.copied_of_none hvalue]
  | some v => exact Setting.assign_value? hc hvalue

/-- All settings together are those of all sections. -/
theorem foldl_copySection (c : Config) :
    sectionNames.foldl c.copySection standard = { c with aliases := [] } := by
  have hpath : c.path.or none = c.path := Option.or_none
  exact congrArg (fun path => { c with aliases := [], path := path }) hpath

theorem readAliases_fields (h : c.aliases.Ordered) (base : Config) :
    readAliases (.table (Keyed.ofList c.aliasFields)) base = .ok { base with aliases := c.aliases } := by
  have hread : ∀ aliases : Keyed String,
      (aliases.map fun e => (e.1, Toml.string e.2)).mapM (fun e => do .ok (e.1, ← e.2.text)) =
        (Except.ok aliases : Except String (Keyed String)) := by
    intro aliases
    induction aliases with
    | nil => rfl
    | cons e aliases ih =>
      rw [List.map_cons, List.mapM_cons, ih]
      rfl
  rw [ofList_aliasFields h, readAliases]
  simp only [Toml.entries?]
  exact congrArg (· >>= fun aliases => .ok { base with aliases := aliases }) (hread c.aliases)

/-- The sections that a configuration is written in. -/
def sections (c : Config) : List (String × List (String × Toml)) :=
  (sectionNames.map fun title => (title, c.fields title)) ++ [("aliases", c.aliasFields)]

theorem nodup_sections (c : Config) : (c.sections.map (·.1)).Nodup := by
  have hnames : c.sections.map (·.1) = ["debug", "pipe", "history", "output", "aliases"] := rfl
  rw [hnames]
  decide

theorem mem_sections {e : String × List (String × Toml)} (h : e ∈ c.sections) :
    (e.1 ∈ sectionNames ∧ e.2 = c.fields e.1) ∨ (e.1 = "aliases" ∧ e.2 = c.aliasFields) := by
  rcases List.mem_append.mp h with h | h
  · obtain ⟨title, htitle, rfl⟩ := List.mem_map.mp h
    exact .inl ⟨htitle, rfl⟩
  · obtain rfl := List.mem_singleton.mp h
    exact .inr ⟨rfl, rfl⟩

theorem plain_sections (hc : c.isWritable) :
    ∀ e ∈ c.sections, ∀ f ∈ e.2, f.2.Plain := by
  rintro ⟨title, entries⟩ he ⟨name, v⟩ hf
  rcases mem_sections he with ⟨-, hentries⟩ | ⟨-, hentries⟩
  all_goals
    dsimp only at hentries hf
    rw [hentries] at hf
  · obtain ⟨setting, -, -, hvalue⟩ := mem_fields.mp hf
    exact Setting.plain_value? hc hvalue
  · obtain ⟨entry, -, heq⟩ := List.mem_map.mp hf
    obtain rfl : Toml.string entry.2 = v := congrArg Prod.snd heq
    exact .string _

theorem nodup_entries (haliases : c.aliases.Ordered) : ∀ e ∈ c.sections, (e.2.map (·.1)).Nodup := by
  rintro ⟨title, entries⟩ he
  rcases mem_sections he with ⟨-, hentries⟩ | ⟨-, hentries⟩
  all_goals
    dsimp only at hentries ⊢
    rw [hentries]
  · exact nodup_fields c title
  · exact (ordered_aliasFields haliases).nodup

/-- The root table of the document of a configuration. -/
def root (c : Config) : Keyed Toml :=
  Keyed.ofList (c.sections.map fun e => (e.1, .table (Keyed.ofList e.2)))

theorem find?_root {e : String × List (String × Toml)} (h : e ∈ c.sections) :
    c.root.find? e.1 = some (.table (Keyed.ofList e.2)) := by
  refine Keyed.find?_ofList_of_mem ?_ (List.mem_map.mpr ⟨e, h, rfl⟩)
  rw [List.map_map]
  exact nodup_sections c

/-- **A configuration is read back from its document.** Any texts may stand in it, and the keys of its
aliases in order. -/
theorem ofToml?_toToml? (hc : c.isWritable) (haliases : c.aliases.Ordered) :
    ∃ text, c.toToml? = some text ∧ ofToml? text = some c := by
  refine ⟨Toml.document c.sections, if_pos hc, ?_⟩
  have hread : Toml.read? (Toml.document c.sections) = some c.root :=
    Toml.read?_document (nodup_sections c) (nodup_entries haliases) (plain_sections hc)
  have haliased : c.root.find? "aliases" = some (.table (Keyed.ofList c.aliasFields)) :=
    find?_root (e := ("aliases", c.aliasFields)) (List.mem_append_right _ List.mem_cons_self)
  rw [ofToml?, hread]
  simp only [Option.bind_eq_bind, Option.bind_some]
  rw [foldlM_ok c.copySection, foldl_copySection, haliased]
  · simp only [bind, Except.bind, readAliases_fields haliases]
    rfl
  · intro base title htitle
    have hmem : (title, c.fields title) ∈ c.sections :=
      List.mem_append_left _ (List.mem_map.mpr ⟨title, htitle, rfl⟩)
    rw [find?_root hmem]
    exact readSection_fields hc title base

/-- A configuration of awkward texts is read back: all kinds of quotes, backslashes, line breaks and
control characters, a name with a dot and an empty one, no path and nothing that is skipped. -/
theorem ofToml?_toToml?_awkward :
    let c : Config :=
      { filter := "\"\"\"'''\\\n\r\x00\x7f", path := none, skip := []
        aliases := [("", "\tgreet \"you\""), ("a.b", ""), ("it's", "\u2028\x0c")] }
    c.isWritable ∧ c.aliases.Ordered ∧ ∃ text, c.toToml? = some text ∧ ofToml? text = some c :=
  ⟨by decide, by decide, ofToml?_toToml? (by decide) (by decide)⟩

end Config

end Pipework
