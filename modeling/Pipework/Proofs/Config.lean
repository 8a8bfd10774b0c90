import Pipework.Config
import Pipework.Proofs.Text.Keyed
import Pipework.Proofs.Text.Pieces

/-!
# Changing single settings

A change that is made leaves a configuration that can be written, and the filter changes under its
own key only (`Config.set_ok`). A configuration that can be written takes any text as its filter
(`Config.set_filter`), and a key of the section of aliases enters any text as what its name stands
for (`Config.set_aliases`).
-/

namespace Pipework

/-- Every other setting leaves the filter alone. -/
theorem Setting.filter_assign {setting : Setting} (hsetting : setting ≠ .filter) {c c' : Config}
    {v : Toml} (h : setting.assign c v = .ok c') : c'.filter = c.filter := by
  cases setting with
  | filter => exact absurd rfl hsetting
  | _ =>
    simp only [assign, bind, Except.bind] at h
    split at h
    · simp at h
    · rw [← Except.ok.inj h]

/-- No setting is an alias. -/
theorem Setting.aliases_assign {setting : Setting} {c c' : Config} {v : Toml}
    (h : setting.assign c v = .ok c') : c'.aliases = c.aliases := by
  cases setting with
  | _ =>
    simp only [assign, bind, Except.bind] at h
    split at h
    · simp at h
    · rw [← Except.ok.inj h]

namespace Config

variable {c c' : Config} {key raw title name : String} {v : Toml}

/-- A configuration that can be written stands in a table of tables, the filter in its place. -/
theorem toTable_filter (hc : c.isWritable) :
    ∃ table, c.toTable = .ok table ∧
      table.find? "debug" = some (.table [("filter", .string c.filter)]) := by
  refine ⟨_, by rw [toTable, if_pos hc], ?_⟩
  simp only [sectionNames, List.map_cons, List.map_nil, Keyed.ofList, List.foldl_cons,
    List.foldl_nil, Keyed.find?_insert]
  rfl

theorem isWritable_of_toTable {table : Keyed Toml} (h : c.toTable = .ok table) : c.isWritable := by
  unfold toTable at h
  split at h
  · assumption
  · simp at h

theorem get_filter (hc : c.isWritable) : c.get "debug.filter" = .ok (some (.string c.filter)) := by
  obtain ⟨table, htable, hfind⟩ := toTable_filter hc
  have hpieces : piecesAt '.' "debug.filter" = ["debug", "filter"] := by decide
  rw [get, htable]
  show Except.ok (lookUp (.table table) (piecesAt '.' "debug.filter")) = _
  rw [hpieces]
  simp only [lookUp, hfind, Option.bind_some]
  rfl

/-- Any text is taken as a filter. -/
theorem set_filter (hc : c.isWritable) {text : String} (hraw : valueOf raw = .string text) :
    c.set "debug.filter" raw = .ok (.string text, { c with filter := text }) := by
  have hcut : cutAt? '.' "debug.filter" = some ("debug", "filter") := by decide
  have henter : c.enter "debug" "filter" (valueOf raw) = .ok { c with filter := text } := by
    rw [hraw]
    rfl
  have hget := get_filter (c := { c with filter := text }) hc
  obtain ⟨table, htable, hfind⟩ := toTable_filter hc
  simp only [set, hcut, htable]
  simp [hfind, henter, hget, bind, Except.bind]

/-- Only the setting of the filter changes the filter. -/
theorem filter_enter (h : c.enter title name v = .ok c') (hkey : (title, name) ≠ ("debug", "filter")) :
    c'.filter = c.filter := by
  unfold enter at h
  split at h
  · cases hv : v.text with
    | error e => simp [hv, bind, Except.bind] at h
    | ok text =>
      simp only [hv, bind, Except.bind, Except.ok.injEq] at h
      exact h ▸ rfl
  · split at h
    · rename_i setting hsetting
      have hmem := List.mem_filter.mp (List.mem_of_find?_eq_some hsetting)
      have htitle : setting.sectionName = title := by simpa using hmem.2
      have hname : setting.name = name := by simpa using List.find?_some hsetting
      refine Setting.filter_assign (fun heq => hkey ?_) h
      rw [← htitle, ← hname, heq]
      rfl
    · exact congrArg filter (Except.ok.inj h).symm

/-- A change that is made enters the value of the text and finds it under the key again. -/
theorem enter_of_set (h : c.set key raw = .ok (v, c')) :
    ∃ title name, cutAt? '.' key = some (title, name) ∧ c.enter title name (valueOf raw) = .ok c' ∧
      c'.get key = .ok (some v) := by
  unfold set at h
  dsimp only at h
  split at h
  · simp at h
  · rename_i title name hcut
    cases htable : c.toTable with
    | error e => simp [htable, bind, Except.bind] at h
    | ok table =>
      simp only [htable, bind, Except.bind] at h
      split at h
      · simp at h
      · split at h
        · simp at h
        · rename_i updated henter
          cases hget : updated.get key with
          | error e => simp [hget] at h
          | ok stored? =>
            cases stored? with
            | none => simp [hget] at h
            | some stored =>
              simp only [hget, Except.ok.injEq, Prod.mk.injEq] at h
              obtain ⟨rfl, rfl⟩ := h
              exact ⟨title, name, hcut, henter, hget⟩

/-- A change that is made leaves a configuration that can be written, and the filter alone unless
it is about the filter. -/
theorem set_ok (h : c.set key raw = .ok (v, c')) :
    c'.isWritable ∧ (key ≠ "debug.filter" → c'.filter = c.filter) := by
  obtain ⟨title, name, hcut, henter, hget⟩ := enter_of_set h
  refine ⟨?_, fun hkey => filter_enter henter fun heq => hkey ?_⟩
  · cases htable : c'.toTable with
    | error e => simp [get, htable, bind, Except.bind] at hget
    | ok table => exact isWritable_of_toTable htable
  · exact Text.eq_of_cutAt? (hcut.trans (congrArg some heq))

/-! ## Aliases -/

/-- Only a key of the section of aliases changes an alias, to a text. -/
theorem aliases_enter (h : c.enter title name v = .ok c') :
    c'.aliases = c.aliases ∨
      title = "aliases" ∧ ∃ target, v = .string target ∧ c'.aliases = c.aliases.insert name target := by
  unfold enter at h
  split at h <;> rename_i htitle
  · right
    refine ⟨by simpa using htitle, ?_⟩
    cases v with
    | string target =>
      simp only [Toml.text, bind, Except.bind, Except.ok.injEq] at h
      exact ⟨target, rfl, h ▸ rfl⟩
    | _ => simp [Toml.text, Toml.wrongKind, bind, Except.bind] at h
  · left
    split at h
    · exact Setting.aliases_assign h
    · exact congrArg aliases (Except.ok.inj h).symm

/-- Under a key of three parts or more there is no alias. -/
theorem get_alias {a b : String} {path : List String}
    (h : piecesAt '.' key = "aliases" :: a :: b :: path) : c.get key ≠ .ok (some v) := by
  intro hget
  cases htable : c.toTable with
  | error e => simp [get, htable, bind, Except.bind] at hget
  | ok table =>
    have haliases : table.find? "aliases" = some (.table (Keyed.ofList c.aliasFields)) := by
      unfold toTable at htable
      split at htable
      · obtain rfl := Except.ok.inj htable
        simp only [sectionNames, List.map_cons, List.map_nil, Keyed.ofList, List.foldl_cons,
          List.foldl_nil, Keyed.find?_insert]
        rfl
      · simp at htable
    simp only [get, htable, bind, Except.bind, h, lookUp, haliases, Option.bind_some,
      Except.ok.injEq] at hget
    obtain ⟨entry, hentry, hbelow⟩ := Option.bind_eq_some_iff.mp hget
    -- an alias is a text, which has no parts
    obtain ⟨known, -, heq⟩ := List.mem_map.mp (Keyed.mem_ofList (Keyed.mem_of_find? hentry))
    obtain rfl : Toml.string known.2 = entry := congrArg Prod.snd heq
    simp at hbelow

/-- A change of a setting enters at most one alias, for a text, under a name without a dot. -/
theorem set_aliases (h : c.set key raw = .ok (v, c')) :
    c'.aliases = c.aliases ∨ ∃ name target, cutAt? '.' key = some ("aliases", name) ∧
      '.' ∉ name.toList ∧ valueOf raw = .string target ∧
      c'.aliases = c.aliases.insert name target := by
  obtain ⟨title, name, hcut, henter, hget⟩ := enter_of_set h
  rcases aliases_enter henter with hsame | ⟨rfl, target, hvalue, hentered⟩
  · exact .inl hsame
  refine .inr ⟨name, target, hcut, ?_, hvalue, hentered⟩
  intro hdot
  -- a dot in the name makes the key one of three parts, and nothing is found under it
  obtain ⟨before, after, hmore⟩ := Text.cut?_of_mem (p := (· == '.')) hdot (by decide)
  obtain ⟨next, path, hrest⟩ := List.exists_cons_of_ne_nil (Text.pieces_ne_nil (· == '.') after)
  have hpieces : piecesAt '.' key =
      "aliases" :: .ofList before :: .ofList next :: path.map .ofList := by
    rw [Text.piecesAt_of_cutAt? hcut, piecesAt, Text.pieces_of_cut? hmore, hrest, List.map_cons,
      List.map_cons]
  exact get_alias hpieces hget

end Config

end Pipework
