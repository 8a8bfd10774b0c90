import Pipework.Proofs.Command.Registry

/-!
# What the names of a registry stand for

A registry looks a name up among the commands and then among the aliases. Registering a command
replaces the one of its name, but only adds to the aliases, so the two tables may part:

* a command is found as it was registered last (`Registry.get?_ofSpecs`), an alias stands for
  whoever registered it last (`Registry.aliasTarget?_ofSpecs`);
* as long as no command is registered again without an alias that it had, every alias is one of the
  command that it stands for (`Registry.Consistent.register`).

So what is looked up under a name goes by that name, or the name is an alias that the command gave
up when it was registered again (`registered_names`); and such an alias still stands for the command
(`given_up_alias`).
-/

namespace Pipework

namespace Registry

variable {specs : List CommandSpec} {p : CommandSpec → Prop} {spec last : CommandSpec}
  {name target : String}

/-! ## The last of the registrations -/

/-- The last of the registrations of which the condition holds. -/
def IsLast (specs : List CommandSpec) (p : CommandSpec → Prop) (spec : CommandSpec) : Prop :=
  ∃ before after, specs = before ++ spec :: after ∧ p spec ∧ ∀ later ∈ after, ¬ p later

theorem isLast_concat (h : p last) : IsLast (specs ++ [last]) p last :=
  ⟨specs, [], rfl, h, fun _ hlater => absurd hlater List.not_mem_nil⟩

theorem IsLast.concat (h : IsLast specs p spec) (hlast : ¬ p last) :
    IsLast (specs ++ [last]) p spec := by
  obtain ⟨before, after, rfl, hspec, hafter⟩ := h
  refine ⟨before, after ++ [last], by simp, hspec, fun later hlater => ?_⟩
  rcases List.mem_append.mp hlater with hlater | hlater
  · exact hafter later hlater
  · exact List.mem_singleton.mp hlater ▸ hlast

theorem IsLast.mem (h : IsLast specs p spec) : spec ∈ specs := by
  obtain ⟨before, after, rfl, -⟩ := h
  exact List.mem_append_right _ List.mem_cons_self

theorem IsLast.holds (h : IsLast specs p spec) : p spec := by
  obtain ⟨before, after, -, hspec, -⟩ := h
  exact hspec

/-! ## The two tables -/

theorem ofSpecs_concat (specs : List CommandSpec) (last : CommandSpec) :
    ofSpecs (specs ++ [last]) = (ofSpecs specs).register last := List.foldl_append ..

theorem get?_register (r : Registry) (spec : CommandSpec) (name : String) :
    (r.register spec).get? name = if spec.name = name then some spec else r.get? name :=
  Keyed.find?_insert ..

/-- Names that are entered one after another for one target. -/
theorem find?_foldl_insert (table : Keyed String) (names : List String) (target name : String) :
    (names.foldl (fun table other => table.insert other target) table).find? name =
      if name ∈ names then some target else table.find? name := by
  induction names generalizing table with
  | nil => simp
  | cons other names ih =>
    rw [List.foldl_cons, ih, Keyed.find?_insert]
    by_cases hmem : name ∈ names
    · rw [if_pos hmem, if_pos (List.mem_cons_of_mem _ hmem)]
    · by_cases heq : other = name
      · rw [if_neg hmem, if_pos heq, if_pos (heq ▸ List.mem_cons_self)]
      · have hnot : name ∉ other :: names := by simp [Ne.symm heq, hmem]
        rw [if_neg hmem, if_neg heq, if_neg hnot]

theorem aliasTarget?_register (r : Registry) (spec : CommandSpec) (name : String) :
    (r.register spec).aliasTarget? name =
      if name ∈ spec.aliases then some spec.name else r.aliasTarget? name :=
  find?_foldl_insert r.aliases spec.aliases spec.name name

/-- A command is found as it was registered last. -/
theorem get?_ofSpecs (h : (ofSpecs specs).get? name = some spec) :
    IsLast specs (·.name = name) spec := by
  induction specs using List.reverseRecOn with
  | nil => cases h
  | append_singleton specs last ih =>
    rw [ofSpecs_concat, get?_register] at h
    split at h <;> rename_i hname
    · obtain rfl := Option.some.inj h
      exact isLast_concat hname
    · exact (ih h).concat hname

/-- An alias stands for the command that was registered last with it. -/
theorem aliasTarget?_ofSpecs (h : (ofSpecs specs).aliasTarget? name = some target) :
    ∃ other, IsLast specs (name ∈ ·.aliases) other ∧ other.name = target := by
  induction specs using List.reverseRecOn with
  | nil => cases h
  | append_singleton specs last ih =>
    rw [ofSpecs_concat, aliasTarget?_register] at h
    split at h <;> rename_i hname
    · exact ⟨last, isLast_concat hname, Option.some.inj h⟩
    · obtain ⟨other, hother, htarget⟩ := ih h
      exact ⟨other, hother.concat hname, htarget⟩

/-! ## Aliases that are kept -/

/-- Every alias is one of the command that it stands for. -/
def Consistent (r : Registry) : Prop :=
  ∀ name target, r.aliasTarget? name = some target →
    ∃ spec, r.get? target = some spec ∧ name ∈ spec.aliases

/-- No command is registered again without an alias that it had. -/
def KeepAliases (specs : List CommandSpec) : Prop :=
  specs.Pairwise fun old new => old.name = new.name → old.aliases ⊆ new.aliases

instance (specs : List CommandSpec) : Decidable (KeepAliases specs) := by
  unfold KeepAliases
  infer_instance

/-- A registration that keeps the aliases of the command that it replaces leaves all aliases in
order, also those that it takes from other commands. -/
theorem Consistent.register {r : Registry} (h : r.Consistent)
    (hkeeps : ∀ old, r.get? spec.name = some old → old.aliases ⊆ spec.aliases) :
    (r.register spec).Consistent := by
  intro name target htarget
  rw [aliasTarget?_register] at htarget
  rw [get?_register]
  by_cases hname : name ∈ spec.aliases
  · rw [if_pos hname] at htarget
    rw [if_pos (Option.some.inj htarget)]
    exact ⟨spec, rfl, hname⟩
  · rw [if_neg hname] at htarget
    obtain ⟨old, hold, hmem⟩ := h name target htarget
    -- an alias of the command that is replaced would be one of the new command
    have hother : spec.name ≠ target := by
      rintro rfl
      exact hname (hkeeps old hold hmem)
    rw [if_neg hother]
    exact ⟨old, hold, hmem⟩

theorem KeepAliases.consistent (h : KeepAliases specs) : (ofSpecs specs).Consistent := by
  induction specs using List.reverseRecOn with
  | nil => exact fun _ _ htarget => absurd htarget (by simp [ofSpecs, aliasTarget?, Keyed.find?])
  | append_singleton specs last ih =>
    obtain ⟨hspecs, -, hlast⟩ := List.pairwise_append.mp h
    rw [ofSpecs_concat]
    refine (ih hspecs).register fun old hold => ?_
    have holdLast := get?_ofSpecs hold
    exact hlast old holdLast.mem last (List.mem_singleton.mpr rfl) holdLast.holds

/-! ## Names -/

/-- The command had the alias when the alias was last registered, and has been registered again
without it. -/
structure GivenUp (specs : List CommandSpec) (name : String) (spec : CommandSpec) : Prop where
  /-- The command is the one that was registered last under its name. -/
  current : IsLast specs (·.name = spec.name) spec
  /-- Nobody has registered the alias since the command did. -/
  former : ∃ old, IsLast specs (name ∈ ·.aliases) old ∧ old.name = spec.name
  /-- It is no alias of the command now. -/
  gone : name ∉ spec.aliases

/-- What is looked up goes by the name or by the alias, or has given the alias up. -/
theorem names_of_lookup? (h : (ofSpecs specs).lookup? name = some spec) :
    name = spec.name ∨ name ∈ spec.aliases ∨ GivenUp specs name spec := by
  rcases Option.or_eq_some_iff.mp h with hget | ⟨-, halias⟩
  · exact .inl (get?_ofSpecs hget).holds.symm
  · obtain ⟨target, htarget, hget⟩ := Option.bind_eq_some_iff.mp halias
    obtain ⟨old, hold, rfl⟩ := aliasTarget?_ofSpecs htarget
    have hlast := get?_ofSpecs hget
    have hsame : spec.name = old.name := hlast.holds
    by_cases hmem : name ∈ spec.aliases
    · exact .inr (.inl hmem)
    · exact .inr (.inr ⟨hsame.symm ▸ hlast, ⟨old, hold, hsame.symm⟩, hmem⟩)

/-- What is looked up in a consistent registry goes by the name or by the alias. -/
theorem Consistent.names_of_lookup? {r : Registry} (h : r.Consistent) (hnamed : r.Named)
    (hlookup : r.lookup? name = some spec) : name = spec.name ∨ name ∈ spec.aliases := by
  rcases Option.or_eq_some_iff.mp hlookup with hget | ⟨-, halias⟩
  · exact .inl (hnamed _ (Keyed.mem_of_find? hget)).symm
  · obtain ⟨target, htarget, hget⟩ := Option.bind_eq_some_iff.mp halias
    obtain ⟨found, hfound, hmem⟩ := h name target htarget
    obtain rfl : found = spec := Option.some.inj (hfound.symm.trans hget)
    exact .inr hmem

/-- **What a name stands for.** After any registrations, a command that is looked up under a name goes
by that name, or has it among its aliases, or had it there before it was registered again; and the
last never comes about as long as no command is registered again without an alias that it had,
whichever aliases the commands take from one another. -/
theorem registered_names (h : (ofSpecs specs).lookup? name = some spec) :
    (name = spec.name ∨ name ∈ spec.aliases ∨ GivenUp specs name spec) ∧
      (KeepAliases specs → name = spec.name ∨ name ∈ spec.aliases) :=
  ⟨names_of_lookup? h, fun hkeeps => hkeeps.consistent.names_of_lookup? (named_ofSpecs specs) h⟩

/-- Of two commands that take an alias from each other, the first is registered again with one alias
more. -/
theorem registered_names_taken :
    let head : CommandSpec := { name := "head", aliases := ["take", "first"] }
    let tail : CommandSpec := { name := "tail", aliases := ["take"] }
    let again : CommandSpec := { head with aliases := ["top", "first", "take"] }
    let specs := [head, tail, again, tail]
    (ofSpecs specs).lookup? "first" = some again ∧ (ofSpecs specs).lookup? "take" = some tail ∧
      KeepAliases specs ∧ ("first" = again.name ∨ "first" ∈ again.aliases) := by
  intro head tail again specs
  have hfirst : (ofSpecs specs).lookup? "first" = some again := by decide +kernel
  have hkeeps : KeepAliases specs := by decide +kernel
  exact ⟨hfirst, by decide +kernel, hkeeps, (registered_names hfirst).2 hkeeps⟩

/-- A command that is registered again with another alias is still looked up under the old one. -/
theorem given_up_alias :
    let old : CommandSpec := { name := "head", aliases := ["take"] }
    let new : CommandSpec := { name := "head", aliases := ["first"] }
    (ofSpecs [old, new]).lookup? "take" = some new ∧ "take" ≠ new.name ∧ "take" ∉ new.aliases := by
  decide +kernel

end Registry

end Pipework
