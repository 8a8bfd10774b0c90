import Pipework.Job.Basic
import Pipework.Proofs.Text.Keyed

/-!
# Canonical names

In a registry that was filled by registering commands, a command is entered under its own name, so
whatever a name stands for is also found under its canonical name (`Shell.command?_canonical`).
-/

namespace Pipework

namespace Registry

/-- Every command is entered under its own name. -/
def Named (r : Registry) : Prop := ∀ e ∈ r.commands, e.2.name = e.1

theorem Named.register {r : Registry} (h : r.Named) (spec : CommandSpec) :
    (r.register spec).Named := by
  intro e he
  rcases Keyed.mem_insert he with rfl | he
  · rfl
  · exact h e he

theorem named_ofSpecs (specs : List CommandSpec) : (ofSpecs specs).Named := by
  suffices h : ∀ r : Registry, r.Named → (specs.foldl Registry.register r).Named from
    h {} fun e he => by simp at he
  induction specs with
  | nil => exact fun r hr => hr
  | cons spec specs ih => exact fun r hr => ih _ (hr.register spec)

theorem named_builtin : builtin.Named := named_ofSpecs _

theorem Named.get?_canonical {r : Registry} (h : r.Named) {name : String} {spec : CommandSpec}
    (hspec : r.get? name = some spec) : r.get? spec.name = some spec := by
  rw [h _ (Keyed.mem_of_find? hspec)]
  exact hspec

/-- What a name stands for is a command of its canonical name. -/
theorem Named.get?_of_lookup? {r : Registry} (h : r.Named) {name : String} {spec : CommandSpec}
    (hspec : r.lookup? name = some spec) : r.get? spec.name = some spec := by
  rcases Option.or_eq_some_iff.mp hspec with hget | ⟨-, halias⟩
  · exact h.get?_canonical hget
  · obtain ⟨target, -, hget⟩ := Option.bind_eq_some_iff.mp halias
    exact h.get?_canonical hget

end Registry

/-- A builtin command under its canonical name. -/
theorem Shell.command?_builtin {s : Shell} (h : s.registry = .builtin) {name : String}
    (hname : (Registry.builtin.lookup? name).map (·.name) = some name) :
    ∃ spec, s.command? name = some spec ∧ spec.name = name := by
  obtain ⟨spec, hspec, hcanonical⟩ := Option.map_eq_some_iff.mp hname
  refine ⟨spec, ?_, hcanonical⟩
  rw [Shell.command?, h, hspec, Option.some_or]

/-- What a name stands for in a shell, too. -/
theorem Shell.get?_canonical {s : Shell} (h : s.registry.Named) {name : String} {spec : CommandSpec}
    (hspec : s.command? name = some spec) : s.registry.get? spec.name = some spec := by
  rcases Option.or_eq_some_iff.mp hspec with hlookup | ⟨-, halias⟩
  · exact h.get?_of_lookup? hlookup
  · obtain ⟨target, -, hlookup⟩ := Option.bind_eq_some_iff.mp halias
    exact h.get?_of_lookup? hlookup

/-- What a name stands for in a shell is in the table of commands under its canonical name. -/
theorem Shell.lookup?_canonical {s : Shell} (h : s.registry.Named) {name : String}
    {spec : CommandSpec} (hspec : s.command? name = some spec) :
    s.registry.lookup? spec.name = some spec := by
  rw [Registry.lookup?, Shell.get?_canonical h hspec, Option.some_or]

theorem Shell.command?_canonical {s : Shell} (h : s.registry.Named) {name : String}
    {spec : CommandSpec} (hspec : s.command? name = some spec) :
    s.command? spec.name = some spec := by
  rw [Shell.command?, Shell.lookup?_canonical h hspec, Option.some_or]

end Pipework
