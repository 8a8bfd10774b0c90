import Pipework.Proofs.Command.Manners
import Pipework.Proofs.Job.Composing

/-!
# Commands at the end of a line

Whatever stands before a command in its line, the command sees a list of items: the stages before it
supply this list (`Machine.Supplies`) when each of them maps lists. A command whose program computes a
function maps lists itself (`Machine.Calls.maps`), so what a line of such commands outputs is what their
functions make of the list (`Machine.Supplies.outputs`). Every list can be supplied
(`Machine.supplies_writer`).
-/

namespace Pipework

namespace Machine

variable {m : Machine} {stage : Stage} {front back : List Stage} {spec : CommandSpec}
  {program : StageProgram} {xs : List Value} {f : List Value → List Value}
  {fs gs : List (List Value → List Value)}

/-- A stage maps lists if its program does: that it is logged first makes no difference. -/
theorem maps_program (hspec : m.job.shell.command? stage.command = some spec)
    (hprogram : m.programs spec.name = some program)
    (htidy : ∀ hasInput, (program hasInput stage.args).Tidy [] [])
    (hcomputes : Command.Computes program stage.args f) : m.Maps stage f := by
  refine ⟨spec, hspec, fun hasInput => ⟨trivial, fun _ => ⟨?_, fun hwaits => hwaits.elim⟩⟩,
    fun hasInput input => (Behavior.yields_perform rfl).thenWrites ?_⟩
  · simp only [hprogram]
    exact htidy hasInput
  · simp only [hprogram]
    exact hcomputes hasInput input

/-! ## Builtin commands -/

/-- What has been typed stands for the builtin command of this name. -/
structure Calls (m : Machine) (typed name : String) : Prop where
  resolves : m.job.shell.resolve? typed = some name
  program : m.programs name = Command.program? name

/-- A builtin command that computes a function maps lists. -/
theorem Calls.maps {typed name : String} {args : Option String} (h : m.Calls typed name)
    (hprogram : Command.program? name = some program) (hcomputes : Command.Computes program args f) :
    m.Maps ⟨typed, args⟩ f := by
  obtain ⟨spec, hspec, rfl⟩ := Option.map_eq_some_iff.mp h.resolves
  exact maps_program hspec (h.program.trans hprogram)
    (fun hasInput => Command.tidy_program hprogram hasInput args) hcomputes

/-- Where nothing has been changed a builtin name stands for its command. -/
theorem calls_builtin {name : String} (hregistry : m.job.shell.registry = .builtin)
    (hprograms : m.programs = Command.program?)
    (hname : (Registry.builtin.lookup? name).map (·.name) = some name) : m.Calls name name := by
  obtain ⟨spec, hspec, hsame⟩ := Shell.command?_builtin hregistry hname
  exact ⟨by rw [Shell.resolve?, hspec, Option.map_some, hsame], by rw [hprograms]⟩

/-- A machine on which no line has been run. -/
def ofShell (s : Shell) : Machine := { job := { shell := s }, programs := Command.program? }

theorem prompt_ofShell {s : Shell} (hnamed : s.registry.Named) : (ofShell s).Prompt where
  named := hnamed
  orderly _ he := absurd he List.not_mem_nil
  level := rfl
  halt := rfl

/-! ## What stands before -/

/-- At the end of these stages a command finds this list. -/
def Supplies (m : Machine) (front : List Stage) (xs : List Value) : Prop :=
  ∃ fs, List.Forall₂ m.Maps front fs ∧ composed fs [] = xs

/-- Where no stage stands before, there is nothing. -/
theorem supplies_nil : m.Supplies [] [] := ⟨[], .nil, rfl⟩

/-- A stage that is supplied supplies others. -/
theorem Supplies.concat (h : m.Supplies front xs) (hmaps : m.Maps stage f) :
    m.Supplies (front ++ [stage]) (f xs) := by
  obtain ⟨fs, hfront, rfl⟩ := h
  exact ⟨fs ++ [f], List.rel_append hfront (.cons hmaps .nil), composed_append fs [f] []⟩

/-- Every list is supplied by a stage that writes it. -/
theorem supplies_writer (hspec : m.job.shell.command? stage.command = some spec)
    (hprogram : m.programs spec.name = some fun _ _ => Behavior.writeAll xs) :
    m.Supplies [stage] xs := by
  refine supplies_nil.concat (maps_program (f := fun _ => xs) hspec hprogram (fun _ => ?_) ?_)
  · exact (quiet_writeAll xs).timeless.tidy (List.Subset.refl _)
  · exact fun _ _ => (Behavior.yields_writeAll _ xs).writes

/-- **What a line outputs**: what the functions of its last commands make of the list that the stages
before supply. -/
theorem Supplies.outputs (h : m.Supplies front xs) (hm : m.Prompt)
    (hback : List.Forall₂ m.Maps back gs) {line : String} (hline : Stage.parseLine line = front ++ back) :
    m.Outputs line (composed gs xs) := by
  obtain ⟨fs, hfront, rfl⟩ := h
  rw [← composed_append]
  refine runLine_maps hm ?_
  rw [hline]
  exact List.rel_append hfront hback

end Machine

end Pipework
