import Pipework.Job.Pipeline
import Pipework.Proofs.Command.Traits
import Pipework.Proofs.Job.Ebbing

/-!
# The commands tire

After an interrupt every command takes only finitely many steps from one item to the next
(`tires_program`): what takes items one by one takes no more, what reads to the end of data goes on
only with items, and the commands that write by themselves look for the interrupt in each round.
-/

namespace Pipework

namespace Behavior

/-- What ebbs and tires is put together from such behaviors. -/
theorem trait_tires : Trait Tires Ebbs where
  result := Tires.result
  fail _ := Tires.fail _
  perform h := Tires.perform h.meek
  write _ := Tires.bind (.perform trivial) .ofExcept
  bind := Tires.bind
  forever := Tires.forever
  lastResult h := h
  lastBind := Ebbs.bind
  lastRead _ h := h
  lastUndisturbed level hlevel := by
    have hpos : 1 ≤ level := hlevel
    show (level == 0) = false
    exact beq_false_of_ne (by omega)
  lastForever h := h.mono fun r hr => by
    obtain ⟨b, rfl, hb⟩ := hr
    exact hb

theorem tires_require {o : Input} (hrequired : o.required ≤ Input.maxTake) : o.require.Tires := by
  refine Tires.bind ?_ fun items => ?_
  · exact (trait_tires.readFlags o).bind fun _ =>
      trait_tires.take o fun h => absurd h (Nat.not_lt.mpr hrequired)
  · split
    · exact .fail _
    · exact .result _

end Behavior

open Behavior

/-- Every command tires, unless its request ends the program. -/
theorem Command.tires_program {name : String} {program : StageProgram}
    (h : program? name = some program) (hasInput : Bool) {args : Option String}
    (hfatal : ¬ Fatal name args) : (program hasInput args).Tires := by
  refine trait_tires.program (R := Tires) (fun _ hb => hb) h hasInput (fun hf => absurd hf hfatal)
    fun o ho text _ f hf => ?_
  have hrequired : o.required ≤ Input.maxTake := by
    unfold requiring? at ho
    split at ho <;> cases ho <;> decide
  exact (trait_tires.openText o hasInput text).bind fun _ => (tires_require hrequired).bind hf

/-- What a stage does tires, unless its request ends the program. -/
theorem Pipeline.tires_stageBehavior (spec : CommandSpec) (hasInput : Bool) {args : Option String}
    (hfatal : ¬ Command.Fatal spec.name args) :
    (stageBehavior Command.program? spec hasInput args).Tires := by
  refine Tires.bind (.perform trivial) fun _ => ?_
  obtain hnone | ⟨program, hprogram⟩ := Option.eq_none_or_eq_some (Command.program? spec.name)
  · simp only [hnone]
    exact trait_tires.forAll trait_tires.read trait_tires.lastRead trait_tires.write
  · simp only [hprogram]
    exact Command.tires_program hprogram hasInput hfatal

end Pipework
