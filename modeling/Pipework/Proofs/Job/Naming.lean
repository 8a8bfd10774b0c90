import Pipework.Proofs.Job.Evolving
import Pipework.Proofs.Job.Starting
import Pipework.Proofs.Pipe.Channel
import Pipework.Proofs.Text.Pieces

/-!
# The names of the pipes of a line

A pipe has the name that it was created with, whatever becomes of its job (`Job.Evolves.names`). So the
pipe of stage `i` of a line is named after the command of the stage and its number
(`Pipeline.name_execute`), and no two pipes of a line share a name as long as the commands have no
full stop in their names (`pipeName_inj`).
-/

namespace Pipework

/-- The name of the pipe that is created as number `i` for a command. -/
def pipeName (label : String) (i : Nat) : String := s!"pipe<{label}.{i + 1}>"

/-- The number can be read off the name. -/
theorem pipeName_inj {label label' : String} (h : '.' ∉ label.toList) (h' : '.' ∉ label'.toList)
    {i j : Nat} (heq : pipeName label i = pipeName label' j) : i = j := by
  have hchars : ∀ (label : String) (i : Nat), (pipeName label i).toList =
      ("pipe<".toList ++ label.toList) ++ '.' :: ((i + 1).repr.toList ++ ['>']) := by
    intro label i
    have hparts : pipeName label i = "pipe<" ++ label ++ "." ++ (i + 1).repr ++ ">" := rfl
    simp [hparts]
  have hfree : ∀ label : String, '.' ∉ label.toList →
      ∀ c ∈ "pipe<".toList ++ label.toList, (c == '.') = false := by
    intro label hlabel c hc
    refine beq_false_of_ne ?_
    rintro rfl
    exact hlabel ((List.mem_append.mp hc).resolve_left (by decide))
  have hcut := congrArg (fun name : String => Text.cut? (· == '.') name.toList) heq
  simp only [hchars] at hcut
  rw [Text.cut?_append (hfree label h) (by decide),
    Text.cut?_append (hfree label' h') (by decide)] at hcut
  have hdigits := List.append_cancel_right (Prod.ext_iff.mp (Option.some.inj hcut)).2
  exact Nat.succ_injective (Nat.repr_injective (String.toList_injective hdigits))

namespace Job

variable {start job : Job}

/-- A new pipe comes last, and hides no other. -/
theorem createPipe_old {i : Nat} (hi : i < job.pipes.size) (label : String) :
    (job.createPipe label).2.pipes[i]? = job.pipes[i]? := by
  rw [createPipe, pipes_react, Array.getElem?_push, if_neg hi.ne]

theorem createPipe_new (label : String) (job : Job) :
    ∃ p, (job.createPipe label).2.pipes[job.pipes.size]? = some p ∧
      p.name = pipeName label job.pipes.size := by
  refine ⟨(Pipe.create (pipeName label job.pipes.size) job.shell.config.capacity).1, ?_, rfl⟩
  rw [createPipe, pipes_react, Array.getElem?_push, if_pos rfl]
  rfl

/-- Pipes keep their names. -/
theorem Evolves.names {own : Nat → Prop} (h : start.Evolves own job) {i : Nat} {p : Pipe Value}
    (hp : start.pipes[i]? = some p) : ∃ p', job.pipes[i]? = some p' ∧ p'.name = p.name := by
  induction h with
  | refl => exact ⟨p, hp, rfl⟩
  | tail _ hone ih =>
    obtain ⟨p', hp', hname⟩ := ih
    cases hone with
    | @call k q call hq =>
      by_cases hik : i = k
      · subst hik
        obtain rfl : q = p' := Option.some.inj (hq.symm.trans hp')
        exact ⟨_, store_self hq _ _, (Pipe.name_apply call q).trans hname⟩
      · exact ⟨p', (store_other hik _ _ _).trans hp', hname⟩
    | create label =>
      have hi := (Array.getElem?_eq_some_iff.mp hp').1
      exact ⟨p', (createPipe_old hi label).trans hp', hname⟩
    | enter state => exact ⟨p', hp', hname⟩
    | mark number state => exact ⟨p', hp', hname⟩
    | other hpipes =>
      rw [hpipes]
      exact ⟨p', hp', hname⟩

end Job

namespace Pipeline

/-- The pipe of a stage is named after its command. -/
theorem name_startStages (pool : Nat) {stages : List Stage} {previous last : Option Nat}
    {m m' : Machine} (h : startStages (some pool) stages previous m = (.ok last, m')) {i : Nat}
    {stage : Stage} (hi : stages[i]? = some stage) {spec : CommandSpec}
    (hspec : m.job.shell.command? stage.command = some spec) :
    ∃ p, m'.job.pipes[m.job.pipes.size + i]? = some p ∧
      p.name = pipeName spec.name (m.job.pipes.size + i) := by
  induction stages generalizing previous m i with
  | nil => simp at hi
  | cons first stages ih =>
    cases hfirst : m.job.shell.command? first.command with
    | none => simp [startStages, hfirst] at h
    | some spec₁ =>
      rw [startStages_cons hfirst] at h
      obtain ⟨name, records, hjob⟩ := createPipe_linked spec₁.name m.job
      have hadd : (addStage pool spec₁ first.args previous m).job = { m.job with
          pipes := m.job.pipes.push (linked name m.job.shell.config.capacity)
          records := records } := hjob
      cases i with
      | zero =>
        obtain rfl : first = stage := by simpa using hi
        obtain rfl : spec₁ = spec := Option.some.inj (hfirst.symm.trans hspec)
        obtain ⟨p, hp, hname⟩ := Job.createPipe_new spec₁.name m.job
        have hopened : (m.job.createPipe spec₁.name).2.Evolves (fun _ => True)
            (addStage pool spec₁ first.args previous m).job :=
          (Job.evolves_openWrite _).trans (Job.evolves_openRead _)
        have hrest := hopened.trans (evolves_startStages (some pool) stages (some m.job.pipes.size)
          (addStage pool spec₁ first.args previous m))
        rw [h] at hrest
        obtain ⟨p', hp', hname'⟩ := hrest.names hp
        exact ⟨p', hp', hname'.trans hname⟩
      | succ i =>
        have hnext := ih h (by simpa using hi) (by rw [hadd]; exact hspec)
        rw [hadd, Array.size_push] at hnext
        rwa [show m.job.pipes.size + (i + 1) = m.job.pipes.size + 1 + i by omega]

/-- The pipes of a pipeline that has been executed are named after its stages. -/
theorem name_execute {p : Pipeline} {pool last : Nat} {m m' : Machine} (hready : p.Ready m)
    (h : p.execute (some pool) m = (.ok last, p, m')) {i : Nat} {stage : Stage}
    (hi : p.line.stages[i]? = some stage) {spec : CommandSpec}
    (hspec : m.job.shell.command? stage.command = some spec) :
    ∃ q, m'.job.pipes[m.job.pipes.size + i]? = some q ∧
      q.name = pipeName spec.name (m.job.pipes.size + i) := by
  simp only [execute, hready.state, if_true] at h
  split at h
  · simp at h
  · simp at h
  · rename_i last' m₁ hstart
    simp only [Prod.mk.injEq, true_and] at h
    obtain ⟨-, rfl⟩ := h
    obtain ⟨q, hq, hname⟩ := name_startStages pool hstart hi hspec
    have hwatched : m₁.job.Evolves (fun _ => True) _ :=
      Job.evolves_change last' (.onWriteClose p.number) (fun _ => rfl) fun _ _ => trivial
    obtain ⟨q', hq', hname'⟩ := hwatched.names hq
    exact ⟨q', hq', hname'.trans hname⟩

end Pipeline

end Pipework
