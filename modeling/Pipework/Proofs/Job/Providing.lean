import Pipework.Proofs.Job.Core
import Pipework.Proofs.Job.Guarding
import Pipework.Proofs.Job.Traits
import Pipework.Proofs.Pipe.Calls

/-!
# Who lacks no arguments

A command that requires arguments takes them one by one, and an interrupt cuts every taking short.
So whether it finds what it requires depends on what it is told of interrupts on the way. As long as
a stage has not waited, and no interrupt was there when it began, it is told of none and knows what
is left of its arguments.

* `Action.Tells` — what an answer tells somebody who knows so much, or nothing any more;
* `Behavior.Provided` — from what it knows on, the behavior never fails for lack of arguments;
* `Behavior.Blameless` — it never does, whatever it knows.

`Station.run_provided` carries this over a run: a stage that has been run at rest, and waits, lacks
nothing any more, whatever happens to the line while it waits.
-/

namespace Pipework

namespace Action

/-- What an action tells and changes: before it and after it the stage knows its arguments and that
there was no interrupt, or it knows nothing any more. -/
def Tells : {β : Type} → Action β → Option Arguments → β → Option Arguments → Prop
  | _, .level, known, answer, known' => (known.isSome → answer = 0) ∧ known' = known
  | _, .arguments, known, answer, known' => (∀ a ∈ known, answer = a) ∧ known' = known
  | _, .setArguments a, known, _, known' => known' = known.map fun _ => a
  | _, .write _, _, answer, known' => (∀ e, answer = .error e → ¬ e.IsMissing) ∧ known' = none
  | _, .read, _, _, known' | _, .awaitTimer .., _, _, known' | _, .pause _, _, _, known'
  | _, .interrupt _, _, _, known' => known' = none
  | _, _, known, _, known' => known' = known

/-- Who has waited knows nothing, whatever he knew before. -/
theorem Tells.forget {β : Type} {action : Action β} (hwaits : action.Waits)
    {known known' : Option Arguments} {answer : β} (h : action.Tells none answer known') :
    action.Tells known answer known' := by
  cases action with
  | read => exact h
  | write v => exact h
  | awaitTimer id ms => exact h
  | pause ms => exact h
  | _ => exact hwaits.elim

end Action

namespace Behavior

variable {α β σ : Type} {known : Option Arguments}

/-- From what it knows on, the behavior does not fail for lack of arguments, and `Q` holds of its
result and what it knows then. -/
def Provided : {α : Type} → Behavior α → (α → Option Arguments → Prop) → Option Arguments → Prop
  | _, .result a, Q, known => Q a known
  | _, .fail e, _, _ => ¬ e.IsMissing
  | _, .crash, _, _ => True
  | _, .act action next, Q, known =>
      ∀ answer known', action.Tells known answer known' → (next answer).Provided Q known'
  | _, @loop _ σ β x body next, Q, known =>
      ∃ (J : σ → Option Arguments → Prop) (K : β → Option Arguments → Prop), J x known ∧
        (∀ x known, J x known →
          (body x).Provided (fun r known => r.elim (J · known) (K · known)) known) ∧
        ∀ b known, K b known → (next b).Provided Q known

/-- The behavior never fails for lack of arguments. -/
def Blameless (b : Behavior α) : Prop := ∀ known, b.Provided (fun _ _ => True) known

theorem Provided.mono {b : Behavior α} {Q Q' : α → Option Arguments → Prop} (h : b.Provided Q known)
    (hQ : ∀ a known, Q a known → Q' a known) : b.Provided Q' known := by
  induction b generalizing known with
  | result a => exact hQ a known h
  | fail e => exact h
  | crash => trivial
  | act action next ih => exact fun answer known' htells => ih answer (h answer known' htells) hQ
  | loop x body next _ ih =>
    obtain ⟨J, K, hstart, hbody, hnext⟩ := h
    exact ⟨J, K, hstart, hbody, fun b known hb => ih b (hnext b known hb) hQ⟩

theorem Provided.bind {b : Behavior α} {f : α → Behavior β} {Q : α → Option Arguments → Prop}
    {R : β → Option Arguments → Prop} (h : b.Provided Q known)
    (hf : ∀ a known, Q a known → (f a).Provided R known) : (b.bind f).Provided R known := by
  induction b generalizing known with
  | result a => exact hf a known h
  | fail e => exact h
  | crash => trivial
  | act action next ih => exact fun answer known' htells => ih answer (h answer known' htells) hf
  | loop x body next _ ih =>
    obtain ⟨J, K, hstart, hbody, hnext⟩ := h
    exact ⟨J, K, hstart, hbody, fun b known hb => ih b (hnext b known hb) hf⟩

theorem Provided.unfold {x : σ} {body : σ → Behavior (σ ⊕ β)} {next : β → Behavior α}
    {Q : α → Option Arguments → Prop} (h : (Behavior.loop x body next).Provided Q known) :
    (Behavior.unfold x body next).Provided Q known := by
  obtain ⟨J, K, hstart, hbody, hnext⟩ := h
  refine Provided.bind (hbody x known hstart) fun r known hr => ?_
  cases r with
  | inl x => exact ⟨J, K, hr, hbody, hnext⟩
  | inr b => exact hnext b known hr

/-- Blameless behaviors are put together from blameless ones. -/
theorem trait_blameless : Trait Blameless fun _ _ => True where
  result _ _ := trivial
  fail he _ := he
  perform _ _ _ _ _ := trivial
  write v known := by
    rintro answer known' ⟨herror, rfl⟩
    cases answer with
    | ok a => trivial
    | error e => exact herror e rfl
  bind hb hf known := (hb known).bind fun a known _ => hf a known
  forever hbody _ s known := by
    refine ⟨fun _ _ => True, fun _ _ => True, trivial, fun s known _ => ?_, fun _ _ _ => trivial⟩
    refine (hbody s known).mono fun r known _ => ?_
    cases r <;> trivial
  lastResult _ := trivial
  lastBind _ _ := trivial
  lastRead := trivial
  lastUndisturbed := trivial
  lastForever _ := trivial

theorem Blameless.crash : (Behavior.crash : Behavior α).Blameless := fun _ => trivial

end Behavior

/-! ## Running a behavior -/

namespace Station

variable {α β : Type} {st st' : Station} {job job' : Job} {who : Waker} {known : Option Arguments}

/-- What is known is so: nobody has interrupted the line, and these are the arguments. -/
def Knows (st : Station) (job : Job) (known : Option Arguments) : Prop :=
  ∀ a ∈ known, job.level = 0 ∧ st.arguments = a

/-- A write fails for other reasons. -/
theorem tryWrite_error {v : Value} {e : ShellError}
    (h : (st.tryWrite who v job).1 = .ready (.error e)) : ¬ e.IsMissing := by
  have hpipe : ∀ p : Pipe Value, (p.pollWrite who v).1 = .ready (.error e) → ¬ e.IsMissing := by
    intro p hp
    rw [Pipe.pollWrite_eq] at hp
    obtain ⟨-, ho⟩ | ⟨-, -, ho⟩ | ⟨-, -, ⟨_, _, _, -, ho⟩ | ⟨-, -, ho⟩ | ⟨-, -, ho⟩⟩ :=
        p.offer_cases v (some who) <;> rw [ho] at hp <;> cases hp <;> exact id
  have hclosed : ∀ e', (.ready (.error (.alreadyWriteClosed ""))
      : Poll (Except ShellError Unit)) = .ready (.error e') → ¬ e'.IsMissing := by
    rintro _ ⟨⟩
    exact id
  unfold tryWrite Job.query at h
  cases hout : st.output with
  | none => exact hclosed e (by simpa only [hout] using h)
  | some i =>
    cases hp : job.pipes[i]? with
    | none => exact hclosed e (by simpa only [hout, hp] using h)
    | some p => exact hpipe p (by simpa only [hout, hp] using h)

/-- What an answer tells is so. -/
theorem Knows.attempt (h : st.Knows job known) {action : Action β} {answer : β}
    (hanswer : st.attempt who action job = (.ready answer, st', job')) :
    ∃ known', action.Tells known answer known' ∧ st'.Knows job' known' := by
  have hown := (st.own_attempt who action job).2
  have hstanding : action.Meek → (st.attempt who action job).2.2.level = job.level := fun hmeek =>
    congrArg Prod.fst (st.standing_attempt job who hmeek)
  have hnothing : st'.Knows job' none := fun a h => absurd h (Option.not_mem_none a)
  rw [hanswer] at hown hstanding
  have hsame : action.Meek → action.KeepsArguments → st'.Knows job' known := fun hmeek hkeeps a ha =>
    ⟨(hstanding hmeek).trans (h a ha).1, (hown hkeeps).trans (h a ha).2⟩
  cases action with
  | level =>
    obtain ⟨rfl, rfl, rfl⟩ : job.level = answer ∧ st = st' ∧ job = job' := by
      simpa [Station.attempt] using hanswer
    refine ⟨known, ⟨fun hsome => ?_, rfl⟩, h⟩
    obtain ⟨a, ha⟩ := Option.isSome_iff_exists.mp hsome
    exact (h a ha).1
  | arguments =>
    obtain ⟨rfl, rfl, rfl⟩ : st.arguments = answer ∧ st = st' ∧ job = job' := by
      simpa [Station.attempt] using hanswer
    exact ⟨known, ⟨fun a ha => (h a ha).2, rfl⟩, h⟩
  | setArguments a =>
    obtain ⟨rfl, rfl⟩ : { st with arguments := a } = st' ∧ job = job' := by
      simpa [Station.attempt] using hanswer
    refine ⟨_, rfl, fun a' ha' => ?_⟩
    obtain ⟨b, hb, rfl⟩ := Option.mem_map.mp ha'
    exact ⟨(h b hb).1, rfl⟩
  | write v =>
    refine ⟨none, ⟨fun e he => ?_, rfl⟩, hnothing⟩
    exact tryWrite_error ((congrArg Prod.fst hanswer).trans (congrArg Poll.ready he))
  | read => exact ⟨none, rfl, hnothing⟩
  | awaitTimer id ms => exact ⟨none, rfl, hnothing⟩
  | pause ms => exact ⟨none, rfl, hnothing⟩
  | interrupt hard => exact ⟨none, rfl, hnothing⟩
  | _ => exact ⟨known, rfl, hsame trivial trivial⟩

/-- A stage that is run with what it requires does not fail for lack of arguments. If it waits, it
never will. -/
theorem run_provided {fuel : Nat} {b : Behavior α} {Q : α → Option Arguments → Prop}
    {progress : Progress α} (hb : b.Provided Q known) (hknows : st.Knows job known)
    (hrun : st.run fuel who job b = (progress, st', job')) :
    (∀ e, progress = .failed e → ¬ e.IsMissing) ∧
      ∀ rest, progress = .waiting rest → rest.Provided Q none := by
  induction fuel generalizing st job b known with
  | zero =>
    obtain rfl : .unfinished b = progress := (Prod.mk.inj hrun).1
    exact ⟨by simp, by simp⟩
  | succ fuel ih =>
    cases b with
    | result a =>
      obtain rfl : .done a = progress := (Prod.mk.inj hrun).1
      exact ⟨by simp, by simp⟩
    | fail e =>
      obtain rfl : .failed e = progress := (Prod.mk.inj hrun).1
      exact ⟨by rintro _ ⟨⟩; exact hb, by simp⟩
    | crash =>
      obtain rfl : .crashed = progress := (Prod.mk.inj hrun).1
      exact ⟨by simp, by simp⟩
    | loop s body next => exact ih hb.unfold hknows hrun
    | act action next =>
      rcases ha : st.attempt who action job with ⟨_ | answer, st₁, job₁⟩ <;>
        simp only [run, ha] at hrun
      · obtain rfl : .waiting (.act action next) = progress := (Prod.mk.inj hrun).1
        refine ⟨by simp, ?_⟩
        rintro rest ⟨⟩ answer known' htells
        exact hb answer known' (htells.forget (attempt_waits ha).1)
      · obtain ⟨known₁, htells, hknows₁⟩ := hknows.attempt ha
        exact ih (hb answer known₁ htells) hknows₁ hrun

end Station

end Pipework
