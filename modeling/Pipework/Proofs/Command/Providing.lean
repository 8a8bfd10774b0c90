import Pipework.Proofs.Command.Taking
import Pipework.Proofs.Command.Traits
import Pipework.Proofs.Job.Providing

/-!
# Which commands lack arguments

Four commands require arguments, and only these can fail for lack of them. A stage that is at rest and
whose own argument text holds what its command requires (`Command.Supplied`) takes it all without
waiting, so it lacks nothing, then or later (`provided_program`).
-/

namespace Pipework

open Behavior

variable {known : Option Arguments}

namespace Input

variable (o : Input)

/-! ## Required items -/

/-- The items behind the leading groups of flags; nothing if one of the flags is not known. -/
def positional? (items : List Value) : Option (List Value) :=
  match o.flags with
  | none => some items
  | some known => (flagged known.toList items).map (·.2)

/-- The items are enough for what is required, unless an unknown flag comes first. -/
def Supplied (items : List Value) : Prop :=
  ∀ left ∈ o.positional? items, o.required ≤ left.length

instance (items : List Value) : Decidable (o.Supplied items) :=
  inferInstanceAs (Decidable (∀ left ∈ o.positional? items, o.required ≤ left.length))

variable {o}

/-- At rest an item of the argument text is there at once. -/
theorem provided_next {Q : Option Value → Option Arguments → Prop} {v : Value} {queue : List Value}
    {flags : List Char} (h : Q (some v) (some ⟨queue, flags⟩)) :
    o.next.Provided Q (some ⟨v :: queue, flags⟩) := by
  rintro level _ ⟨hlevel, rfl⟩
  obtain rfl := hlevel rfl
  rintro a _ ⟨ha, rfl⟩
  obtain rfl := ha _ rfl
  rintro ⟨⟩ _ rfl
  exact h

/-- At rest so many items are there at once. -/
theorem provided_take {n : Nat} {a : Arguments} (hn : n ≤ a.queue.length) :
    (o.take n).Provided (fun items _ => items.length = n) (some a) := by
  unfold take
  split
  · trivial
  refine ⟨fun x known => x.2.length + x.1 = n ∧ ∃ a, known = some a ∧ x.1 ≤ a.queue.length,
    fun items _ => items.length = n, ⟨Nat.zero_add n, a, rfl, hn⟩, ?_, fun _ _ h => h⟩
  rintro ⟨left, items⟩ _ ⟨hlength, ⟨queue, flags⟩, rfl, hleft⟩
  dsimp only at hlength hleft ⊢
  split
  · rename_i hzero
    show items.reverse.length = n
    rw [List.length_reverse]
    omega
  · cases queue with
    | nil => exact absurd (Nat.le_zero.mp hleft) ‹_›
    | cons v queue =>
      refine Provided.bind (provided_next
        (Q := fun r k => r = some v ∧ k = some ⟨queue, flags⟩) ⟨rfl, rfl⟩) ?_
      rintro _ _ ⟨rfl, rfl⟩
      refine ⟨?_, _, rfl, ?_⟩
      · show items.length + 1 + (left - 1) = n
        omega
      · rw [List.length_cons] at hleft
        show left - 1 ≤ queue.length
        omega

theorem provided_putBack {Q : Unit → Option Arguments → Prop} {v : Value} {queue : List Value}
    {flags : List Char} (h : Q () (some ⟨v :: queue, flags⟩)) :
    (putBack v).Provided Q (some ⟨queue, flags⟩) := by
  rintro a _ ⟨ha, rfl⟩
  obtain rfl := ha _ rfl
  rintro ⟨⟩ _ rfl
  exact h

theorem Supplied.length {items : List Value} (h : o.Supplied items)
    (hitems : o.positional? items = some items) : o.required ≤ items.length := h items hitems

/-- Behind a group of known flags there is as much as before it. -/
theorem Supplied.behind {letters : List Char} {flags : String} {v : Value} {items : List Value}
    (hflags : o.flags = some flags) (hletters : flagLetters? v = some letters)
    (hall : letters.all flags.toList.contains = true) (h : o.Supplied (v :: items)) :
    o.Supplied items := by
  intro left hleft
  refine h left ?_
  simp only [positional?, hflags, Option.mem_def, Option.map_eq_some_iff] at hleft ⊢
  obtain ⟨⟨seen, _⟩, hflagged, rfl⟩ := hleft
  exact ⟨(letters ++ seen, _), by simp [flagged, hletters, hall, hflagged], rfl⟩

/-- The flags are taken at rest, and what is required is still there. -/
theorem provided_readFlags (hpos : 0 < o.required) {a : Arguments} (ha : o.Supplied a.queue) :
    o.readFlags.Provided (fun _ known => ∃ a, known = some a ∧ o.required ≤ a.queue.length)
      (some a) := by
  unfold readFlags
  cases hflags : o.flags with
  | none => exact ⟨a, rfl, ha.length (by simp [positional?, hflags])⟩
  | some flags =>
    refine ⟨fun _ known => ∃ a, known = some a ∧ o.Supplied a.queue,
      fun _ known => ∃ a, known = some a ∧ o.required ≤ a.queue.length, ⟨a, rfl, ha⟩, ?_,
      fun _ _ h => h⟩
    rintro ⟨⟩ _ ⟨⟨queue, seen⟩, rfl, hqueue⟩
    cases queue with
    | nil =>
      have hnone : o.required ≤ 0 := hqueue.length (by simp [positional?, hflags, flagged])
      omega
    | cons v queue =>
      refine Provided.bind (provided_next
        (Q := fun r k => r = some v ∧ k = some ⟨queue, seen⟩) ⟨rfl, rfl⟩) ?_
      rintro _ _ ⟨rfl, rfl⟩
      cases hletters : flagLetters? v with
      | none =>
        simp only [hletters]
        have hlength := hqueue.length (by simp [positional?, hflags, flagged, hletters])
        exact Provided.bind (provided_putBack (Q := fun _ k => k = some ⟨v :: queue, seen⟩) rfl)
          fun _ _ hk => ⟨_, hk, hlength⟩
      | some letters =>
        simp only [hletters]
        rw [← unknownAmong, unknownAmong_isEmpty]
        split
        · rename_i hall
          rintro ⟨⟩ _ rfl b _ ⟨hb, rfl⟩ ⟨⟩ _ rfl
          obtain rfl := hb _ rfl
          exact ⟨_, rfl, hqueue.behind hflags hletters hall⟩
        · exact Provided.bind (trait_blameless.putBack v _) fun _ _ _ => id

/-- What is required is there, and it is taken at rest. -/
theorem provided_require (hpos : 0 < o.required) {a : Arguments} (ha : o.Supplied a.queue) :
    o.require.Provided (fun _ _ => True) (some a) := by
  have htaken : o.readRequired.Provided (fun items _ => items.length = o.required) (some a) := by
    refine (provided_readFlags hpos ha).bind ?_
    rintro ⟨⟩ _ ⟨b, rfl, hb⟩
    exact provided_take hb
  refine htaken.bind fun items known hitems => ?_
  rw [if_neg (by omega)]
  trivial

/-- A command that requires what its argument text holds, and lacks nothing afterwards. -/
theorem provided_openText {β : Type} {hasInput : Bool} {args : Option String} (hpos : 0 < o.required)
    (hargs : o.Supplied ((args.map o.split).getD [])) {f : List Value → Behavior β}
    (hf : ∀ required, (f required).Blameless) (a : Arguments) :
    ((o.openText hasInput args).bind fun _ => o.require.bind f).Provided (fun _ _ => True) (some a) := by
  have hopened : (o.openText hasInput args).Provided
      (fun _ known => known = some { queue := (args.map o.split).getD [] }) (some a) := by
    rintro ⟨⟩ _ rfl ⟨⟩ _ rfl
    rfl
  refine hopened.bind ?_
  rintro ⟨⟩ _ rfl
  exact (provided_require hpos hargs).bind fun required known _ => hf required known

/-! ## After an interrupt -/

section Disturbed

variable {β : Type} {st : Station} {job : Job} {who : Waker}

/-- After an interrupt no item is taken. -/
theorem run_next_disturbed (hlevel : 1 ≤ job.level) (fuel : Nat) (f : Option Value → Behavior β) :
    st.run (fuel + 1) who job (o.next.bind f) = st.run fuel who job (f none) := by
  have hdisturbed : (job.level == 0) = false := beq_false_of_ne (by omega)
  change st.run fuel who job (Behavior.bind (if !(job.level == 0) then _ else _) f) = _
  rw [hdisturbed]
  rfl

/-- A loop that takes an item in each round, and ends without one, ends at once. -/
theorem run_taking_disturbed {σ γ : Type} {s : σ} {body : σ → Behavior (σ ⊕ β)}
    {f : Option Value → Behavior (σ ⊕ β)} {b : β} (hlevel : 1 ≤ job.level)
    (hbody : body s = o.next.bind f) (hnone : f none = .result (.inr b)) (fuel : Nat)
    (g : β → Behavior γ) :
    st.run (fuel + 2) who job ((forever s body).bind g) = st.run fuel who job (g b) := by
  change st.run (fuel + 1) who job ((body s).bind _) = _
  rw [hbody, bind_assoc, run_next_disturbed hlevel, hnone]
  rfl

theorem run_readFlags_disturbed (o : Input) (st : Station) (who : Waker) (hlevel : 1 ≤ job.level)
    (fuel : Nat) (f : Unit → Behavior β) :
    ∃ n, st.run (fuel + n) who job (o.readFlags.bind f) = st.run fuel who job (f ()) := by
  unfold readFlags
  cases o.flags with
  | none => exact ⟨0, rfl⟩
  | some known => exact ⟨2, run_taking_disturbed hlevel rfl rfl fuel f⟩

theorem run_take_disturbed (hlevel : 1 ≤ job.level) {n : Nat} (hpos : 0 < n) (hn : n ≤ maxTake)
    (fuel : Nat) (f : List Value → Behavior β) :
    st.run (fuel + 2) who job ((o.take n).bind f) = st.run fuel who job (f []) := by
  unfold take
  rw [if_neg (by omega)]
  apply run_taking_disturbed hlevel
  · exact if_neg hpos.ne'
  · rfl

/-- After an interrupt no required item is taken, whatever the argument text holds. -/
theorem run_require_disturbed (st : Station) (who : Waker) (hlevel : 1 ≤ job.level) (hpos : 0 < o.required)
    (hrequired : o.required ≤ maxTake) (f : List Value → Behavior β) :
    ∃ fuel, st.run fuel who job (o.require.bind f) =
      (.failed (.missingArgument o.name o.required 0), st, job) := by
  let report (items : List Value) : Behavior (List Value) :=
    if items.length < o.required then .fail (.missingArgument o.name o.required items.length)
    else .result items
  obtain ⟨n, hflags⟩ := run_readFlags_disturbed o st who hlevel 3
    fun _ => ((o.take o.required).bind report).bind f
  refine ⟨3 + n, ?_⟩
  have hrequire : o.require.bind f =
      o.readFlags.bind fun _ => ((o.take o.required).bind report).bind f := by
    rw [← bind_assoc, ← bind_assoc]
    rfl
  rw [hrequire, hflags, bind_assoc, run_take_disturbed hlevel hpos hrequired 1]
  show st.run 1 who job ((report []).bind f) = _
  rw [show report [] = .fail (.missingArgument o.name o.required 0) from if_pos hpos]
  rfl

theorem run_openText (o : Input) (st : Station) (job : Job) (who : Waker) (hasInput : Bool)
    (args : Option String) :
    ∃ (st' : Station) (job' : Job), job'.level = job.level ∧ ∀ fuel (f : Unit → Behavior β),
      st.run (fuel + 2) who job ((o.openText hasInput args).bind f) = st'.run fuel who job' (f ()) :=
  ⟨{ st with arguments := { queue := (args.map o.split).getD [] } },
    job.log .debug "args" s!"{o.name}: queued {((args.map o.split).getD []).length} arg(s), stdin={hasInput}",
    rfl, fun _ _ => rfl⟩

/-- Whoever requires arguments after an interrupt is told that there are none. -/
theorem lacks_require (hlevel : 1 ≤ job.level) (hpos : 0 < o.required) (hrequired : o.required ≤ maxTake)
    (hasInput : Bool) (args : Option String) (f : List Value → Behavior β) :
    ∃ fuel e st' job', e.IsMissing ∧
      st.run fuel who job ((o.openText hasInput args).bind fun _ => o.require.bind f) =
        (.failed e, st', job') := by
  obtain ⟨st', job', hsame, hopen⟩ := run_openText o st job who hasInput args
  obtain ⟨fuel, hrequire⟩ := run_require_disturbed st' who (hsame ▸ hlevel) hpos hrequired f
  exact ⟨fuel + 2, .missingArgument o.name o.required 0, st', job', trivial,
    (hopen fuel _).trans hrequire⟩

end Disturbed

end Input

/-! ## The commands -/

namespace Command

/-- The argument text of a command holds what the command requires. -/
def Supplied (name : String) (args : Option String) : Prop :=
  ∀ o ∈ requiring? name, o.Supplied ((args.map o.split).getD [])

instance (name : String) (args : Option String) : Decidable (Supplied name args) :=
  inferInstanceAs (Decidable (∀ o ∈ requiring? name, o.Supplied ((args.map o.split).getD [])))

/-- A command that is at rest with what it requires never lacks arguments. -/
theorem provided_program {name : String} {program : StageProgram} (h : program? name = some program)
    {hasInput : Bool} {args : Option String} (hargs : Supplied name args) (a : Arguments) :
    (program hasInput args).Provided (fun _ _ => True) (some a) := by
  refine trait_blameless.program (R := fun b => b.Provided (fun _ _ => True) (some a))
    (fun b hb => hb _) h hasInput (fun _ _ _ => ⟨.crash, trivial⟩) fun o ho text htext f hf => ?_
  have hsupplied := hargs o ho
  have hpos : 0 < o.required := by
    unfold requiring? at ho
    split at ho <;> cases ho <;> decide
  obtain rfl : text = args := by
    refine htext.resolve_right fun hnone => ?_
    -- without a text of its own the command would lack an argument
    rw [hnone] at hsupplied
    have hlength : o.required ≤ 0 := by
      refine hsupplied [] ?_
      unfold Input.positional?
      split <;> rfl
    omega
  exact Input.provided_openText hpos hsupplied hf a

/-- A command that requires arguments lacks them if it begins after an interrupt, whatever its
argument text holds. -/
theorem lacks_program {name : String} {o : Input} (h : requiring? name = some o) (st : Station)
    (job : Job) (who : Waker) (hlevel : 1 ≤ job.level) (hasInput : Bool) (args : Option String) :
    ∃ program, program? name = some program ∧ ∃ fuel e st' job', e.IsMissing ∧
      st.run fuel who job (program hasInput args) = (.failed e, st', job') := by
  unfold requiring? at h
  split at h <;> cases h
  · exact ⟨gsub, rfl, Input.lacks_require hlevel (by decide) (by decide) _ _ _⟩
  · exact ⟨grep, rfl, Input.lacks_require hlevel (by decide) (by decide) _ _ _⟩
  · exact ⟨debug, rfl, Input.lacks_require hlevel (by decide) (by decide) _ _ _⟩
  · exact ⟨background, rfl, Input.lacks_require hlevel (by decide) (by decide) _ _ _⟩

end Command

end Pipework
