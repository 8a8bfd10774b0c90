import Pipework.Proofs.Command.Bench

/-!
# Input in order

Whatever an input is asked for, it gives away its items from the front: what the calls have taken so
far, groups of flags included, and then what is left, are together the tokens and after them the items
that the stage before has put into the pipe. `Bench.InOrder` says this of a bench, with what becomes of
items that are refused as flags and what happens at the end; `Bench.input_in_order` proves it of all
that may happen on a bench.
-/

namespace Pipework

namespace Input

variable {o : Input} {s : Sheet} {call : Call} {e : ShellError}

/-! ## What calls take from a list -/

/-- The items that an answer yields. -/
def yielded (answer : Except ShellError (List Value)) : List Value := answer.toOption.getD []

/-- How many items the call yields at most. -/
def Call.limit? (o : Input) : Call → Option Nat
  | .next => some 1
  | .take n => some n
  | .flags => some 0
  | .required => some o.required
  | .rest => none

/-- The items are groups of flags that the input knows. -/
def Groups (o : Input) (groups : List Value) : Prop :=
  ∀ v ∈ groups, ∃ known, o.flags = some known ∧ isGroup known.toList v = true

/-- What a call that is over has taken from the front: these groups of flags, and then the items of its
answer. -/
structure Takes (o : Input) (entry : Call × Except ShellError (List Value)) (groups : List Value) :
    Prop where
  known : o.Groups groups
  /-- Only these calls read flags. -/
  reads : groups ≠ [] → entry.1 = .flags ∨ entry.1 = .required
  limit : ∀ n ∈ entry.1.limit? o, (yielded entry.2).length ≤ n

/-- All that calls have taken, in this order: the groups of flags stand where they have been taken. -/
def taken (entries : List (Call × Except ShellError (List Value))) (groups : List (List Value)) :
    List Value :=
  (entries.zipWith (fun entry groups => groups ++ yielded entry.2) groups).flatten

theorem takeFlags_items (o : Input) (s : Sheet) :
    ∃ groups, o.Groups groups ∧ s.items = groups ++ (o.takeFlags s).2.items ∧
      (o.takeFlags s).2.flags = s.flags ++ lettersOf groups := by
  cases hflags : o.flags with
  | none =>
    refine ⟨[], by simp [Groups], ?_, ?_⟩
    · simp only [takeFlags, hflags, List.nil_append]
    · simp [takeFlags, hflags, lettersOf]
  | some known =>
    refine ⟨s.items.takeWhile (isGroup known.toList), fun v hv => ⟨known, hflags, ?_⟩, ?_, ?_⟩
    · exact List.mem_takeWhile_imp hv
    · simp only [takeFlags, hflags, List.takeWhile_append_dropWhile]
    · simp only [takeFlags, hflags]

/-- **A call takes what it takes from the front.** -/
theorem effect_items (hflat : o.flattens = false) (s : Sheet) (call : Call) :
    ∃ groups, o.Takes (call, (call.effect o s).1) groups ∧
      s.items = groups ++ yielded (call.effect o s).1 ++ (call.effect o s).2.items ∧
      (call.effect o s).2.flags = s.flags ++ lettersOf groups := by
  have hnone : o.Groups [] := by simp [Groups]
  cases call with
  | next =>
    refine ⟨[], ⟨hnone, by simp, ?_⟩, (List.take_append_drop 1 s.items).symm, by
      simp [Call.effect, Sheet.drop, lettersOf]⟩
    simp [Call.limit?, Call.effect, yielded, Except.toOption]
  | take n =>
    refine ⟨[], ⟨hnone, by simp, ?_⟩, (List.take_append_drop n s.items).symm, by
      simp [Call.effect, Sheet.drop, lettersOf]⟩
    simp [Call.limit?, Call.effect, yielded, Except.toOption]
  | flags =>
    obtain ⟨groups, hgroups, hitems, hletters⟩ := o.takeFlags_items s
    refine ⟨groups, ?_⟩
    simp only [Call.effect]
    rcases htake : o.takeFlags s with ⟨e | u, s'⟩ <;> rw [htake] at hitems hletters
    · exact ⟨⟨hgroups, fun _ => .inl rfl, by simp [Call.limit?, yielded, Except.toOption]⟩,
        by simpa [yielded, Except.toOption] using hitems, hletters⟩
    · exact ⟨⟨hgroups, fun _ => .inl rfl, by simp [Call.limit?, yielded, Except.toOption]⟩,
        by simpa [yielded, Except.toOption] using hitems, hletters⟩
  | required =>
    obtain ⟨groups, hgroups, hitems, hletters⟩ := o.takeFlags_items s
    refine ⟨groups, ?_⟩
    simp only [Call.effect]
    rcases htake : o.takeFlags s with ⟨e | u, s'⟩ <;> rw [htake] at hitems hletters
    · exact ⟨⟨hgroups, fun _ => .inr rfl, by simp [Call.limit?, yielded, Except.toOption]⟩,
        by simpa [yielded, Except.toOption] using hitems, hletters⟩
    · refine ⟨⟨hgroups, fun _ => .inr rfl, by simp [Call.limit?, yielded, Except.toOption]⟩, ?_,
        hletters⟩
      rw [List.append_assoc]
      exact hitems.trans (congrArg (groups ++ ·) (List.take_append_drop o.required s'.items).symm)
  | rest =>
    refine ⟨[], ⟨hnone, by simp, by simp [Call.limit?]⟩, ?_, by simp [Call.effect, lettersOf]⟩
    simp [Call.effect, hflat, yielded, Except.toOption]

/-- **So do several calls, one after another.** -/
theorem answers_items (hflat : o.flattens = false) (s : Sheet) (calls : List Call) :
    ∃ groups, List.Forall₂ o.Takes (o.answers s calls) groups ∧
      s.items = taken (o.answers s calls) groups ++ (o.after s calls).items ∧
      (o.after s calls).flags = s.flags ++ lettersOf groups.flatten := by
  induction calls generalizing s with
  | nil => exact ⟨[], .nil, rfl, by simp [after, lettersOf]⟩
  | cons call calls ih =>
    obtain ⟨first, htakes, hitems, hletters⟩ := effect_items hflat s call
    obtain ⟨groups, hall, hrest, hflags⟩ := ih (call.effect o s).2
    refine ⟨first :: groups, .cons htakes hall, ?_, ?_⟩
    · rw [hitems, hrest, ← List.append_assoc]
      rfl
    · refine hflags.trans ?_
      simp [hletters, lettersOf]

/-! ## Refused flags, and the end -/

theorem takeFlags_error {s' : Sheet} (h : o.takeFlags s = (.error e, s')) :
    ∃ known v items, o.flags = some known ∧ s'.items = v :: items ∧
      refusal? known.toList v = some e := by
  cases hflags : o.flags with
  | none => simp [takeFlags, hflags] at h
  | some known =>
    simp only [takeFlags, hflags] at h
    obtain ⟨hanswer, rfl⟩ := Prod.mk.inj h
    cases hitems : s.items.dropWhile (isGroup known.toList) with
    | nil => simp [flagsAnswer, hitems] at hanswer
    | cons v items =>
      rw [hitems] at hanswer
      cases hrefused : refusal? known.toList v with
      | none => simp [flagsAnswer, hrefused] at hanswer
      | some e' =>
        obtain rfl : e' = e := by simpa [flagsAnswer, hrefused] using hanswer
        exact ⟨known, v, items, rfl, rfl, hrefused⟩

/-- Only the flags can be at fault, and the item at fault stays in front. -/
theorem effect_error (h : (call.effect o s).1 = .error e) :
    (call = .flags ∨ call = .required) ∧ ∃ known v items, o.flags = some known ∧
      (call.effect o s).2.items = v :: items ∧ refusal? known.toList v = some e := by
  cases call with
  | next | take | rest => simp [Call.effect] at h
  | flags =>
    refine ⟨.inl rfl, ?_⟩
    simp only [Call.effect] at h ⊢
    rcases htake : o.takeFlags s with ⟨e' | u, s'⟩ <;> rw [htake] at h
    · obtain rfl : e' = e := by simpa using h
      exact takeFlags_error htake
    · simp at h
  | required =>
    refine ⟨.inr rfl, ?_⟩
    simp only [Call.effect] at h ⊢
    rcases htake : o.takeFlags s with ⟨e' | u, s'⟩ <;> rw [htake] at h
    · obtain rfl : e' = e := by simpa using h
      exact takeFlags_error htake
    · simp at h

/-- A call that yields fewer items than it might has come to the end. -/
theorem effect_short {items : List Value} (h : (call.effect o s).1 = .ok items)
    (hshort : ∀ n ∈ call.limit? o, items.length < n) : (call.effect o s).2.items = [] := by
  have hdrop : ∀ n (left : List Value), (left.take n).length < n → left.drop n = [] := by
    intro n left hlength
    rw [List.length_take] at hlength
    exact List.drop_eq_nil_of_le (by omega)
  cases call with
  | next =>
    obtain rfl : s.items.take 1 = items := by simpa [Call.effect] using h
    exact hdrop 1 _ (hshort 1 rfl)
  | take n =>
    obtain rfl : s.items.take n = items := by simpa [Call.effect] using h
    exact hdrop n _ (hshort n rfl)
  | flags => exact absurd (hshort 0 rfl) (by omega)
  | required =>
    simp only [Call.effect] at h ⊢
    rcases htake : o.takeFlags s with ⟨e | u, s'⟩ <;> rw [htake] at h
    · simp at h
    · obtain rfl : s'.items.take o.required = items := by simpa using h
      exact hdrop _ _ (hshort _ rfl)
  | rest => rfl

theorem takeFlags_nil (hs : s.items = []) :
    (o.takeFlags s).1 = .ok () ∧ (o.takeFlags s).2.items = [] := by
  cases hflags : o.flags with
  | none => simp [takeFlags, hflags, hs]
  | some known => simp [takeFlags, hflags, hs, flagsAnswer]

/-- Nothing comes of nothing. -/
theorem effect_nil (hs : s.items = []) (call : Call) :
    (call.effect o s).1 = .ok [] ∧ (call.effect o s).2.items = [] := by
  obtain ⟨hanswer, hitems⟩ := takeFlags_nil (o := o) hs
  cases call with
  | next | take => simp [Call.effect, Sheet.drop, hs]
  | rest => simp [Call.effect, hs, flatten]
  | flags | required =>
    simp only [Call.effect]
    rcases htake : o.takeFlags s with ⟨e | u, s'⟩ <;> rw [htake] at hanswer hitems
    · simp at hanswer
    · simp [Sheet.drop, show s'.items = [] from hitems]

theorem answers_nil (hs : s.items = []) (calls : List Call) :
    ∀ entry ∈ o.answers s calls, entry.2 = .ok [] := by
  induction calls generalizing s with
  | nil => simp [answers]
  | cons call calls ih =>
    obtain ⟨hanswer, hitems⟩ := effect_nil (o := o) hs call
    simp only [answers, List.forall_mem_cons]
    exact ⟨hanswer, ih hitems⟩

/-- One of several calls, with those before and after it. -/
theorem answers_split {before after : List (Call × Except ShellError (List Value))}
    {answer : Except ShellError (List Value)}
    (h : before ++ (call, answer) :: after =
      o.answers s ((before ++ (call, answer) :: after).map (·.1))) :
    answer = (call.effect o (o.after s (before.map (·.1)))).1 ∧
      after = o.answers (call.effect o (o.after s (before.map (·.1)))).2 (after.map (·.1)) := by
  rw [List.map_append, Bench.answers_append] at h
  have hlength : ∀ (s : Sheet) (calls : List Call), (o.answers s calls).length = calls.length := by
    intro s calls
    induction calls generalizing s with
    | nil => rfl
    | cons call calls ih => exact congrArg (· + 1) (ih _)
  -- both sides have as many answers before that of the call
  obtain ⟨-, htail⟩ := List.append_inj h (by rw [hlength, List.length_map])
  obtain ⟨hentry, hafter⟩ := List.cons.inj htail
  exact ⟨(Prod.mk.inj hentry).2, hafter⟩

end Input

namespace Bench

open Input

variable {o : Input} {tokens coming : List Value} {b b' b'' : Bench} {st : Station} {job : Job}
  {moves more : List Move}

/-! ## What moves keep -/

/-- What may become of a bench: more calls are over, and more items have been put in, if the pipe was
open. -/
structure Follows (b b' : Bench) : Prop where
  settled : ∃ later, b'.settled = b.settled ++ later
  given : ∃ sent, b'.given = b.given ++ sent ∧ (sent ≠ [] → b.station.Open b.job)
  opens : b'.station.Open b'.job → b.station.Open b.job

theorem Follows.refl (b : Bench) : Follows b b :=
  ⟨⟨[], (List.append_nil _).symm⟩, ⟨[], (List.append_nil _).symm, fun h => absurd rfl h⟩, id⟩

theorem Follows.trans (h : Follows b b') (h' : Follows b' b'') : Follows b b'' := by
  obtain ⟨⟨later, hlater⟩, ⟨sent, hsent, hopen⟩, hopens⟩ := h
  obtain ⟨⟨later', hlater'⟩, ⟨sent', hsent', hopen'⟩, hopens'⟩ := h'
  refine ⟨⟨later ++ later', by rw [hlater', hlater, List.append_assoc]⟩,
    ⟨sent ++ sent', by rw [hsent', hsent, List.append_assoc], fun hne => ?_⟩, hopens ∘ hopens'⟩
  -- what is sent later needs a pipe that is open then, and so has been open before
  by_cases hnone : sent = []
  · exact hopens (hopen' (by simpa [hnone] using hne))
  · exact hopen hnone

/-- What a poll does: nothing is put in, and the call under way is over, or it is still under way. -/
structure Polled (call : Call) (b b' : Bench) : Prop where
  given : b'.given = b.given
  opens : b'.station.Open b'.job → b.station.Open b.job
  call : (b'.underway = none ∧ ∃ answer, b'.settled = b.settled ++ [(call, answer)]) ∨
    ∃ rest, b'.underway = some (call, rest) ∧ b'.settled = b.settled

theorem Polled.follows {call : Call} (h : Polled call b b') : Follows b b' where
  settled := by
    obtain ⟨-, answer, hsettled⟩ | ⟨_, -, hsettled⟩ := h.call
    · exact ⟨_, hsettled⟩
    · exact ⟨[], by rw [hsettled, List.append_nil]⟩
  given := ⟨[], by rw [h.given, List.append_nil], fun hne => absurd rfl hne⟩
  opens := h.opens

/-- With enough steps the call is over, or it waits. -/
theorem Faithful.polls (h : Faithful o tokens b) {call : Call} {rest : Behavior (List Value)}
    (hunderway : b.underway = some (call, rest)) :
    ∃ n, ∀ fuel who, Polled call b (b.step o (.poll fuel who)) ∧
      (n ≤ fuel → (b.step o (.poll fuel who)).underway = none ∨
        (b.step o (.poll fuel who)).station.Parked (b.step o (.poll fuel who)).job) := by
  obtain ⟨n, _, -, hagrees⟩ := h.agrees hunderway (.inr rfl)
  refine ⟨n, fun fuel who => ?_⟩
  obtain ⟨hnow, hover⟩ := hagrees fuel who
  simp only [Bench.step, hunderway]
  rcases hrun : b.station.run fuel who b.job rest with ⟨items | e | _ | rest' | rest', st', job'⟩ <;>
    rw [hrun] at hnow
  · exact ⟨⟨rfl, hnow.2.1.opens, .inl ⟨rfl, _, rfl⟩⟩, fun _ => .inl rfl⟩
  · exact ⟨⟨rfl, hnow.2.1.opens, .inl ⟨rfl, _, rfl⟩⟩, fun _ => .inl rfl⟩
  · exact hnow.elim
  · obtain ⟨_, _, hkeeps, -, hparked⟩ := hnow
    exact ⟨⟨rfl, hkeeps.opens, .inr ⟨rest', rfl, rfl⟩⟩, fun _ => .inr hparked⟩
  · obtain ⟨_, _, hkeeps, -⟩ := hnow
    exact ⟨⟨rfl, hkeeps.opens, .inr ⟨rest', rfl, rfl⟩⟩, fun hfuel => absurd hrun (hover hfuel _ _ _)⟩

theorem Faithful.follows_supply (h : Faithful o tokens b)
    {f : Pipe Value → List Value × Pipe Value × List Pipe.Event} (hf : Supplying f) :
    Follows b (b.supply f) := by
  unfold Bench.supply
  cases hinput : b.station.input with
  | none => exact .refl b
  | some i =>
    cases hp : b.job.pipes[i]? with
    | none => simpa [Job.query, hp] using Follows.refl b
    | some p =>
      simp only [Job.query_eq hp]
      obtain ⟨-, _, hseated, -⟩ := h.answered [] (.inr rfl)
      obtain ⟨source, hfed, -, -⟩ := hseated.input
      have hopens := hfed.open_of_supplied (f p).2.2 hinput hp (hf p)
      exact ⟨(Follows.refl b).settled, ⟨(f p).1, rfl, fun hsent => hopens (.inr hsent)⟩,
        fun hopen => hopens (.inl hopen)⟩

theorem Faithful.follows_step (h : Faithful o tokens b) (move : Move) :
    Follows b (b.step o move) := by
  cases move with
  | call call =>
    simp only [Bench.step]
    split
    · exact ⟨(Follows.refl b).settled, (Follows.refl b).given, id⟩
    · exact .refl b
  | poll fuel who =>
    cases hunderway : b.underway with
    | none =>
      simp only [Bench.step, hunderway]
      exact .refl b
    | some underway =>
      obtain ⟨n, hpolls⟩ := h.polls hunderway
      exact (hpolls fuel who).1.follows
  | write v => exact h.follows_supply (supplying_write v)
  | pollWrite who v => exact h.follows_supply (supplying_pollWrite who v)
  | openWrite => exact h.follows_supply supplying_openWrite
  | closeWrite => exact h.follows_supply supplying_closeWrite

theorem Faithful.follows_run (h : Faithful o tokens b) (hfit : ∀ move ∈ moves, move.Fits o) :
    Follows b (b.run o moves) := by
  induction moves generalizing b with
  | nil => exact .refl b
  | cons move moves ih =>
    rw [List.forall_mem_cons] at hfit
    exact (h.follows_step move).trans (ih (h.step hfit.1) hfit.2)

theorem fits_of_ne_call {move : Move} (hmove : ∀ call, move ≠ .call call) : move.Fits o := by
  cases move with
  | call call => exact absurd rfl (hmove call)
  | _ => trivial

/-- The calls that have been made. -/
def calls (b : Bench) : List Call := b.settled.map (·.1) ++ (b.underway.map (·.1)).toList

theorem Faithful.calls_step (h : Faithful o tokens b) {move : Move}
    (hmove : ∀ call, move ≠ .call call) : (b.step o move).calls = b.calls := by
  have hsupply : ∀ f, (b.supply f).calls = b.calls := by
    intro f
    unfold Bench.supply
    split <;> rfl
  cases move with
  | call call => exact absurd rfl (hmove call)
  | poll fuel who =>
    cases hunderway : b.underway with
    | none => simp only [Bench.step, hunderway]
    | some underway =>
      obtain ⟨n, hpolls⟩ := h.polls hunderway
      obtain ⟨hover, answer, hsettled⟩ | ⟨rest, hrest, hsettled⟩ := (hpolls fuel who).1.call
      · simp [calls, hover, hsettled, hunderway]
      · simp [calls, hrest, hsettled, hunderway]
  | write | pollWrite | openWrite | closeWrite => exact hsupply _

/-- Only a call makes a call. -/
theorem Faithful.calls_run (h : Faithful o tokens b) (hmore : ∀ call, .call call ∉ more) :
    (b.run o more).calls = b.calls := by
  induction more generalizing b with
  | nil => rfl
  | cons move more ih =>
    have hmove : ∀ call, move ≠ .call call := fun call hcall => hmore call (hcall ▸ List.mem_cons_self)
    have hstep : Faithful o tokens (b.step o move) := h.step (fits_of_ne_call hmove)
    calc ((b.step o move).run o more).calls
        = (b.step o move).calls := ih hstep fun call hcall => hmore call (List.mem_cons_of_mem _ hcall)
      _ = b.calls := h.calls_step hmove

/-! ## Between two calls -/

/-- What the calls have left of the list is what is there to take, and what is still to come. -/
theorem Faithful.idle (h : Faithful o tokens b) (hidle : b.underway = none)
    (hcoming : b.station.Open b.job ∨ coming = []) :
    b.leftSheet o tokens coming =
      { flags := b.station.arguments.flags, items := b.left o ++ coming.map o.received } := by
  obtain ⟨-, d, hseated, hstands⟩ := h.answered coming hcoming
  simp only [Stands, hidle] at hstands
  obtain ⟨⟨hflags, hitems⟩, -⟩ := hstands
  rw [hseated.getD_input hcoming, hseated.arguments, List.map_append, ← List.append_assoc] at hitems
  rw [hseated.arguments] at hflags
  exact congrArg₂ Sheet.mk hflags.symm hitems.symm

/-- One call has been made between two moments at which no call was under way. It has had its effect on
what was there at first and has been put in since; and so it would be with more items to come. -/
theorem Faithful.called {call : Call} (h : Faithful o tokens b) (hidle : b.underway = none)
    (h' : Faithful o tokens b') (hidle' : b'.underway = none) (hfollows : Follows b b')
    (hcalls : b'.calls = b.calls ++ [call]) :
    ∃ answer sent, b'.settled = b.settled ++ [(call, answer)] ∧ b'.given = b.given ++ sent ∧
      ∀ coming, b'.station.Open b'.job ∨ coming = [] →
        call.effect o { flags := b.station.arguments.flags
                        items := b.left o ++ (sent ++ coming).map o.received } =
          (answer, { flags := b'.station.arguments.flags
                     items := b'.left o ++ coming.map o.received }) := by
  obtain ⟨⟨later, hlater⟩, ⟨sent, hgiven, hsent⟩, hopens⟩ := hfollows
  -- this call is the only one that is over since
  obtain ⟨answer, rfl⟩ : ∃ answer, later = [(call, answer)] := by
    simp only [calls, hidle, hidle', hlater, List.map_append, Option.map_none, Option.toList_none,
      List.append_nil, List.append_cancel_left_eq] at hcalls
    obtain ⟨⟨_, answer⟩, rfl, rfl⟩ := List.map_eq_singleton_iff.mp hcalls
    exact ⟨answer, rfl⟩
  refine ⟨answer, sent, hlater, hgiven, fun coming hcoming => ?_⟩
  have hbefore : b.station.Open b.job ∨ sent ++ coming = [] := by
    by_cases hnone : sent = []
    · exact hcoming.imp hopens fun hcoming => by rw [hnone, hcoming]; rfl
    · exact .inl (hsent hnone)
  have hsheet : b'.sheet o tokens coming = b.sheet o tokens (sent ++ coming) := by
    rw [sheet, sheet, hgiven, List.append_assoc]
  have hleft : b'.leftSheet o tokens coming =
      (call.effect o (b.leftSheet o tokens (sent ++ coming))).2 := by
    rw [leftSheet, hsheet, hlater, List.map_append, List.map_singleton, after_concat]
    rfl
  obtain ⟨hanswers, -⟩ := h'.answered coming hcoming
  rw [hsheet, hlater] at hanswers
  obtain ⟨hanswer, -⟩ := answers_split hanswers
  rw [← leftSheet, h.idle hidle hbefore] at hanswer
  rw [h'.idle hidle' hcoming, h.idle hidle hbefore] at hleft
  exact Prod.ext hanswer.symm hleft.symm

/-- The input is exhausted exactly if there is nothing to take and nothing can come. -/
theorem Faithful.exhausted_iff (h : Faithful o tokens b) (hidle : b.underway = none) :
    Input.exhausted b.station b.job = true ↔ b.left o = [] ∧ ¬ b.station.Open b.job := by
  obtain ⟨-, d, hseated, hstands⟩ := h.answered [] (.inr rfl)
  simp only [Stands, hidle] at hstands
  obtain ⟨source, hfed, -, -⟩ := hseated.input
  have hopen : b.station.Open b.job ↔ ∃ p, source = some p ∧ p.writeClosed = false := by
    constructor
    · rintro ⟨p, hp, hwrite⟩
      exact ⟨p, hfed.unique hp, hwrite⟩
    · rintro ⟨p, rfl, hwrite⟩
      exact ⟨p, hfed, hwrite⟩
  rw [hopen, Input.exhausted, Bench.left, hfed.stock]
  cases hfed with
  | absent hinput => simp [Station.orAbsent, hinput]
  | shut hinput hp hclosed => simp [Station.orAbsent, hinput, hp, hclosed]
  | @opened i p hinput hp hclosed hsingle hreading htickets =>
    -- no read has been begun, so none has been answered
    have hanswered : p.answered = [] := by
      rw [hstands.2] at htickets
      simpa [Pipe.tickets, ReadState.ticket?] using (List.append_eq_nil_iff.mp htickets).2
    simp [Station.orAbsent, hinput, hp, hclosed, Pipe.stock, hanswered, and_comm, and_left_comm]

/-! ## The order -/

/-- What is found on a bench whose input began with these tokens. -/
structure InOrder (o : Input) (tokens : List Value) (b : Bench) : Prop where
  crashed : b.crashed = false
  /-- What the calls have taken, and then what is left, are the tokens and then the items of the other
  side, each as it is received. The flags seen are the letters of the groups taken. -/
  items : b.underway = none → ∃ groups, List.Forall₂ o.Takes b.settled groups ∧
    taken b.settled groups ++ b.left o = tokens ++ b.given.map o.received ∧
    b.station.arguments.flags = lettersOf groups.flatten
  /-- Only the flags can be at fault. The item at fault is next then. -/
  refused : ∀ before call e later, b.settled = before ++ (call, .error e) :: later →
    (call = .flags ∨ call = .required) ∧
      ∃ known v, o.flags = some known ∧ refusal? known.toList v = some e ∧
        (later = [] → b.underway = none → (b.left o).head? = some v) ∧
        ∀ answer last, later = (.next, answer) :: last → answer = .ok [v]
  /-- Only the end makes a call yield fewer items than it might. -/
  short : ∀ before call items, b.settled = before ++ [(call, .ok items)] →
    (∀ n ∈ call.limit? o, items.length < n) → b.underway = none →
    b.left o = [] ∧ Input.exhausted b.station b.job = true
  /-- From the end on there is nothing more, and no call has to wait. -/
  exhausted : b.underway = none → Input.exhausted b.station b.job = true →
    ∀ more, (∀ move ∈ more, Move.Fits o move) → (b.run o more).given = b.given ∧
      (∃ later, (b.run o more).settled = b.settled ++ later ∧ ∀ entry ∈ later, entry.2 = .ok []) ∧
      ¬ (b.run o more).station.Parked (b.run o more).job
  /-- Polled with enough steps, a call comes to an end, or it waits for the other side. -/
  progress : ∃ n, ∀ fuel who, n ≤ fuel → (b.step o (.poll fuel who)).underway = none ∨
    (b.step o (.poll fuel who)).station.Parked (b.step o (.poll fuel who)).job

theorem Faithful.items (h : Faithful o tokens b) (hflat : o.flattens = false)
    (hidle : b.underway = none) : ∃ groups, List.Forall₂ o.Takes b.settled groups ∧
      taken b.settled groups ++ b.left o = tokens ++ b.given.map o.received ∧
      b.station.arguments.flags = lettersOf groups.flatten := by
  obtain ⟨hanswers, -⟩ := h.answered [] (.inr rfl)
  have hleft := h.idle hidle (.inr rfl)
  obtain ⟨groups, htakes, hitems, hletters⟩ :=
    answers_items hflat (b.sheet o tokens []) (b.settled.map (·.1))
  rw [← hanswers] at htakes hitems
  refine ⟨groups, htakes, ?_, (congrArg Sheet.flags hleft).symm.trans hletters⟩
  calc taken b.settled groups ++ b.left o
      = taken b.settled groups ++ (b.leftSheet o tokens []).items := by
        rw [hleft, List.map_nil, List.append_nil]
    _ = (b.sheet o tokens []).items := hitems.symm
    _ = tokens ++ b.given.map o.received := by rw [Bench.sheet, List.append_nil]

theorem Faithful.refused (h : Faithful o tokens b)
    {before later : List (Call × Except ShellError (List Value))} {call : Call} {e : ShellError}
    (hsettled : b.settled = before ++ (call, .error e) :: later) :
    (call = .flags ∨ call = .required) ∧
      ∃ known v, o.flags = some known ∧ refusal? known.toList v = some e ∧
        (later = [] → b.underway = none → (b.left o).head? = some v) ∧
        ∀ answer last, later = (.next, answer) :: last → answer = .ok [v] := by
  obtain ⟨hanswers, -⟩ := h.answered [] (.inr rfl)
  rw [hsettled] at hanswers
  obtain ⟨hanswer, hlater⟩ := answers_split hanswers
  obtain ⟨hcall, known, v, items, hknown, hitems, hrefusal⟩ := effect_error hanswer.symm
  refine ⟨hcall, known, v, hknown, hrefusal, fun hlast hidle => ?_, fun answer last hnext => ?_⟩
  · have hleft := congrArg Sheet.items (h.idle hidle (.inr rfl))
    rw [Bench.leftSheet, hsettled, hlast, List.map_append, List.map_singleton, after_concat,
      hitems] at hleft
    simpa using (congrArg List.head? hleft).symm
  · rw [hnext] at hlater
    obtain ⟨hentry, -⟩ := List.cons.inj hlater
    refine (Prod.mk.inj hentry).2.trans ?_
    show Except.ok ((call.effect o _).2.items.take 1) = .ok [v]
    rw [hitems]
    rfl

theorem Faithful.short (h : Faithful o tokens b)
    {before : List (Call × Except ShellError (List Value))} {call : Call} {items : List Value}
    (hsettled : b.settled = before ++ [(call, .ok items)])
    (hshort : ∀ n ∈ call.limit? o, items.length < n) (hidle : b.underway = none) :
    b.left o = [] ∧ Input.exhausted b.station b.job = true := by
  -- the call has left nothing, whatever was to come
  have hnone : ∀ coming, b.station.Open b.job ∨ coming = [] →
      b.left o ++ coming.map o.received = [] := by
    intro coming hcoming
    obtain ⟨hanswers, -⟩ := h.answered coming hcoming
    rw [hsettled] at hanswers
    obtain ⟨hanswer, -⟩ := answers_split hanswers
    have hleft := congrArg Sheet.items (h.idle hidle hcoming)
    rw [Bench.leftSheet, hsettled, List.map_append, List.map_singleton, after_concat,
      effect_short hanswer.symm hshort] at hleft
    exact hleft.symm
  have hleft : b.left o = [] := by simpa using hnone [] (.inr rfl)
  refine ⟨hleft, (h.exhausted_iff hidle).mpr ⟨hleft, fun hopen => ?_⟩⟩
  -- an item that comes would have been left
  simpa using hnone [.list []] (.inl hopen)

theorem Faithful.exhausted (h : Faithful o tokens b) (hidle : b.underway = none)
    (hexhausted : Input.exhausted b.station b.job = true) {more : List Move}
    (hfit : ∀ move ∈ more, move.Fits o) :
    (b.run o more).given = b.given ∧
      (∃ later, (b.run o more).settled = b.settled ++ later ∧ ∀ entry ∈ later, entry.2 = .ok []) ∧
      ¬ (b.run o more).station.Parked (b.run o more).job := by
  obtain ⟨hleft, hclosed⟩ := (h.exhausted_iff hidle).mp hexhausted
  obtain ⟨⟨later, hlater⟩, ⟨sent, hgiven, hsent⟩, hopens⟩ := h.follows_run hfit
  -- nothing is put in any more, so the list of the calls stays what it is
  obtain rfl : sent = [] := by_contra fun hne => hclosed (hsent hne)
  have hsheet : (b.run o more).sheet o tokens [] = b.sheet o tokens [] := by
    rw [Bench.sheet, Bench.sheet, hgiven, List.append_nil]
  obtain ⟨hanswers, -⟩ := (h.run hfit).answered [] (.inr rfl)
  obtain ⟨hbefore, -⟩ := h.answered [] (.inr rfl)
  rw [hsheet, hlater, List.map_append, answers_append, ← hbefore] at hanswers
  have hnothing : (b.leftSheet o tokens []).items = [] := by
    rw [h.idle hidle (.inr rfl), hleft]
    rfl
  refine ⟨by rw [hgiven, List.append_nil], ⟨later, hlater, ?_⟩, ?_⟩
  · rw [List.append_cancel_left hanswers]
    exact answers_nil hnothing _
  · rintro ⟨p, hfed, -, hwrite⟩
    exact hclosed (hopens ⟨p, hfed, hwrite⟩)

theorem Faithful.progress (h : Faithful o tokens b) :
    ∃ n, ∀ fuel who, n ≤ fuel → (b.step o (.poll fuel who)).underway = none ∨
      (b.step o (.poll fuel who)).station.Parked (b.step o (.poll fuel who)).job := by
  cases hunderway : b.underway with
  | none => exact ⟨0, fun fuel who _ => .inl (by simp only [Bench.step, hunderway])⟩
  | some underway =>
    obtain ⟨n, hpolls⟩ := h.polls hunderway
    exact ⟨n, fun fuel who hfuel => (hpolls fuel who).2 hfuel⟩

/-- **Input is given away in order.** An input that does not take lists apart begins with these tokens,
and then calls, polls and writes come as they like; but no call asks for more items than can be
addressed. -/
theorem input_in_order (hflat : o.flattens = false) (hst : Ready st job) (tokens : List Value)
    (hfit : ∀ move ∈ moves, move.Fits o) : InOrder o tokens ((start o st job tokens).run o moves) :=
  have h := (faithful_start hst tokens).run hfit
  { crashed := h.crashed
    items := h.items hflat
    refused := fun _ _ _ _ hsettled => h.refused hsettled
    short := fun _ _ _ hsettled hshort hidle => h.short hsettled hshort hidle
    exhausted := fun hidle hexhausted _ hmore => h.exhausted hidle hexhausted hmore
    progress := h.progress }

set_option maxRecDepth 4000 in
/-- Flags are read from the tokens on into the pipe, where one is not known. It is put back and is the
next item, before what has been written since. -/
theorem input_in_order_boundary :
    let o : Input := { name := "grep", flags := some "gi" }
    let job : Job :=
      { shell := {}, pipes := #[(Pipe.create "p" 1).1.openRead.1.openWrite.1] }
    let moves : List Move :=
      [.call .flags, .poll 99 .nobody, .write (.text "-x"), .poll 99 .nobody, .write (.text "a"),
        .call .next, .poll 99 .nobody, .closeWrite, .call .rest, .poll 99 .nobody]
    let b := (start o { input := some 0 } job [.text "-g"]).run o moves
    (∀ move ∈ moves, move.Fits o) ∧
      b.settled = [(.flags, .error (.invalidArgument "unrecognized flags: x")),
        (.next, .ok [.text "-x"]), (.rest, .ok [.text "a"])] ∧
      InOrder o [.text "-g"] b :=
  ⟨by decide, by cbv, input_in_order rfl (ready_opened "p" 1 {}) [.text "-g"] (by decide)⟩

/-- A call for more items than can be addressed ends the program, whatever there is to take. -/
theorem crashed_of_take (o : Input) (st : Station) (job : Job) (tokens : List Value) {n : Nat}
    (hn : maxTake < n) (fuel : Nat) (who : Waker) :
    ((start o st job tokens).run o [.call (.take n), .poll (fuel + 1) who]).crashed = true := by
  simp only [start_eq, Bench.run, List.foldl_cons, List.foldl_nil, Bench.step, Call.program,
    Input.take, if_pos hn]
  rfl

/-- Two items are there, and the call asks for as many as a count can say. -/
theorem take_unaddressable :
    ((start { name := "t" } {} { shell := {} } [.text "a", .text "b"]).run { name := "t" }
      [.call (.take 18446744073709551615), .poll 1 .nobody]).crashed = true :=
  crashed_of_take _ _ _ _ (by decide) 0 .nobody

end Bench

end Pipework
