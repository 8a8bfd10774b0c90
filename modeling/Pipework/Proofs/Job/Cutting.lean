import Pipework.Proofs.Job.Flowing

/-!
# How a pipeline is cut

The cutter of a plan ends when it has passed on its goal. Then nobody reads the pipe before it, and the
stages before it end one after another, from the right to the left: each at a write that finds its
pipe broken. Each leaves one signal, and these are all signals that there are. Behind the cutter every
stage is read until it has seen the end of data; it has sent the goal then, and nobody finds a pipe
broken.

`Cuts` says so of the pipeline between two polls. It holds after one more, whether the stage waits
(`Cuts.waits`), is over (`Cuts.ends`) or finds its pipe broken (`Cuts.breaks`).
-/

namespace Pipework

namespace Plan

variable (P : Plan)

/-- The signals when the stages before the cutter have ended from stage `c` on. -/
def broken (c : Nat) : List (String × String) :=
  ((List.range' c (P.cutter - c)).map fun i => Pipe.brokenSignal (P.name i)).reverse

@[simp] theorem broken_cutter : P.broken P.cutter = [] := by rw [broken, Nat.sub_self]; rfl

/-- One stage more has ended. -/
theorem broken_succ {c : Nat} (hc : c < P.cutter) :
    P.broken (c + 1) ++ [Pipe.brokenSignal (P.name c)] = P.broken c := by
  have hleft : P.cutter - c = P.cutter - (c + 1) + 1 := by omega
  rw [broken, broken, hleft, List.range'_succ, List.map_cons, List.reverse_cons]

end Plan

/-- A pipeline that nobody interrupts, between two polls, since its job was `start`. The first `c`
stages before the cutter are at work. -/
structure Cuts (P : Plan) (start : Job) (main : Option ReadState) (got : Nat) (job : Job)
    (task? : Nat → Option Task) (tally : Nat → Tally) (c : Nat) : Prop where
  flows : Flows P main got job task? tally
  /-- From the cutter on a stage at work is read. -/
  read : ∀ i < P.count, P.cutter ≤ i → (task? (P.first + i)).isSome → P.reader? main task? i ≠ none
  /-- From the cutter on a stage that is over has sent the goal. -/
  sent : ∀ i < P.count, P.cutter ≤ i → task? (P.first + i) = none → (tally i).sent = P.goal
  /-- Once it has sent anything the first stage is found at a write. -/
  source : ∀ t, task? P.first = some t →
    t.behavior.Offers ∨ (tally 0).sent = 0 ∧ P.reader? main task? 0 ≠ none
  le_cutter : c ≤ P.cutter
  /-- Before the cutter the stages have ended from the right. -/
  ended : ∀ i < P.cutter, (task? (P.first + i)).isSome ↔ i < c
  cut : c < P.cutter → task? (P.first + P.cutter) = none
  tells : start.Tells job (P.broken c)

variable {P : Plan} {start : Job} {main : Option ReadState} {got : Nat} {job job' : Job}
  {task? : Nat → Option Task} {tally : Nat → Tally} {i c : Nat} {t : Task}

/-- Nobody reads the pipe before a stage that is over. -/
theorem Plan.reader?_gone (hi : i + 1 < P.count) (hgone : task? (P.first + (i + 1)) = none) :
    P.reader? main task? i = none := by
  rw [P.reader?_before hi, hgone]
  rfl

/-- A stage at work reads the pipe before it. -/
theorem Flows.reads (h : Flows P main got job task? tally) (hi : i + 1 < P.count)
    (ht : task? (P.first + (i + 1)) = some t) :
    P.reader? main task? i = some t.station.reading := by
  rw [P.reader?_before hi, ht, Option.bind_some, (h.stages _ hi t ht).reader?]

/-- The readers of pipes are there as before when a stage has come to a new place. -/
theorem Flows.reader?_put {n : Tally} {u : Task} (h : Flows P main got job task? tally)
    (ht : task? (P.first + i) = some t)
    (h' : Flows P main got job' (P.put i (some u) task?) (Function.update tally i n)) {k : Nat}
    (hk : k < P.count) :
    P.reader? main (P.put i (some u) task?) k ≠ none ↔ P.reader? main task? k ≠ none := by
  by_cases hki : k + 1 = i
  · subst hki
    by_cases hlast : k + 1 = P.count
    · simp [Plan.reader?, hlast]
    · have hnext : k + 1 < P.count := by omega
      rw [h.reads hnext ht, h'.reads hnext (Span.put_self _)]
      simp
  · rw [P.reader?_put hki]

/-- A stage that is about to write has an item. -/
theorem Plan.Goes.hand_of_offers {sent n : Nat} {hand : Hand} {arguments : Arguments} {b : Behavior Unit}
    (h : P.Goes i sent n hand arguments b) (hoffers : b.Offers) : hand = .full := by
  obtain ⟨n, rfl⟩ : ∃ k, n = k + 1 := ⟨n - 1, by have := h.steps_pos; omega⟩
  cases b with
  | act action next =>
    cases action with
    | write v => exact h.1
    | _ => exact hoffers.elim
  | _ => exact hoffers.elim

/-- When the second stage has taken an item the first one has sent it. -/
theorem Flows.sent_pos (h : Flows P main got job task? tally) (hnext : 0 + 1 < P.count)
    (ht : task? (P.first + (0 + 1)) = some t) (htaken : 0 < (tally (0 + 1)).taken) :
    0 < (tally 0).sent := by
  obtain ⟨p, -, hcarries⟩ := h.pipes 0 (by omega)
  have hstock := hcarries.stock (by rw [h.reads hnext ht]; simp)
  rw [P.taken_before hnext] at hstock
  omega

namespace Cuts

/-- Before the cutter nobody reads the pipe of a stage that is over. -/
theorem unread (h : Cuts P start main got job task? tally c) (hP : P.Proper) (hi : i < P.cutter)
    (hgone : task? (P.first + i) = none) : P.reader? main task? i = none := by
  have hci : c ≤ i := Nat.le_of_not_lt fun hlt => by
    have hsome := (h.ended i hi).mpr hlt
    rw [hgone] at hsome
    simp at hsome
  have hcount := hP.cutter_lt
  refine P.reader?_gone (by omega) ?_
  by_cases hnext : i + 1 = P.cutter
  · rw [hnext]
    exact h.cut (by omega)
  · refine Option.not_isSome_iff_eq_none.mp fun hsome => ?_
    have hlt := (h.ended (i + 1) (by omega)).mp hsome
    omega

/-- Only behind the cutter does a stage see the end of data. -/
theorem behind_cutter (h : Cuts P start main got job task? tally c) (hP : P.Proper)
    (hi : i + 1 < P.count) (ht : task? (P.first + (i + 1)) = some t)
    (hgone : task? (P.first + i) = none) : P.cutter ≤ i := by
  by_contra hbefore
  have hunread := h.unread hP (by omega) hgone
  rw [h.flows.reads hi ht] at hunread
  simp at hunread

/-- A job that differs in its ready list, or has logged something. -/
theorem congr (h : Cuts P start main got job task? tally c) (hlevel : job'.level = job.level)
    (hpipes : job'.pipes = job.pipes) (hwoken : job'.mainWoken = job.mainWoken)
    (htells : job.Tells job' []) : Cuts P start main got job' task? tally c :=
  { h with
    flows :=
      { h.flows with
        level := hlevel.trans h.flows.level
        pipes := by rw [hpipes]; exact h.flows.pipes
        heeds := by rw [hpipes, hwoken]; exact h.flows.heeds }
    tells := by
      have htold := h.tells.trans htells
      rwa [List.append_nil] at htold }

theorem logEnd (h : Cuts P start main got job task? tally c) (name : String)
    (outcome : Except ShellError Unit) (hbroken : ∀ e, outcome = .error e → e.isBrokenPipe = true) :
    Cuts P start main got (Machine.logEnd name outcome job) task? tally c := by
  cases outcome with
  | ok a => exact h.congr rfl rfl rfl (.of_eq rfl rfl)
  | error e =>
    simp only [Machine.logEnd, hbroken e rfl, Bool.true_or, if_true]
    exact h.congr rfl rfl rfl (.of_eq rfl rfl)

/-- A stage has come further, and waits. -/
theorem waits (h : Cuts P start main got job task? tally c) (hi : i < P.count)
    (ht : task? (P.first + i) = some t) {u : Task} {n : Tally}
    (hflows : Flows P main got job' (P.put i (some u) task?) (Function.update tally i n))
    (htells : job.Tells job' []) (hoffers : i = 0 → u.behavior.Offers) :
    Cuts P start main got job' (P.put i (some u) task?) (Function.update tally i n) c := by
  have hsome : ∀ k, (P.put i (some u) task? (P.first + k)).isSome = (task? (P.first + k)).isSome := by
    intro k
    by_cases hki : k = i
    · subst hki
      rw [Span.put_self, ht]
      rfl
    · rw [Span.put_other (by omega)]
  have hreader := fun {k} (hk : k < P.count) => h.flows.reader?_put ht hflows hk
  refine ⟨hflows, fun k hk hcut hk' => ?_, fun k hk hcut hk' => ?_, fun v hv => ?_, h.le_cutter,
    fun k hk => ?_, fun hc => ?_, ?_⟩
  · rw [hsome] at hk'
    exact (hreader hk).mpr (h.read k hk hcut hk')
  · have hki : k ≠ i := by
      rintro rfl
      rw [Span.put_self] at hk'
      simp at hk'
    rw [Span.put_other (by omega)] at hk'
    rw [Function.update_of_ne hki]
    exact h.sent k hk hcut hk'
  · by_cases hzero : i = 0
    · subst hzero
      obtain rfl : u = v :=
        Option.some.inj ((Span.put_self (L := P.toSpan) (i := 0) (some u)).symm.trans hv)
      exact .inl (hoffers rfl)
    · rw [Span.put_other (by omega)] at hv
      rw [Function.update_of_ne (Ne.symm hzero)]
      exact (h.source v hv).imp_right fun hnothing => ⟨hnothing.1, (hreader (by omega)).mpr hnothing.2⟩
  · rw [hsome]
    exact h.ended k hk
  · rw [← Option.not_isSome_iff_eq_none, hsome, Option.not_isSome_iff_eq_none]
    exact h.cut hc
  · have htold := h.tells.trans htells
    rwa [List.append_nil] at htold

/-- A stage has left. Whoever wrote to it before is not read any more. -/
theorem leaves (h : Cuts P start main got job task? tally c) (hi : i < P.count)
    {u : Task} {n m : Tally} {job' job'' : Job} {signals : List (String × String)}
    (hflows : Flows P main got job' (P.put i (some u) task?) (Function.update tally i n))
    (hleft : Flows P main got job'' (P.put i none task?) (Function.update tally i m))
    (htaken : 0 < n.taken) {c' : Nat} (hc : c' ≤ P.cutter)
    (hread : ∀ k, k + 1 = i → P.cutter ≤ k → task? (P.first + k) = none)
    (hsent : P.cutter ≤ i → m.sent = P.goal)
    (hended : ∀ k < P.cutter, (P.put i none task? (P.first + k)).isSome ↔ k < c')
    (hcut : c' < P.cutter → P.put i none task? (P.first + P.cutter) = none)
    (htells : job.Tells job'' signals) (hbroken : P.broken c' = P.broken c ++ signals) :
    Cuts P start main got job'' (P.put i none task?) (Function.update tally i m) c' := by
  have hkept : ∀ {k v}, P.put i none task? (P.first + k) = some v → k ≠ i := by
    rintro k v hv rfl
    rw [Span.put_self] at hv
    simp at hv
  refine ⟨hleft, fun k hk hcutter hsome => ?_, fun k hk hcutter hgone => ?_, fun v hv => ?_, hc, hended,
    hcut, ?_⟩
  · obtain ⟨v, hv⟩ := Option.isSome_iff_exists.mp hsome
    rw [Span.put_other (by have := hkept hv; omega)] at hv
    have hki : k + 1 ≠ i := fun hki => by
      rw [hread k hki hcutter] at hv
      simp at hv
    rw [P.reader?_put hki]
    exact h.read k hk hcutter (hv ▸ rfl)
  · by_cases hki : k = i
    · subst hki
      rw [Function.update_self]
      exact hsent hcutter
    · rw [Span.put_other (by omega)] at hgone
      rw [Function.update_of_ne hki]
      exact h.sent k hk hcutter hgone
  · have hzero : 0 ≠ i := hkept hv
    rw [Function.update_of_ne hzero]
    have hv' : task? P.first = some v := by
      rwa [Span.put_other (by omega)] at hv
    by_cases hone : i = 0 + 1
    · -- it has taken what the first stage has sent
      subst hone
      have hpos := hflows.sent_pos hi (Span.put_self _) (by rwa [Function.update_self])
      rw [Function.update_of_ne hzero] at hpos
      exact .inl ((h.source v hv').resolve_right fun hnothing => by omega)
    · rw [P.reader?_put (Ne.symm hone)]
      exact h.source v hv'
  · rw [hbroken]
    exact h.tells.trans htells

/-- A stage has come to its end: it is the cutter, or it has seen the end of data. -/
theorem ends (h : Cuts P start main got job task? tally c) (hP : P.Proper) (hi : i < P.count)
    (ht : task? (P.first + i) = some t) (hpos : 0 < i) {u : Task} {n m : Tally} {job' job'' : Job}
    (hflows : Flows P main got job' (P.put i (some u) task?) (Function.update tally i n))
    (hleft : Flows P main got job'' (P.put i none task?) (Function.update tally i m))
    (htells : job.Tells job'' []) (hended : n.hand = .done ∨ n.hand = .empty ∧ P.limit i = some n.sent)
    (hsame : m.sent = n.sent) :
    Cuts P start main got job'' (P.put i none task?) (Function.update tally i m) c := by
  obtain ⟨before, rfl⟩ : ∃ before, i = before + 1 := ⟨i - 1, by omega⟩
  -- the end of data is seen behind the cutter only, and there it comes after the goal
  have hdone : n.hand = .done →
      P.cutter ≤ before ∧ task? (P.first + before) = none ∧ n.sent = P.goal := by
    intro hhand
    obtain ⟨hgone, hsent⟩ := hflows.drained before hi (by rwa [Function.update_self])
    rw [Span.put_other (by omega)] at hgone
    rw [Function.update_self, Function.update_of_ne (Nat.succ_ne_self before).symm] at hsent
    have hbehind := h.behind_cutter hP hi ht hgone
    exact ⟨hbehind, hgone, hsent.symm.trans (h.sent before (by omega) hbehind hgone)⟩
  have hgoal : P.cutter ≤ before + 1 ∧ n.sent = P.goal := by
    rcases hended with hhand | ⟨-, hlimit⟩
    · obtain ⟨hbehind, -, hsent⟩ := hdone hhand
      exact ⟨by omega, hsent⟩
    · unfold Plan.limit at hlimit
      split at hlimit <;> rename_i hcutter
      · exact ⟨hcutter.ge, (Option.some.inj hlimit).symm⟩
      · simp at hlimit
  have htaken : 0 < n.taken := by
    have hgoal_pos := hP.goal_pos
    rw [Tally.taken]
    omega
  refine h.leaves hi hflows hleft htaken h.le_cutter (fun k hk hcutter => ?_)
    (fun _ => hsame.trans hgoal.2)
    (fun k hk => ?_) (fun hc => ?_) htells (List.append_nil _).symm
  · obtain rfl := Nat.succ.inj hk
    refine (hended.resolve_right fun hlimit => ?_ : n.hand = .done) |> hdone |>.2.1
    have hother : P.limit (k + 1) = none := if_neg (by omega)
    rw [hother] at hlimit
    simp at hlimit
  · rw [Span.put_other (by omega)]
    exact h.ended k hk
  · by_cases hcutter : P.cutter = before + 1
    · rw [hcutter, Span.put_self]
    · rw [Span.put_other (by omega)]
      exact h.cut hc

/-- A stage has found its pipe broken, and has left. -/
theorem breaks (h : Cuts P start main got job task? tally c) (hP : P.Proper) (hi : i < P.count)
    (ht : task? (P.first + i) = some t) (hgone : P.reader? main task? i = none) {u : Task} {n m : Tally}
    {job' job'' : Job}
    (hflows : Flows P main got job' (P.put i (some u) task?) (Function.update tally i n))
    (hleft : Flows P main got job'' (P.put i none task?) (Function.update tally i m))
    (htells : job.Tells job'' [Pipe.brokenSignal (P.name i)]) (hoffers : u.behavior.Offers) :
    Cuts P start main got job'' (P.put i none task?) (Function.update tally i m) i := by
  have hcount := hP.cutter_lt
  have hbefore : i < P.cutter := Nat.lt_of_not_le fun hcutter =>
    h.read i hi hcutter (ht ▸ rfl) hgone
  have hnext : task? (P.first + (i + 1)) = none := by
    refine Option.eq_none_iff_forall_ne_some.mpr fun v hv => ?_
    rw [h.flows.reads (by omega) hv] at hgone
    simp at hgone
  have hic : i < c := (h.ended i hbefore).mp (ht ▸ rfl)
  have hci : c = i + 1 := by
    refine Nat.le_antisymm (Nat.le_of_not_lt fun hlt => ?_) hic
    have hle := h.le_cutter
    have hsome := (h.ended (i + 1) (by omega)).mpr hlt
    rw [hnext] at hsome
    simp at hsome
  subst hci
  have htaken : 0 < n.taken := by
    have hgoes := (hflows.stages i hi u (Span.put_self _)).goes
    rw [Function.update_self] at hgoes
    rw [Tally.taken, hgoes.hand_of_offers hoffers]
    exact Nat.succ_pos _
  refine h.leaves hi hflows hleft htaken hbefore.le (fun k _ hcutter => absurd hcutter (by omega))
    (fun hcutter => absurd hcutter (by omega)) (fun k hk => ?_) (fun _ => ?_) htells
    (P.broken_succ hbefore).symm
  · by_cases hki : k = i
    · subst hki
      rw [Span.put_self]
      simp
    · rw [Span.put_other (by omega), h.ended k hk]
      omega
  · by_cases hcutter : i + 1 = P.cutter
    · rw [Span.put_other (by omega), ← hcutter]
      exact hnext
    · rw [Span.put_other (by omega)]
      exact h.cut (by omega)

end Cuts

end Pipework
