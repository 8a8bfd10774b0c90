import Pipework.Proofs.Job.Severing

/-!
# The table of timers

What is done with the timers of a site, in whatever order:

* **numbers** — each timer that is entered into the table has a higher number than all before it;
* **the table** — one operation enters a row or takes rows away (`Site.Revises`), so the table holds
  exactly the timers that have been entered and, since then, neither cancelled nor given up, nor
  found to have elapsed if they were of a sleep (`Site.Entered`);
* **cancelling** — to cancel a timer answers whether it was in the table, so true once at most;
* **afterwards** — a sleep, a tick or a wait on a timer that has been cancelled ends with `false`,
  however late it is polled.

An interval that is started after a teardown is in the table, like any other, although it is
cancelled from its beginning.
-/

namespace Pipework

namespace Site

variable {s s' : Site} {op : SiteOp} {row : Nat × TimerEntry} {id : Nat}

/-! ## What an operation does to the table -/

/-- The operation enters the timer into the table. A sleep enters its timer when it begins, which it
does not after a teardown. -/
def Registers (s : Site) (op : SiteOp) (row : Nat × TimerEntry) : Prop :=
  row.1 = s.job.timers.size ∧
    match op with
    | .register kind link => s.linkable link = true ∧ row.2 = ⟨kind, link⟩
    | .interval _ _ link => s.linkable link = true ∧ row.2 = ⟨.interval, link⟩
    | .pollSleep _ name => s.job.level < Job.hardLevel ∧ ∃ z, s.sleeps name = some z ∧
        z.station.timers = [] ∧ row.2 = ⟨.timeout, z.station.output⟩
    | _ => False

/-- The operation cancels the timer, if it is in the table. -/
def Cancels (s : Site) (op : SiteOp) (id : Nat) : Prop :=
  match op with
  | .cancel other => other = id
  | .interrupt => 1 ≤ s.job.level
  | .interruptHard | .teardown => True
  | _ => False

/-- The operation finds the sleep over that the timer is of. -/
def Elapses (s : Site) (op : SiteOp) (id : Nat) : Prop :=
  match op with
  | .pollSleep _ name => id ∈ s.holds (.sleep name) ∧ ∃ b, (s.step op).1 = .elapsed (.ready b)
  | _ => False

/-- The operation gives up the sleep or the interval that the timer is of. -/
def Drops (s : Site) (op : SiteOp) (id : Nat) : Prop :=
  match op with
  | .sleep name _ link => s.linkable link = true ∧ id ∈ s.holds (.sleep name)
  | .dropSleep name => id ∈ s.holds (.sleep name)
  | .interval name _ link => s.linkable link = true ∧ id ∈ s.holds (.interval name)
  | .dropInterval name => id ∈ s.holds (.interval name)
  | _ => False

/-- The operation takes the timer out of the table, if it is there. -/
def Removes (s : Site) (op : SiteOp) (id : Nat) : Prop :=
  s.Cancels op id ∨ s.Elapses op id ∨ s.Drops op id

/-- The table after an operation: what it removes is gone, and it may have entered a timer. -/
inductive Revises (s : Site) (op : SiteOp) (table : List (Nat × TimerEntry)) : Prop where
  | leave (gone : List Nat) (registers : ∀ row, ¬ s.Registers op row)
      (removes : ∀ id, s.job.Runs id → (id ∈ gone ↔ s.Removes op id))
      (table : table = s.job.running.filter (·.1 ∉ gone))
  | enter (entry : TimerEntry) (gone : List Nat)
      (registers : ∀ row, s.Registers op row ↔ row = (s.job.timers.size, entry))
      (removes : ∀ id, s.job.Runs id → (id ∈ gone ↔ s.Removes op id))
      (table : table = s.job.running.filter (·.1 ∉ gone) ++ [(s.job.timers.size, entry)])

namespace Revises

variable {table : List (Nat × TimerEntry)}

theorem same (registers : ∀ row, ¬ s.Registers op row) (removes : ∀ id, ¬ s.Removes op id)
    (htable : table = s.job.running) : Revises s op table :=
  .leave [] registers (fun id _ => iff_of_false List.not_mem_nil (removes id)) (by simp [htable])

/-- The rows after the operation. -/
theorem mem (h : Revises s op table) (row : Nat × TimerEntry) :
    row ∈ table ↔ s.Registers op row ∨ row ∈ s.job.running ∧ ¬ s.Removes op row.1 := by
  have hkept : ∀ {gone : List Nat}, (∀ id, s.job.Runs id → (id ∈ gone ↔ s.Removes op id)) →
      (row ∈ s.job.running.filter (·.1 ∉ gone) ↔ row ∈ s.job.running ∧ ¬ s.Removes op row.1) := by
    intro gone hremoves
    rw [List.mem_filter, decide_eq_true_iff]
    exact and_congr_right fun hrow => not_congr (hremoves row.1 (List.mem_map_of_mem hrow))
  cases h with
  | leave gone registers removes htable =>
    rw [htable, hkept removes, or_iff_right (registers row)]
  | enter entry gone registers removes htable =>
    rw [htable, List.mem_append, hkept removes, List.mem_singleton, registers, or_comm]

/-- The numbers in the table ascend: a row that is new has the highest. -/
theorem ascending (h : Revises s op table) (hbound : ∀ id, s.job.Runs id → id < s.job.timers.size)
    (hs : (s.job.running.map (·.1)).Pairwise (· < ·)) : (table.map (·.1)).Pairwise (· < ·) := by
  have hkept : ∀ gone : List Nat,
      ((s.job.running.filter (·.1 ∉ gone)).map (·.1)).Pairwise (· < ·) := fun gone =>
    hs.sublist (List.filter_sublist.map _)
  cases h with
  | leave gone registers removes htable => exact htable ▸ hkept gone
  | enter entry gone registers removes htable =>
    rw [htable, List.map_append, List.pairwise_append]
    refine ⟨hkept gone, List.pairwise_singleton _ _, fun id hid new hnew => ?_⟩
    obtain rfl : new = s.job.timers.size := by simpa using hnew
    obtain ⟨row, hrow, rfl⟩ := List.mem_map.mp hid
    exact hbound row.1 (List.mem_map_of_mem (List.mem_of_mem_filter hrow))

end Revises

/-! ## One operation -/

theorem running_forgetTimers (ids : List Nat) (job : Job) :
    (ids.foldl (fun job id => job.forgetTimer id) job).running =
      job.running.filter (·.1 ∉ ids) := by
  induction ids generalizing job with
  | nil => simp
  | cons id ids ih =>
    rw [List.foldl_cons, ih, Job.forgetTimer, List.filter_filter]
    refine List.filter_congr fun e _ => ?_
    by_cases he : e.1 = id <;> simp [he]

theorem running_withoutSleep (s : Site) (name : String) :
    (s.withoutSleep name).running = s.job.running.filter (·.1 ∉ s.holds (.sleep name)) := by
  unfold withoutSleep
  cases hz : s.sleeps name with
  | none => simp [holds, hz]
  | some z =>
    have hholds : s.holds (.sleep name) = z.station.timers := by simp [holds, hz]
    rw [hholds]
    exact running_forgetTimers _ _

theorem running_withoutTicker (s : Site) (name : String) (job : Job) :
    (s.withoutTicker name job).running = job.running.filter (·.1 ∉ s.holds (.interval name)) := by
  unfold withoutTicker
  cases hi : s.tickers name with
  | none => simp [holds, hi]
  | some i =>
    refine List.filter_congr fun e _ => ?_
    by_cases he : e.1 = i.timer <;> simp [holds, hi, he]

theorem running_startTimer (kind : TimerKind) (link : Option Nat) (job : Job) :
    (job.startTimer kind link).2.running = job.running ++ [(job.timers.size, ⟨kind, link⟩)] := by
  obtain h | h := Job.startTimer_cases kind link job <;> rw [h] <;> rfl

/-- A sleep that has not begun has no time set. -/
def Unset (s : Site) : Prop :=
  ∀ name z, s.sleeps name = some z → z.station.timers = [] → z.station.deadline = none

/-- A poll of a sleep that begins starts its timer, which has not elapsed yet. -/
theorem run_sleep_begins (who : Waker) {st : Station} {job : Job} (n ms : Nat)
    (hlevel : ¬ Job.hardLevel ≤ job.level) (htimers : st.timers = []) (hunset : st.deadline = none) :
    ∃ st' deadline, st.run (n + 5) who job (.sleep ms) = (.waiting (resting job.timers.size ms), st',
      ((job.startTimer .timeout st.output).2.pollTimer job.timers.size deadline who).2) ∧
      st'.timers = [job.timers.size] := by
  set started := (job.startTimer .timeout st.output).2 with hstarted
  set deadline := Timer.deadline started.now ms with hdeadline
  have hnew : started.timer job.timers.size = {} := by
    simp [hstarted, Job.startTimer, Job.enterTimer, Job.timer, Array.getD_eq_getD_getElem?]
  have hlate : ¬ deadline ≤ started.now := by
    rw [hdeadline, Timer.deadline]
    omega
  obtain ⟨job', hpoll⟩ :
      ∃ job', started.pollTimer job.timers.size deadline who = (.pending, job') :=
    ⟨_, by simp [Job.pollTimer, hnew, Timer.pollWait, hlate]; rfl⟩
  refine ⟨{ st with timers := [job.timers.size], deadline := some deadline }, deadline, ?_, rfl⟩
  rw [run_sleep n hlevel, ← hstarted, hpoll]
  simp only [Station.run, resting, Station.attempt, Station.tryWait, htimers, hunset,
    Option.getD_none, ← hdeadline, hpoll, List.nil_append]

theorem revises_pollSleep (h : s.Timed) (hunset : s.Unset) (who : Waker) (name : String) :
    Revises s (.pollSleep who name) (s.pollSleep who name).2.job.running := by
  have hremoves : ∀ id, s.Removes (.pollSleep who name) id ↔
      id ∈ s.holds (.sleep name) ∧ ∃ b, (s.pollSleep who name).1 = .elapsed (.ready b) := fun id => by
    simp [Removes, Cancels, Elapses, Drops, Site.step]
  cases hz : s.sleeps name with
  | none =>
    refine .same (fun row hrow => ?_) (fun id hid => ?_) (by simp [Site.pollSleep, hz])
    · obtain ⟨-, -, z, hz', -⟩ := hrow
      exact absurd (hz.symm.trans hz') (by simp)
    · exact absurd ((hremoves id).mp hid).1 (by simp [holds, hz])
  | some z =>
    cases h.asleep name z hz with
    | waiting id ms htimers =>
      -- it has begun: it enters nothing, and gives up the one timer it holds when it ends
      have hnew : ∀ row, ¬ s.Registers (.pollSleep who name) row := by
        rintro row ⟨-, -, z', hz', htimers', -⟩
        obtain rfl := Option.some.inj (hz.symm.trans hz')
        exact absurd (htimers.symm.trans htimers') (by simp)
      have hholds : s.holds (.sleep name) = [id] := by simp [holds, hz, htimers]
      have hrests : Rests who id ms s.job (Station.run sleepSteps who _ s.job _) :=
        rests_run 2 htimers
      rw [hholds] at hremoves
      simp only [Site.pollSleep, hz] at hremoves ⊢
      generalize Station.run sleepSteps who _ s.job _ = r at hrests hremoves ⊢
      cases hrests with
      | ended elapsed st deadline _ =>
        refine .leave [id] hnew (fun other _ => ?_) ?_
        · rw [hremoves]
          exact ⟨fun hmem => ⟨hmem, elapsed, rfl⟩, fun hgone => hgone.1⟩
        · exact List.filter_congr fun e _ => by by_cases he : e.1 = id <;> simp [he]
      | waits st deadline _ _ =>
        refine .same hnew (fun other hother => ?_) rfl
        obtain ⟨-, b, hb⟩ := (hremoves other).mp hother
        exact absurd (SiteReply.elapsed.inj hb) (by simp)
    | fresh ms htimers =>
      -- it holds no timer yet, so there is nothing it could remove
      rename_i station
      have hnone : ∀ id, ¬ s.Removes (.pollSleep who name) id := fun id hid =>
        absurd ((hremoves id).mp hid).1 (by simp [holds, hz, htimers])
      by_cases hlevel : Job.hardLevel ≤ s.job.level
      · refine .same (fun row hrow => absurd hrow.2.1 (Nat.not_lt.mpr hlevel)) hnone ?_
        simp only [Site.pollSleep, hz]
        rw [show sleepSteps = 0 + 5 from rfl, run_sleep_torn 0 hlevel]
        rfl
      · refine .enter ⟨.timeout, station.output⟩ [] (fun row => ?_)
          (fun id _ => iff_of_false List.not_mem_nil (hnone id)) ?_
        · constructor
          · rintro ⟨hid, -, z, hz', -, hentry⟩
            obtain rfl := Option.some.inj (hz.symm.trans hz')
            exact Prod.ext hid hentry
          · rintro rfl
            exact ⟨rfl, Nat.not_le.mp hlevel, _, hz, htimers, rfl⟩
        · obtain ⟨st', deadline, hrun, -⟩ :=
            run_sleep_begins who 0 ms hlevel htimers (hunset name _ hz htimers)
          have hkept : s.job.running.filter (·.1 ∉ ([] : List Nat)) = s.job.running := by simp
          simp only [Site.pollSleep, hz]
          rw [show sleepSteps = 0 + 5 from rfl, hrun, hkept]
          exact running_startTimer .timeout station.output s.job

/-- **One operation.** It enters one timer at most, and takes away what it cancels, what it finds to
have elapsed, and what it gives up. -/
theorem revises_step (h : s.Timed) (hunset : s.Unset) (op : SiteOp) :
    Revises s op (s.step op).2.job.running := by
  have hnever : ¬ (False ∨ False ∨ False) := by simp
  -- a table that is emptied has lost every row it had
  have hempty : ∀ {job : Job}, job.running = [] →
      job.running = s.job.running.filter (·.1 ∉ s.job.running.map (·.1)) := by
    intro job hjob
    rw [hjob]
    refine (List.filter_eq_nil_iff.mpr fun row hrow => ?_).symm
    simpa using ⟨row.2, hrow⟩
  cases op with
  | createPipe label =>
    exact .same (fun _ h => h.2) (fun _ => hnever) (by simp [Site.step, Job.createPipe])
  | use i op =>
    refine .same (fun _ h => h.2) (fun _ => hnever) ?_
    simp only [Site.step]
    split
    · rfl
    · simp [putTraffic]
  | register kind link =>
    have hnone : ∀ id, ¬ s.Removes (.register kind link) id := fun _ => by
      simp [Removes, Cancels, Elapses, Drops]
    simp only [Site.step]
    split
    · rename_i hlink
      refine .enter ⟨kind, link⟩ [] (fun row => ?_)
        (fun id _ => iff_of_false List.not_mem_nil (hnone id)) (by simp [Job.enterTimer])
      simp [Registers, hlink, Prod.ext_iff]
    · rename_i hlink
      exact .same (fun row hrow => hlink hrow.2.1) hnone rfl
  | wait who id deadline =>
    exact .same (fun _ h => h.2) (fun _ => hnever) rfl
  | cancelHandle id =>
    refine .same (fun _ h => h.2) (fun _ => hnever) ?_
    simp only [Site.step, Job.cancelHandle]
    split
    · rw [Job.wake_eq]
    · rfl
  | cancel id =>
    refine .leave [id] (fun _ h => h.2) (fun other _ => ?_) ?_
    · simp [Removes, Cancels, Elapses, Drops, eq_comm]
    · refine (Job.running_cancelTimer s.job id).trans (List.filter_congr fun e _ => ?_)
      by_cases he : e.1 = id <;> simp [he]
  | sleep name ms link =>
    simp only [Site.step]
    split
    · rename_i hlink
      refine .leave (s.holds (.sleep name)) (fun _ h => h.2) (fun id _ => ?_)
        (s.running_withoutSleep name)
      simp [Removes, Cancels, Elapses, Drops, hlink]
    · rename_i hlink
      exact .same (fun _ h => h.2) (fun _ => by simp [Removes, Cancels, Elapses, Drops, hlink]) rfl
  | pollSleep who name => exact revises_pollSleep h hunset who name
  | dropSleep name =>
    refine .leave (s.holds (.sleep name)) (fun _ h => h.2) (fun id _ => ?_)
      (s.running_withoutSleep name)
    simp [Removes, Cancels, Elapses, Drops]
  | interval name ms link =>
    simp only [Site.step, startTimer_number]
    split
    · rename_i hlink
      -- the new interval is entered before the old one of that name is dropped
      have hold : s.job.timers.size ∉ s.holds (.interval name) := fun hid =>
        absurd (h.held _ _ hid).1 (Nat.lt_irrefl _)
      refine .enter ⟨.interval, link⟩ (s.holds (.interval name)) (fun row => ?_)
        (fun id _ => ?_) ?_
      · simp [Registers, hlink, Prod.ext_iff]
      · simp [Removes, Cancels, Elapses, Drops, hlink]
      · refine (s.running_withoutTicker name _).trans ?_
        rw [running_startTimer, List.filter_append]
        simp [hold]
    · rename_i hlink
      exact .same (fun row hrow => hlink hrow.2.1)
        (fun _ => by simp [Removes, Cancels, Elapses, Drops, hlink]) rfl
  | pollTick who name =>
    refine .same (fun _ h => h.2) (fun _ => hnever) ?_
    simp only [Site.step, pollTick]
    split
    · rfl
    · simp only [Station.attempt, Station.tryWait]
      split <;> rfl
  | dropTick name =>
    exact .same (fun _ h => h.2) (fun _ => hnever) rfl
  | dropInterval name =>
    refine .leave (s.holds (.interval name)) (fun _ h => h.2) (fun id _ => ?_)
      (s.running_withoutTicker name s.job)
    simp [Removes, Cancels, Elapses, Drops]
  | pass ms => exact .same (fun _ h => h.2) (fun _ => hnever) rfl
  | report message => exact .same (fun _ h => h.2) (fun _ => hnever) rfl
  | takeErrors => exact .same (fun _ h => h.2) (fun _ => hnever) rfl
  | clearScreen => exact .same (fun _ h => h.2) (fun _ => hnever) rfl
  | setShell shell => exact .same (fun _ h => h.2) (fun _ => hnever) rfl
  | interrupt =>
    by_cases hlevel : 1 ≤ s.job.level
    · refine .leave (s.job.running.map (·.1)) (fun _ h => h.2) (fun id hid => ?_) ?_
      · exact iff_of_true hid (.inl hlevel)
      · refine hempty ?_
        simp only [Site.step, Job.interrupt, hlevel, if_true]
        exact Job.running_teardown _
    · refine .same (fun _ h => h.2) (fun _ => by simp [Removes, Cancels, Elapses, Drops, hlevel]) ?_
      simp [Site.step, Job.interrupt, hlevel]
  | interruptHard =>
    refine .leave (s.job.running.map (·.1)) (fun _ h => h.2) (fun id hid => ?_) ?_
    · exact iff_of_true hid (.inl trivial)
    · exact hempty (Job.running_teardown _)
  | teardown =>
    refine .leave (s.job.running.map (·.1)) (fun _ h => h.2) (fun id hid => ?_) ?_
    · exact iff_of_true hid (.inl trivial)
    · exact hempty (Job.running_teardown _)

/-! ## Sleeps that have not begun -/

theorem Unset.setSleep (hunset : s.Unset) {name : String} {z : Option Sleep} {job : Job}
    (hz : ∀ z', z = some z' → z'.station.timers = [] → z'.station.deadline = none) :
    (s.setSleep name z job).Unset := by
  intro other z' hz' htimers
  by_cases hname : other = name
  · subst hname
    exact hz z' (by simpa [Site.setSleep] using hz') htimers
  · exact hunset other z' (by simpa [Site.setSleep, hname] using hz') htimers

theorem Unset.pollSleep (hunset : s.Unset) (h : s.Timed) (who : Waker) (name : String) :
    (s.pollSleep who name).2.Unset := by
  have hended : ∀ z', (none : Option Sleep) = some z' → z'.station.timers = [] →
      z'.station.deadline = none := fun _ hnone => absurd hnone (by simp)
  have hbegun : ∀ {rest : Behavior Bool} {st : Station} {id : Nat}, st.timers = [id] →
      ∀ z', some (⟨rest, st⟩ : Sleep) = some z' → z'.station.timers = [] →
        z'.station.deadline = none := by
    intro rest st id htimers z' hz' hnone
    obtain rfl := Option.some.inj hz'
    exact absurd (htimers.symm.trans hnone) (by simp)
  unfold Site.pollSleep
  cases hz : s.sleeps name with
  | none => exact hunset
  | some z =>
    dsimp only
    cases h.asleep name z hz with
    | waiting id ms htimers =>
      have hrests : Rests who id ms s.job (Station.run sleepSteps who _ s.job _) :=
        rests_run 2 htimers
      generalize Station.run sleepSteps who _ s.job _ = r at hrests ⊢
      cases hrests with
      | ended elapsed st deadline _ => exact hunset.setSleep hended
      | waits st deadline htimers _ => exact hunset.setSleep (hbegun htimers)
    | fresh ms htimers =>
      by_cases hlevel : Job.hardLevel ≤ s.job.level
      · rw [show sleepSteps = 0 + 5 from rfl, run_sleep_torn 0 hlevel]
        exact hunset.setSleep hended
      · obtain ⟨st', deadline, hrun, htimers'⟩ :=
          run_sleep_begins who 0 ms hlevel htimers (hunset name _ hz htimers)
        rw [show sleepSteps = 0 + 5 from rfl, hrun]
        exact hunset.setSleep (hbegun htimers')

theorem Unset.step (hunset : s.Unset) (h : s.Timed) (op : SiteOp) : (s.step op).2.Unset := by
  cases op with
  | use i op =>
    simp only [Site.step]
    split <;> exact hunset
  | register kind link =>
    simp only [Site.step]
    split <;> exact hunset
  | sleep name ms link =>
    simp only [Site.step]
    split
    · exact hunset.setSleep fun z' hz' _ => by rw [← Option.some.inj hz']
    · exact hunset
  | pollSleep who name => exact hunset.pollSleep h who name
  | dropSleep name => exact hunset.setSleep fun _ hnone => absurd hnone (by simp)
  | interval name ms link =>
    simp only [Site.step]
    split <;> exact hunset
  | pollTick who name =>
    simp only [Site.step, pollTick]
    split <;> exact hunset
  | _ => exact hunset

/-! ## Every operation after another -/

/-- What holds of the timers of a site whatever has been done. -/
structure Kept (s : Site) : Prop where
  steady : s.Steady
  unset : s.Unset
  ascending : (s.job.running.map (·.1)).Pairwise (· < ·)

theorem kept_create (shell : Shell) : (create shell).Kept where
  steady := steady_create shell
  unset _ _ hz := absurd hz (by simp [create])
  ascending := List.Pairwise.nil

theorem Kept.step (h : s.Kept) (op : SiteOp) : (s.step op).2.Kept where
  steady := h.steady.step op
  unset := h.unset.step h.steady.timed op
  ascending :=
    (revises_step h.steady.timed h.unset op).ascending h.steady.timed.running h.ascending

theorem Kept.run (h : s.Kept) (ops : List SiteOp) : (s.run ops).Kept := by
  induction ops generalizing s with
  | nil => exact h
  | cons op ops ih => exact ih (h.step op)

/-- The rows of the table after an operation. -/
theorem Kept.mem_step (h : s.Kept) (op : SiteOp) (row : Nat × TimerEntry) :
    row ∈ (s.step op).2.job.running ↔
      s.Registers op row ∨ row ∈ s.job.running ∧ ¬ s.Removes op row.1 :=
  (revises_step h.steady.timed h.unset op).mem row

theorem Kept.runs_step (h : s.Kept) (op : SiteOp) (id : Nat) : (s.step op).2.job.Runs id ↔
    (∃ row, s.Registers op row ∧ row.1 = id) ∨ s.job.Runs id ∧ ¬ s.Removes op id := by
  simp only [Job.Runs, List.mem_map, h.mem_step]
  constructor
  · rintro ⟨row, hnew | ⟨hrow, hkept⟩, rfl⟩
    · exact .inl ⟨row, hnew, rfl⟩
    · exact .inr ⟨⟨row, hrow, rfl⟩, hkept⟩
  · rintro (⟨row, hnew, rfl⟩ | ⟨⟨row, hrow, rfl⟩, hkept⟩)
    · exact ⟨row, .inl hnew, rfl⟩
    · exact ⟨row, .inr ⟨hrow, hkept⟩, rfl⟩

/-- None of the operations takes the timer out of the table. -/
def Lasts (s : Site) (id : Nat) : List SiteOp → Prop
  | [] => True
  | op :: ops => ¬ s.Removes op id ∧ (s.step op).2.Lasts id ops

/-- One of the operations entered the timer, and none after it took it out of the table. -/
def Entered (s : Site) (ops : List SiteOp) (row : Nat × TimerEntry) : Prop :=
  ∃ before op after, ops = before ++ op :: after ∧ (s.run before).Registers op row ∧
    ((s.run before).step op).2.Lasts row.1 after

theorem run_cons (s : Site) (op : SiteOp) (ops : List SiteOp) :
    s.run (op :: ops) = (s.step op).2.run ops := rfl

theorem run_append (s : Site) (ops more : List SiteOp) :
    s.run (ops ++ more) = (s.run ops).run more := List.foldl_append

/-- A timer is entered by the first operation or by a later one. -/
theorem entered_cons (op : SiteOp) (ops : List SiteOp) (row : Nat × TimerEntry) :
    s.Entered (op :: ops) row ↔
      s.Registers op row ∧ (s.step op).2.Lasts row.1 ops ∨ (s.step op).2.Entered ops row := by
  constructor
  · rintro ⟨_ | ⟨first, before⟩, op', after, hsplit, hnew, hlasts⟩
    · obtain ⟨rfl, rfl⟩ := List.cons.inj hsplit
      exact .inl ⟨hnew, hlasts⟩
    · obtain ⟨rfl, rfl⟩ := List.cons.inj hsplit
      exact .inr ⟨before, op', after, rfl, hnew, hlasts⟩
  · rintro (⟨hnew, hlasts⟩ | ⟨before, op', after, rfl, hnew, hlasts⟩)
    · exact ⟨[], op, ops, rfl, hnew, hlasts⟩
    · exact ⟨op :: before, op', after, rfl, hnew, hlasts⟩

/-- **The table.** It holds what was in it and has lasted, and what has been entered. -/
theorem Kept.mem_run (h : s.Kept) (ops : List SiteOp) (row : Nat × TimerEntry) :
    row ∈ (s.run ops).job.running ↔
      row ∈ s.job.running ∧ s.Lasts row.1 ops ∨ s.Entered ops row := by
  induction ops generalizing s with
  | nil =>
    have hnone : ¬ s.Entered [] row := by
      rintro ⟨before, op, after, hsplit, -⟩
      exact absurd hsplit (by simp)
    simp [hnone, Lasts, Site.run]
  | cons op ops ih =>
    rw [run_cons, ih (h.step op), h.mem_step, entered_cons, Lasts]
    tauto

/-! ## Numbers -/

/-- A timer that is entered is in the table, under a number that is not given again. -/
theorem Kept.size_lt (h : s.Kept) (hnew : s.Registers op row) :
    row.1 < (s.step op).2.job.timers.size :=
  (h.step op).steady.timed.running row.1
    (List.mem_map_of_mem ((h.mem_step op row).mpr (.inl hnew)))

theorem size_run (h : s.Steady) (ops : List SiteOp) :
    s.job.timers.size ≤ (s.run ops).job.timers.size := by
  induction ops generalizing s with
  | nil => exact le_rfl
  | cons op ops ih =>
    obtain ⟨_, hminds⟩ := minds_step h.timed op
    exact hminds.clocks.size.trans (ih (h.step op))

/-- What has gone from the table does not come back. -/
theorem Kept.gone_run (h : s.Kept) (hgone : ¬ s.job.Runs id) (hold : id < s.job.timers.size)
    (ops : List SiteOp) : ¬ (s.run ops).job.Runs id := by
  induction ops generalizing s with
  | nil => exact hgone
  | cons op ops ih =>
    obtain ⟨_, hminds⟩ := minds_step h.steady.timed op
    refine ih (h.step op) (fun hruns => ?_) (hold.trans_le hminds.clocks.size)
    rcases (h.runs_step op id).mp hruns with ⟨row, hnew, rfl⟩ | ⟨hruns, -⟩
    · exact absurd hnew.1 hold.ne
    · exact hgone hruns

/-! ## Cancelling -/

/-- To cancel a timer answers whether it is in the table. -/
theorem cancel_reply (s : Site) (id : Nat) :
    ∃ inUse, (s.step (.cancel id)).1 = .flag inUse ∧ (inUse = true ↔ s.job.Runs id) := by
  refine ⟨(s.job.cancelTimer id).1, rfl, ?_⟩
  obtain ⟨hnone, hcancel⟩ | ⟨entry, _, _, _, hfound, hcancel⟩ := Job.cancelTimer_cases id s.job
  · rw [hcancel]
    refine iff_of_false Bool.false_ne_true fun hruns => ?_
    obtain ⟨row, hrow, rfl⟩ := List.mem_map.mp hruns
    exact absurd (List.find?_eq_none.mp hnone row hrow) (by simp)
  · rw [hcancel]
    exact iff_of_true rfl (List.mem_map_of_mem (List.mem_of_find?_eq_some hfound))

/-- A timer that an operation cancels is cancelled from then on. -/
theorem Kept.cancelled (h : s.Kept) (hcancels : s.Cancels op id) (hruns : s.job.Runs id) :
    ((s.step op).2.job.timer id).cancelled = true := by
  have hclocks : Job.Clocks (fun _ => False) s.job (s.step op).2.job := by
    cases op with
    | cancel other => exact Job.clocks_cancelTimer other s.job
    | interrupt => exact Job.clocks_interrupt s.job
    | interruptHard => exact Job.clocks_interruptHard s.job
    | teardown => exact Job.clocks_teardown s.job
    | _ => exact hcancels.elim
  have hold := h.steady.timed.running id hruns
  refine (hclocks.kept id hold not_false hruns).resolve_left fun hstill => ?_
  rcases (h.runs_step op id).mp hstill with ⟨row, hnew, rfl⟩ | ⟨-, hkept⟩
  · exact absurd hnew.1 hold.ne
  · exact hkept (.inl hcancels)

/-! ## The theorem -/

/-- **The table of timers.** Whatever has been done to a new site, in any order: a timer that is
entered later has a higher number, and is told it where somebody asks; the table holds exactly the
timers that have been entered and not been cancelled, given up or found to have elapsed since, each
once; to cancel a timer answers true exactly if it is in the table, and never again after that; and
once a timer in the table has been cancelled, alone or by an interrupt or a teardown, its sleep,
its ticks and every wait on it end with `false`, whatever is done and however much time passes
before they are polled. -/
theorem timer_table (shell : Shell) (ops : List SiteOp) :
    let start := create shell
    let s := start.run ops
    (∀ op row more op' row', s.Registers op row →
      (start.run (ops ++ op :: more)).Registers op' row' → row.1 < row'.1) ∧
    (∀ op row, s.Registers op row → (s.step op).1 = .number row.1 ∨
      ∃ who name, op = .pollSleep who name) ∧
    (s.job.running.map (·.1)).Pairwise (· < ·) ∧
    (∀ row, row ∈ s.job.running ↔ start.Entered ops row) ∧
    (∀ id, ∃ inUse, (s.step (.cancel id)).1 = .flag inUse ∧ (inUse = true ↔ s.job.Runs id) ∧
      (inUse = true → ∀ more,
        ((start.run (ops ++ .cancel id :: more)).step (.cancel id)).1 = .flag false)) ∧
    ∀ op id more who, s.Cancels op id → s.job.Runs id →
      let u := start.run (ops ++ op :: more)
      (∀ name, id ∈ u.holds (.sleep name) →
        (u.step (.pollSleep who name)).1 = .elapsed (.ready false)) ∧
      (∀ name, id ∈ u.holds (.interval name) →
        (u.step (.pollTick who name)).1 = .elapsed (.ready false)) ∧
      ∀ deadline, (u.step (.wait who id deadline)).1 = .elapsed (.ready false) := by
  intro start s
  have hs : s.Kept := (kept_create shell).run ops
  have hlater : ∀ op more, start.run (ops ++ op :: more) = (s.step op).2.run more :=
    fun op more => run_append start ops (op :: more)
  refine ⟨fun op row more op' row' hnew hnew' => ?_, fun op row hnew => ?_, hs.ascending,
    fun row => ?_, fun id => ?_, fun op id more who hcancels hruns => ?_⟩
  · rw [hlater] at hnew'
    rw [hnew'.1]
    exact (hs.size_lt hnew).trans_le (size_run (hs.step op).steady more)
  · cases op with
    | register kind link =>
      left
      simp [Site.step, hnew.2.1, Job.enterTimer, hnew.1]
    | interval name ms link =>
      left
      simp [Site.step, hnew.2.1, startTimer_number, hnew.1]
    | pollSleep who name => exact .inr ⟨who, name, rfl⟩
    | _ => exact hnew.2.elim
  · refine ((kept_create shell).mem_run ops row).trans (or_iff_right fun hold => ?_)
    exact absurd hold.1 List.not_mem_nil
  · obtain ⟨inUse, hreply, hruns⟩ := s.cancel_reply id
    refine ⟨inUse, hreply, hruns, fun htrue more => ?_⟩
    rw [hlater]
    -- the row has gone and its number is old, so nothing brings it back
    have hgone : ¬ (s.step (.cancel id)).2.job.Runs id := fun hstill => by
      rcases (hs.runs_step (.cancel id) id).mp hstill with ⟨row, hnew, -⟩ | ⟨-, hkept⟩
      · exact hnew.2
      · exact hkept (.inl rfl)
    obtain ⟨_, hminds⟩ := minds_step hs.steady.timed (.cancel id)
    have hold := (hs.steady.timed.running id (hruns.mp htrue)).trans_le hminds.clocks.size
    obtain ⟨again, hagain, hlast⟩ := ((s.step (.cancel id)).2.run more).cancel_reply id
    have hnot := (hs.step (.cancel id)).gone_run hgone hold more
    rw [hagain, Bool.eq_false_iff.mpr fun h => hnot (hlast.mp h)]
  · intro u
    have hu : u = (s.step op).2.run more := hlater op more
    have hcancelled : (u.job.timer id).cancelled = true := by
      rw [hu]
      exact cancelled_run (hs.step op).steady (hs.cancelled hcancels hruns) more
    have htimed : u.Timed := ((kept_create shell).run _).steady.timed
    refine ⟨fun name hid => (pollSleep_cancelled htimed hid hcancelled who).1,
      fun name hid => pollTick_cancelled hid hcancelled who, fun deadline => ?_⟩
    exact congrArg SiteReply.elapsed (pollTimer_cancelled hcancelled deadline who)

end Site

end Pipework
