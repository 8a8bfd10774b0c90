import Pipework.Proofs.Job.Pressing
import Pipework.Proofs.Session.Submitting

/-!
# Whom presses of the interrupt key hit

The presses of the interrupt key are counted all the time, and only looked at while a line runs. Each
press interrupts at most one line, once: over a line, the interrupts and the presses that are left
unnoticed are as many as the presses that had not been noticed before, those that came while the line
ran, and the interrupts from elsewhere (`presses_interrupt_once`).

So a press between two lines is not lost. It interrupts the next line (`idle_press_interrupts`),
unless whoever submits the lines forgets it in time, as the prompt does.
-/

namespace Pipework

/-- What came of the presses of the interrupt key over a line. -/
structure Session.Tally where
  /-- The presses not noticed before the line. -/
  pending : Nat
  /-- The presses while the line ran. -/
  pressed : Nat
  /-- The interrupts from elsewhere while the line ran. -/
  others : Nat
  /-- How often the line was interrupted. -/
  interrupts : Nat
  /-- The presses not noticed after the line. -/
  left : Nat
  deriving Repr, DecidableEq

/-! ## The start of a line -/

namespace Pipeline

variable {m : Machine} {sum : Nat}

theorem balanced_startStages (hm : m.Balanced sum) (hprograms : m.programs = Command.program?)
    (pool : Nat) (stages : List Stage) (previous : Option Nat) :
    (startStages (some pool) stages previous m).2.Balanced sum := by
  induction stages generalizing m previous with
  | nil => exact hm
  | cons stage stages ih =>
    cases hspec : m.job.shell.command? stage.command with
    | none =>
      simp only [startStages, hspec]
      cases previous with
      | none => exact hm
      | some i => exact hm.onCore (Job.core_query ..)
    | some spec =>
      rw [startStages_cons hspec]
      obtain ⟨name, records, hjob⟩ := createPipe_linked spec.name m.job
      refine ih (m := addStage pool spec stage.args previous m) ⟨?_, fun e he => ?_⟩ hprograms _
      · rw [← hm.sum_eq]
        exact congrArg (fun job => job.level + job.presses) hjob
      · rcases List.mem_append.mp he with he | he
        · exact hm.tasks e he
        · obtain rfl := List.mem_singleton.mp he
          rw [hprograms]
          exact owes_stageBehavior spec _ _

/-- Starting a line interrupts nobody. -/
theorem balanced_execute (hm : m.Balanced sum) (hprograms : m.programs = Command.program?)
    (p : Pipeline) (pool : Nat) : (p.execute (some pool) m).2.2.Balanced sum := by
  have hstart : ∀ (p : Pipeline) (m : Machine), m.Balanced sum → m.programs = Command.program? →
      (startStages (some pool) p.line.stages none (p.announce m)).2.Balanced sum :=
    fun p m hm hprograms =>
      balanced_startStages (m := p.announce m) (hm.of_core rfl rfl rfl) hprograms _ _ _
  unfold execute
  generalize hvalid : (if p.state m.job = .validated then (Except.ok (), p, m) else p.validate m) =
    validated
  obtain ⟨answer, p', m'⟩ := validated
  have hm' : m'.Balanced sum ∧ m'.programs = Command.program? := by
    split at hvalid
    · cases hvalid
      exact ⟨hm, hprograms⟩
    · cases hvalid
      exact ⟨hm.of_core rfl rfl rfl, hprograms⟩
  cases answer with
  | error errors => exact hm'.1
  | ok _ =>
    have hstarted := hstart p' m' hm'.1 hm'.2
    unfold announce at hstarted
    dsimp only
    generalize startStages (some pool) p'.line.stages none _ = started at hstarted ⊢
    obtain ⟨_ | _ | last, m''⟩ := started
    · exact hstarted
    · exact hstarted.of_core rfl rfl rfl
    · exact hstarted.onCore (Job.core_change ..)

end Pipeline

/-! ## The end of a line -/

/-- A line that is read to its end and comes to rest has run its course. -/
theorem Machine.Course.ended {m₀ m : Machine} {pool pipe pressed others : Nat}
    (h : m₀.Course pool pipe pressed others m) (fuel : Nat)
    (hhalt : (((m.runUntil fuel pool { pipe := pipe }).2.onJob fun job =>
      (job.closeRead pipe).2).settle fuel pool).halt = none) :
    m₀.Course pool pipe pressed others
      (((m.runUntil fuel pool { pipe := pipe }).2.onJob fun job =>
        (job.closeRead pipe).2).settle fuel pool) := by
  have hrested := Machine.halt_of_settle hhalt
  have hread := h.runUntil fuel (c := { pipe := pipe }) rfl hrested
  exact (Machine.Course.step hread (.leave _)).settle fuel hhalt

namespace Session

variable {s s₀ : Session} {idle : Nat} {tallies : List Tally}

/-- Before a line nobody has interrupted it, and only watches are there. -/
theorem balanced_machine (programs : Programs) (s : Session) :
    (s.machine programs).2.Balanced s.presses := by
  refine ⟨?_, fun e he => ?_⟩
  · rw [job_machine]
    exact Nat.zero_add _
  · obtain ⟨w, -, htask⟩ := s.tasks_machine programs e he
    rw [htask]
    exact w.owes_behavior

/-! ## Lines and presses -/

/-- What comes of a session over lines and presses of the interrupt key, with so many presses between
the lines and such tallies of the lines that ran. -/
inductive Course (s₀ : Session) : Nat → List Tally → Session → Prop
  | start : Course s₀ 0 [] s₀
  | watch (period : Nat) {idle : Nat} {tallies : List Tally} {s : Session} :
      Course s₀ idle tallies s → Course s₀ idle tallies (s.watch period)
  /-- The key is pressed between two lines. -/
  | press {idle : Nat} {tallies : List Tally} {s : Session} : Course s₀ idle tallies s →
      Course s₀ (idle + 1) tallies { s with presses := s.presses + 1 }
  /-- Whoever submits the lines forgets the presses. -/
  | forget {idle : Nat} {tallies : List Tally} {s : Session} : Course s₀ idle tallies s →
      Course s₀ idle tallies { s with presses := 0 }
  /-- A line does not validate. -/
  | refused (time line : String) {idle : Nat} {tallies : List Tally} {s : Session}
      {errors : List ShellError} {p : Pipeline} {m : Machine} : Course s₀ idle tallies s →
      (s.prepared Command.program? line).1.validate (s.prepared Command.program? line).2 =
        (.error errors, p, m) →
      Course s₀ idle tallies (((s.noted line).after m).record time (trimmed line) none
        (errors.map fun e => "Error: " ++ e.message))
  /-- A line runs, with presses and interrupts at any time. -/
  | line (time line : String) (output : List String) {idle pressed others last : Nat}
      {tallies : List Tally} {s : Session} {p p' : Pipeline} {m m₁ m₂ : Machine} :
      Course s₀ idle tallies s →
      (s.prepared Command.program? line).1.validate (s.prepared Command.program? line).2 =
        (.ok (), p, m) →
      p.execute (some ((s.noted line).machine Command.program?).1) m = (.ok last, p', m₁) →
      m₁.Course ((s.noted line).machine Command.program?).1 last pressed others m₂ →
      Course s₀ idle
        (tallies ++ [⟨s.presses, pressed, others, m₂.job.level, m₂.job.presses⟩])
        (((s.noted line).after m₂).record time (trimmed line) p.line.head? output)

/-- A line that does not validate leaves the presses alone. -/
theorem presses_refused {line : String} {errors : List ShellError} {p : Pipeline} {m : Machine}
    (hvalid : (s.prepared Command.program? line).1.validate (s.prepared Command.program? line).2 =
      (.error errors, p, m)) : m.job.presses = s.presses := by
  have hkept := congrArg (·.2.2.job.presses) hvalid
  have hjob := congrArg (·.presses) ((s.noted line).job_machine Command.program?)
  exact hkept.symm.trans hjob

theorem presses_record (time line : String) (head : Option String) (output : List String)
    (s : Session) : (s.record time line head output).presses = s.presses := by
  obtain ⟨history, records, hrecord⟩ := record_eq time line head output s
  rw [hrecord]

/-- A line is run on a machine whose interrupts and presses make up the presses not yet noticed. -/
theorem balanced_line {line : String} {p p' : Pipeline} {m m₁ : Machine} {last : Nat}
    (hvalid : (s.prepared Command.program? line).1.validate (s.prepared Command.program? line).2 =
      (.ok (), p, m))
    (hexecute : p.execute (some ((s.noted line).machine Command.program?).1) m =
      (.ok last, p', m₁)) : m₁.Balanced s.presses := by
  obtain ⟨-, -, -, hm⟩ := Pipeline.validate_create hvalid
  have hbalanced : m.Balanced s.presses := by
    rw [hm]
    exact ((s.noted line).balanced_machine Command.program?).of_core rfl rfl rfl
  have hprograms : m.programs = Command.program? := by
    rw [hm]
    exact ((s.noted line).shell_machine Command.program?).2
  have hexecuted := Pipeline.balanced_execute hbalanced hprograms p
    ((s.noted line).machine Command.program?).1
  rw [hexecute] at hexecuted
  exact hexecuted

/-- Over a line, interrupts and presses add up. -/
theorem Course.tallied (h : s₀.Course idle tallies s) :
    ∀ t ∈ tallies, t.interrupts + t.left = t.pending + t.pressed + t.others := by
  induction h with
  | start => exact fun t ht => absurd ht List.not_mem_nil
  | watch period _ ih => exact ih
  | press _ ih => exact ih
  | forget _ ih => exact ih
  | refused time line _ _ ih => exact ih
  | line time line output _ hvalid hexecute hcourse ih =>
    intro t ht
    rcases List.mem_append.mp ht with ht | ht
    · exact ih t ht
    · obtain rfl := List.mem_singleton.mp ht
      exact (hcourse.balanced (balanced_line hvalid hexecute)).sum_eq

/-- Over any lines, no press is counted twice. -/
theorem Course.total (h : s₀.Course idle tallies s) :
    (tallies.map (·.interrupts)).sum + s.presses ≤
      s₀.presses + idle + (tallies.map fun t => t.pressed + t.others).sum := by
  induction h with
  | start => simp
  | watch period _ ih => exact ih
  | press _ ih =>
    dsimp only at ih ⊢
    omega
  | forget _ ih =>
    dsimp only at ih ⊢
    omega
  | @refused time line idle tallies s errors p m _ hvalid ih =>
    rw [presses_record]
    show _ + m.job.presses ≤ _
    rw [presses_refused hvalid]
    exact ih
  | @line time line output idle pressed others last tallies s p p' m m₁ m₂ _ hvalid hexecute hcourse ih =>
    have hsum := (hcourse.balanced (balanced_line hvalid hexecute)).sum_eq
    rw [presses_record, List.map_append, List.map_append, List.sum_append, List.sum_append]
    show _ + ([m₂.job.level].sum) + m₂.job.presses ≤ _ + (_ + [pressed + others].sum)
    rw [List.sum_singleton, List.sum_singleton]
    omega

/-! ## Lines that are submitted -/

variable {fuel : Nat} {time line : String} {s' : Session} {outcome : Outcome}

/-- To submit a line is to run it with nobody pressing the key. -/
theorem Course.submit (h : s₀.Course idle tallies s) (hnamed : s.shell.registry.Named)
    (hsubmit : s.submit Command.program? fuel time line = (.ok outcome, s')) :
    (s₀.Course idle tallies s' ∧ s'.presses = s.presses ∧ outcome.interrupted = false) ∨
      ∃ interrupts, s₀.Course idle (tallies ++ [⟨s.presses, 0, 0, interrupts, s'.presses⟩]) s' ∧
        outcome.interrupted = decide (0 < interrupts) := by
  have hsubmits := s.submits Command.program? fuel time line
  rw [hsubmit] at hsubmits
  cases hsubmits with
  | blank hline => exact .inl ⟨h, rfl, rfl⟩
  | @invalid errors p m hline hvalid =>
    refine .inl ⟨.refused time line h hvalid, ?_, rfl⟩
    rw [presses_record]
    exact presses_refused hvalid
  | @ended p m m' lines hline hvalid hrun hhalt =>
    right
    obtain ⟨hready, hids⟩ := ready_prepared hnamed hvalid
    obtain ⟨m₁, hexecute, -⟩ := p.execute_ready ((s.noted line).machine Command.program?).1 hready hids
    have hend : m' = _ := (congrArg Prod.snd hrun).symm.trans (run_executed hexecute fuel)
    rw [hend] at hhalt
    have hcourse := Machine.Course.start.ended fuel hhalt
    rw [← hend] at hcourse
    refine ⟨m'.job.level, ?_, rfl⟩
    rw [presses_record]
    exact .line time line lines h hvalid hexecute hcourse

/-- A line that is submitted with nobody pressing the key is interrupted if and only if presses from
before are noticed. -/
theorem interrupted_submit (hnamed : s.shell.registry.Named)
    (hsubmit : s.submit Command.program? fuel time line = (.ok outcome, s')) :
    s'.presses ≤ s.presses ∧ (outcome.interrupted = true ↔ s'.presses < s.presses) := by
  rcases Course.submit .start hnamed hsubmit with ⟨-, hsame, hcalm⟩ | ⟨interrupts, hcourse, hshown⟩
  · rw [hsame, hcalm]
    simp
  · have hsum := hcourse.tallied _ (List.mem_singleton.mpr rfl)
    dsimp only at hsum
    rw [hshown, decide_eq_true_iff]
    omega

end Session

/-- **A press interrupts at most one line, once.** Over any lines that run in a session with watches,
with presses of the interrupt key while they run and between them, each line is interrupted for each
of its own presses at most once: its interrupts and the presses left after it are the presses left
before it, those while it ran and the interrupts from elsewhere, and where the presses between the
lines are forgotten only its own presses and the others can interrupt it. Over all lines no press is
counted twice. -/
theorem presses_interrupt_once {s₀ s : Session} {idle : Nat} {tallies : List Session.Tally}
    (h : s₀.Course idle tallies s) :
    (∀ t ∈ tallies, t.interrupts + t.left = t.pending + t.pressed + t.others ∧
      (t.pending = 0 → t.interrupts ≤ t.pressed + t.others)) ∧
    (tallies.map (·.interrupts)).sum + s.presses ≤
      s₀.presses + idle + (tallies.map fun t => t.pressed + t.others).sum := by
  refine ⟨fun t ht => ?_, h.total⟩
  have hsum := h.tallied t ht
  exact ⟨hsum, fun hnone => by omega⟩

/-- A press before the line and one while it runs interrupt it twice. -/
theorem presses_interrupt_once_twice :
    let s₀ : Session := { shell := {} }
    let t : Session.Tally := { pending := 1, pressed := 1, others := 0, interrupts := 2, left := 0 }
    ∃ s, s₀.Course 2 [t] s ∧ s.presses = 1 ∧
      t.interrupts + t.left = t.pending + t.pressed + t.others ∧
      t.interrupts + s.presses ≤ s₀.presses + 2 + (t.pressed + t.others) := by
  intro s₀ t
  let s₁ : Session := { s₀.watch 20 with presses := 1 }
  let line := "echo a | wait 90"
  let pool := ((s₁.noted line).machine Command.program?).1
  let validated :=
    (s₁.prepared Command.program? line).1.validate (s₁.prepared Command.program? line).2
  let executed := validated.2.1.execute (some pool) validated.2.2
  let pressed := executed.2.2.onJob fun job => { job with presses := job.presses + 1 }
  let ended := ((pressed.runUntil 60 pool { pipe := 1 }).2.onJob fun job =>
    (job.closeRead 1).2).settle 60 pool
  have hvalidates : validated.1 = .ok () := by decide +kernel
  have hstarts : executed.1 = .ok 1 := by decide +kernel
  have hhalt : ended.halt = none := by decide +kernel
  have hlevel : ended.job.level = 2 := by decide +kernel
  have hleft : ended.job.presses = 0 := by decide +kernel
  have hvalidated : (s₁.prepared Command.program? line).1.validate
      (s₁.prepared Command.program? line).2 = validated := rfl
  have hexecuted : validated.2.1.execute (some pool) validated.2.2 = executed := rfl
  have hended : ended = ((pressed.runUntil 60 pool { pipe := 1 }).2.onJob fun job =>
    (job.closeRead 1).2).settle 60 pool := rfl
  have hpress : executed.2.2.Course pool 1 1 0 pressed := .press .start
  -- from here on the machines are not to be computed again
  clear_value ended pressed executed validated
  have hvalid : validated = (.ok (), validated.2) := Prod.ext hvalidates rfl
  have hexecute : executed = (.ok 1, executed.2) := Prod.ext hstarts rfl
  have hcourse : executed.2.2.Course pool 1 1 0 ended := by
    rw [hended] at hhalt ⊢
    exact hpress.ended 60 hhalt
  have hidle : s₀.Course 1 [] s₁ := .press (.watch 20 .start)
  have hline := @Session.Course.line s₀ "" line [] 1 1 0 1 [] s₁ validated.2.1 executed.2.1
    validated.2.2 executed.2.2 ended hidle
    (hvalidated.trans hvalid) (hexecuted.trans hexecute) hcourse
  rw [hlevel, hleft] at hline
  have hpressed := Session.Course.press hline
  obtain ⟨heach, htotal⟩ := presses_interrupt_once hpressed
  refine ⟨_, hpressed, ?_, (heach t (List.mem_singleton.mpr rfl)).1, htotal⟩
  show (Session.record "" (trimmed line) validated.2.1.line.head? []
    ((s₁.noted line).after ended)).presses + 1 = 1
  rw [Session.presses_record]
  exact congrArg (· + 1) hleft

/-- A press while no line runs interrupts the next line. -/
theorem idle_press_interrupts :
    let s₀ : Session := { shell := {} }
    let s₁ : Session := { s₀.watch 20 with presses := 1 }
    s₀.Course 1 [] s₁ ∧ (s₁.submit Command.program? 60 "" "echo a | wait 90").1 =
      .ok { lines := [interruptMark], interrupted := true } := by
  refine ⟨.press (.watch 20 .start), ?_⟩
  decide +kernel

end Pipework
