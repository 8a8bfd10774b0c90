import Pipework.Proofs.Job.Timekeeping
import Pipework.Proofs.Pipe.Sealed
import Pipework.Proofs.Text.Keyed

/-!
# Timers linked to pipes

A timer that is linked to a pipe takes one writer away from it when it is cancelled, whatever
handles are open (`Site.cancel_linked`).

* If that was the last writer the pipe closes for writing. Its readers then find what
  `Traffic.Spent` says, whatever is done later: who waited meets the end of data, who comes later
  does so once the buffer is empty.
* Beside another writer the pipe stays open, and who waited waits on.
-/

namespace Pipework

namespace Site

variable {s : Site} {id i : Nat} {t : Traffic Value}

/-- The numbers in the table ascend, so a timer is found under its number. -/
theorem Kept.find_running (h : s.Kept) {entry : TimerEntry} (hrow : (id, entry) ∈ s.job.running) :
    s.job.running.find? (·.1 == id) = some (id, entry) := by
  have hnodup : (s.job.running.map (·.1)).Nodup := h.ascending.imp fun hlt => Nat.ne_of_lt hlt
  exact Keyed.find?_numbered hnodup hrow

/-- To cancel a timer that is linked to a pipe takes one writer away from the pipe, and nothing is
done to its users. -/
theorem Kept.cancel_linked (h : s.Kept) {kind : TimerKind}
    (hrow : (id, ⟨kind, some i⟩) ∈ s.job.running) (ht : s.traffic? i = some t) :
    (s.step (.cancel id)).1 = .flag true ∧
      (s.step (.cancel id)).2.traffic? i = some { t with pipe := t.pipe.closeWrite.2.1 } := by
  have hfind := h.find_running hrow
  obtain ⟨hnone, -⟩ | ⟨entry, level, subsystem, message, hfound, hcancel⟩ :=
    Job.cancelTimer_cases id s.job
  · exact absurd (hnone.symm.trans hfind) (by simp)
  · obtain rfl : entry = ⟨kind, some i⟩ :=
      congrArg Prod.snd (Option.some.inj (hfound.symm.trans hfind))
    obtain ⟨p, hp, rfl⟩ := Option.map_eq_some_iff.mp ht
    set dropped := (s.job.log level subsystem message).dropTimer id
    have hkept : dropped.pipes[i]? = some p := by
      obtain ⟨_, _, hdrop⟩ := Job.dropTimer_eq id (s.job.log level subsystem message)
      simp only [dropped, hdrop]
      exact hp
    have hpipe : (dropped.closeWrite i).2.pipes[i]? = some p.closeWrite.2.1 := by
      rw [Job.closeWrite, Job.query_eq hkept]
      exact Job.store_self hkept _ _
    have hstep : s.step (.cancel id) =
        (.flag true, { s with job := (dropped.closeWrite i).2 }) := by
      simp only [Site.step, hcancel]
    rw [hstep]
    exact ⟨rfl, by simp only [traffic?, hpipe, Option.map_some]⟩

/-- **A cancelled timer takes one writer.** Whatever has been done to a job and its pipes, handles
and timers: to cancel a timer in the table that is linked to a pipe answers true and takes one
writer away from the pipe, if it has one, however many handles are open. If the pipe has had a
writer before, it is closed for writing from then on exactly if it was closed already or has no
writer left; else whoever waits for an item waits on. A pipe that is closed stays closed whatever is
done later, whoever waited for an item meets the end of data, and so does every later read once
the buffer is empty. -/
theorem cancel_takes_writer (shell : Shell) (ops : List SiteOp) (id i : Nat) (kind : TimerKind)
    (hlinked : (id, ⟨kind, some i⟩) ∈ ((create shell).run ops).job.running)
    (hwriter : ∃ before after t, ops = before ++ after ∧
      ((create shell).run before).traffic? i = some t ∧ 0 < t.pipe.writers) :
    let s := (create shell).run ops
    let s' := (s.step (.cancel id)).2
    (s.step (.cancel id)).1 = .flag true ∧ ∃ t t', s.traffic? i = some t ∧
      s'.traffic? i = some t' ∧ t'.pipe.writers = t.pipe.writers - 1 ∧
      (t'.pipe.writeClosed = true ↔ t.pipe.writeClosed = true ∨ t.pipe.writers ≤ 1) ∧
      (t'.pipe.writeClosed = false → t'.pipe.parked = t.pipe.parked) ∧
      (t'.pipe.writeClosed = true → ∀ later, ∃ u, (s'.run later).traffic? i = some u ∧
        t.Spent u) := by
  intro s s'
  have hs : s.Kept := (kept_create shell).run ops
  -- somebody can write to the pipe still, or it has closed
  obtain ⟨t, ht, hattended⟩ : ∃ t, s.traffic? i = some t ∧ t.pipe.Attended := by
    obtain ⟨before, after, t, hops, ht, hpos⟩ := hwriter
    have hrun : s = ((create shell).run before).run after := by
      rw [← run_append, ← hops]
    rw [hrun]
    exact traffic_run (fun t => t.pipe.Attended)
      (fun _ _ hattended hproceeds => hattended.reaches hproceeds.reaches)
      ((kept_create shell).run before).steady ⟨t, ht, .inl hpos⟩ after
  obtain ⟨hreply, ht'⟩ := hs.cancel_linked hlinked ht
  obtain ⟨hwriters, hclosed⟩ := Pipe.writeClosed_closeWrite hattended
  refine ⟨hreply, t, _, ht, ht', hwriters, hclosed, fun hopen => ?_, fun hnow later => ?_⟩
  · obtain ⟨-, hc⟩ | ⟨-, hc⟩ | ⟨n, -, hc⟩ := t.pipe.closeWrite_cases
    · rw [hc]
    · rw [hc] at hopen
      exact absurd (hopen.symm.trans (Pipe.writeClosed_finishWrite _)) Bool.false_ne_true
    · rw [hc]
  · have hlost : t.pipe.Loses t.pipe.closeWrite.2.1 := .closeWrite .start
    have hheld : ({ t with pipe := t.pipe.closeWrite.2.1 } : Traffic Value).Held :=
      (hs.steady.held i t ht).lose hlost le_rfl
    have hsealed := hheld.sound.sealed hnow
    obtain ⟨u, hu, hlives⟩ := traffic_run (Traffic.Outlives _)
      (fun _ _ hlives hproceeds => hlives.advance hproceeds) (hs.step (.cancel id)).steady
      ⟨_, ht', hheld, hsealed.wanes, .of_eq rfl rfl⟩ later
    exact ⟨u, hu, (hs.steady.held i t ht).spent hlost hlives⟩

/-- The only writer of a pipe is in a sleep when its timer is cancelled, and a reader waits. -/
theorem cancel_takes_writer_one :
    let ops : List SiteOp :=
      [.createPipe "a", .use 0 (.openHandle .write "w"), .use 0 (.openHandle .read "r"),
        .use 0 (.read (some "r") "x"), .use 0 (.poll "x"), .sleep "z" 1000 (some 0),
        .pollSleep .main "z"]
    let s := (create {}).run ops
    let u := (s.step (.cancel 0)).2
    (0, ⟨.timeout, some 0⟩) ∈ s.job.running ∧
      (∃ before after t, ops = before ++ after ∧ ((create {}).run before).traffic? 0 = some t ∧
        0 < t.pipe.writers) ∧
      (s.step (.cancel 0)).1 = .flag true ∧
        ∃ t, u.traffic? 0 = some t ∧ t.pipe.writeClosed = true ∧ t.answer "x" = .item none := by
  intro ops s u
  have hlinked : (0, ⟨.timeout, some 0⟩) ∈ s.job.running := by
    decide +kernel
  have hwriter : ∃ before after t, ops = before ++ after ∧
      ((create {}).run before).traffic? 0 = some t ∧ 0 < t.pipe.writers :=
    ⟨ops.take 2, ops.drop 2, _, rfl, rfl, by decide⟩
  obtain ⟨hreply, t, t', ht, ht', -, hclosed, -, hspent⟩ :=
    cancel_takes_writer {} ops 0 0 .timeout hlinked hwriter
  have hwriters : (s.traffic? 0).map (·.pipe.writers) = some 1 := rfl
  have hqueue : (s.traffic? 0).map (fun t => t.pipe.parked.map (·.1)) = some [0] := rfl
  have hread : (s.traffic? 0).bind (·.future? "x") =
      some { waker := 0, owner := some "r", transfer := .read (.parked 0) } := rfl
  have hlate : (u.traffic? 0).bind (·.future? "x") =
      some { waker := 0, owner := some "r", transfer := .read (.parked 0) } := rfl
  rw [ht, Option.map_some, Option.some.injEq] at hwriters hqueue
  rw [ht] at hread
  rw [ht'] at hlate
  have hnow : t'.pipe.writeClosed = true := hclosed.mpr (.inr (by simp [hwriters]))
  obtain ⟨v, hv, hleft⟩ := hspent hnow []
  obtain rfl : v = t' := Option.some.inj (hv.symm.trans ht')
  exact ⟨hlinked, hwriter, hreply, v, ht', hnow,
    hleft.parked "x" _ 0 hread rfl (by simp [hqueue]) _ hlate rfl⟩

/-- Beside another writer the pipe stays open, and the reader waits on. -/
theorem cancelled_beside_writer :
    let ops : List SiteOp :=
      [.createPipe "a", .use 0 (.openHandle .write "w"), .use 0 (.openHandle .write "v"),
        .use 0 (.openHandle .read "r"), .use 0 (.read (some "r") "x"), .use 0 (.poll "x"),
        .register .timeout (some 0)]
    let s := (create {}).run ops
    let u := (s.step (.cancel 0)).2
    (s.step (.cancel 0)).1 = .flag true ∧ ∃ t, u.traffic? 0 = some t ∧
      t.pipe.writeClosed = false ∧ t.answer "x" = .pending := by
  intro ops s u
  exact ⟨rfl, _, rfl, rfl, rfl⟩

end Site

end Pipework
