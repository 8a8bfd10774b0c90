import Pipework.Proofs.History
import Pipework.Proofs.Session.Submitting

/-!
# How many lines a session remembers

The maximum of the history stands twice in a session, in the history itself and among the settings.
Only the settings change it, and only the history goes by it: the history drops its oldest entries
down to the maximum that the session began with (`history_bounded`), and a lower one that is set
later drops nothing (`history_unbounded_by_setting`).

No command and no recorded line takes a history beyond its own maximum (`History.Within`).
-/

namespace Pipework

/-- The history has this maximum and no more entries than that. -/
structure History.Within (h : History) (maxSize : Nat) : Prop where
  maxSize_eq : h.maxSize = maxSize
  length_le : h.entries.length ≤ maxSize

namespace History

variable {h : History} {maxSize : Nat}

theorem Within.save (hwithin : h.Within maxSize) : h.save.2.Within maxSize where
  maxSize_eq := (maxSize_save h).trans hwithin.maxSize_eq
  length_le := entries_save h ▸ hwithin.length_le

theorem Within.push (hwithin : h.Within maxSize) (e : HistoryEntry) :
    (h.push e).2.Within maxSize := by
  have hsize := hwithin.maxSize_eq
  exact Within.save ⟨hsize, hsize ▸ length_rtake_le h.maxSize (h.entries ++ [e])⟩

theorem Within.clear (hwithin : h.Within maxSize) : h.clear.2.Within maxSize :=
  Within.save ⟨hwithin.maxSize_eq, Nat.zero_le maxSize⟩

theorem within_openFile {file : HistoryFile} (hopen : openFile maxSize file = .ok h) :
    h.Within maxSize := by
  obtain ⟨all, -, rfl⟩ := openFile_eq_ok hopen
  exact ⟨rfl, length_rtake_le maxSize all⟩

end History

/-- The shell's commands go by their names, and its history keeps within the maximum. -/
structure Shell.Remembers (maxSize : Nat) (s : Shell) : Prop where
  named : s.registry.Named
  history : s.history.Within maxSize

variable {registry : Registry} {host : Host} {c : Config} {file : HistoryFile} {s₀ s : Session}

namespace Session

/-- A session begins within the maximum of its settings, also on a file that holds more entries. -/
theorem remembers_start (hregistry : registry.Named)
    (hstart : Session.start registry host c file = .ok s₀) : s₀.shell.Remembers c.maxSize := by
  rcases hfilter : Filter.start c.filter with ⟨filter, records⟩
  simp only [start, hfilter, bind, Except.bind] at hstart
  split at hstart
  · split at hstart
    · cases hstart
    · rename_i hopen
      cases hstart
      exact ⟨hregistry, History.within_openFile hopen⟩
  · cases hstart
    exact ⟨hregistry, rfl, Nat.zero_le c.maxSize⟩

/-- Whatever lines are submitted, the history keeps within its maximum. -/
theorem Runs.remembers {maxSize : Nat}
    (h : s₀.Runs Command.program? (fun _ _ => True) s) (hstart : s₀.shell.Remembers maxSize) :
    s.shell.Remembers maxSize := by
  refine h.guarded (fun _ hs => hs.named) (fun _ e hs => ⟨hs.named, hs.history.push e⟩) ?_ hstart
  intro s line _ _ i stage spec _ _ pool input output _
  refine Pipeline.guards_stageTask fun program hprogram view hview => ?_
  have hrespects := Command.respecting_program_history (I := Shell.Remembers maxSize) hprogram
    (fun _ _ hs => ⟨hs.named, hs.history⟩) (fun _ _ hs => ⟨hs.named, hs.history⟩)
    (fun _ hs => ⟨hs.named, hs.history.clear⟩) input.isSome stage.args
  exact hrespects.guards hview fun _ _ => id

end Session

/-- **A history is as long as its session allowed at the start.** Whatever lines are submitted to a
new session, settings changed and reset among them, the history in memory or in a file keeps the
maximum of the settings that the session began with, and has no more entries than that; so it has no
more than the settings allow at the time, as long as they allow no less than at the start. -/
theorem history_bounded (hregistry : registry.Named)
    (hstart : Session.start registry host c file = .ok s₀)
    (h : s₀.Runs Command.program? (fun _ _ => True) s) :
    s.shell.history.maxSize = c.maxSize ∧ s.shell.history.entries.length ≤ c.maxSize ∧
      (c.maxSize ≤ s.shell.config.maxSize →
        s.shell.history.entries.length ≤ s.shell.config.maxSize) := by
  have hwithin := (h.remembers (Session.remembers_start hregistry hstart)).history
  exact ⟨hwithin.maxSize_eq, hwithin.length_le, hwithin.length_le.trans⟩

/-- Three lines where two are kept, one of them a setting that allows three. -/
theorem history_bounded_two :
    let c : Config := { Config.standard with maxSize := 2 }
    let s₀ : Session := { shell := { config := c, history := .inMemory 2 } }
    let s₁ := (s₀.submit Command.program? 60 "" "echo a").2
    let s₂ := (s₁.submit Command.program? 60 "" "settings history.max_size:3").2
    let s₃ := (s₂.submit Command.program? 60 "" "echo b | len").2
    Session.start .builtin .absent c ⟨none, true⟩ = .ok s₀ ∧ s₃.shell.config.maxSize = 3 ∧
      s₃.shell.history.entries.map (·.command) = ["settings history.max_size:3", "echo b | len"] ∧
      s₃.shell.history.entries.length ≤ s₃.shell.config.maxSize := by
  intro c s₀ s₁ s₂ s₃
  have hfirst : (s₀.submit Command.program? 60 "" "echo a").1 = .ok { lines := ["a"] } := by
    decide +kernel
  have hsecond : (s₁.submit Command.program? 60 "" "settings history.max_size:3").1 =
      .ok { lines := ["history.max_size, 3"] } := by decide +kernel
  have hthird : (s₂.submit Command.program? 60 "" "echo b | len").1 = .ok { lines := ["1"] } := by
    decide +kernel
  have hruns : s₀.Runs Command.program? (fun _ _ => True) s₃ :=
    .submit 60 "" "echo b | len"
      (.submit 60 "" "settings history.max_size:3"
        (.submit 60 "" "echo a" .start trivial (Prod.ext hfirst rfl)) trivial
        (Prod.ext hsecond rfl))
      trivial (Prod.ext hthird rfl)
  have hstart : Session.start .builtin .absent c ⟨none, true⟩ = .ok s₀ := by
    have hfilter : Filter.start c.filter = (.standard, []) := by decide +kernel
    rw [Session.start, hfilter]
    rfl
  have hsetting : s₃.shell.config.maxSize = 3 := by decide +kernel
  obtain ⟨-, -, hbounded⟩ := history_bounded Registry.named_builtin hstart hruns
  exact ⟨hstart, hsetting, by decide +kernel, hbounded (by rw [hsetting]; decide)⟩

/-- A line that is recorded where one is allowed leaves two. -/
theorem history_unbounded_by_setting :
    let s₀ : Session := { shell := {} }
    let s₁ := (s₀.submit Command.program? 60 "" "settings history.max_size:1").2
    let s₂ := (s₁.submit Command.program? 60 "" "echo a").2
    Session.start .builtin .absent .standard ⟨none, true⟩ = .ok s₀ ∧
      s₁.shell.config.maxSize = 1 ∧ s₂.shell.config.maxSize = 1 ∧
      s₂.shell.history.entries.map (·.command) = ["settings history.max_size:1", "echo a"] := by
  refine ⟨rfl, ?_⟩
  decide +kernel

end Pipework
