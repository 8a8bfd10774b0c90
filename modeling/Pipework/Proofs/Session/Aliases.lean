import Pipework.Proofs.Command.Aliasing
import Pipework.Proofs.Session.Submitting

/-!
# Aliases over a session

A session that begins without aliases never gets one that hides a name of the table of commands, or
one that stands for anything but the canonical name of a command (`aliases_admitted`): whatever
lines are submitted, `alias` checks what it enters, and the reset of the settings keeps what was
checked before. The one way around the check is a setting under a key of the section of aliases
(`aliases_unchecked`).
-/

namespace Pipework

/-- No stage of the line enters an alias by way of the settings that the table of commands does not
admit. -/
def Session.isLawful (s : Session) (line : String) : Bool :=
  (Stage.parseLine (trimmed line)).all fun stage =>
    match s.shell.command? stage.command with
    | some spec => Command.isLawful s.shell.registry spec.name stage.args
    | none => true

/-- Whatever lawful lines are submitted to a session, its table of commands admits its aliases. -/
theorem Session.Runs.wellAliased {r : Registry} (hr : r.Named) {s₀ s : Session}
    (h : s₀.Runs Command.program? (fun s line => s.isLawful line) s)
    (hstart : s₀.shell.WellAliased r) : s.shell.WellAliased r := by
  refine h.guarded ?_ (fun _ _ hs => hs.history _) ?_ hstart
  · intro shell hs
    exact hs.registry ▸ hr
  · intro s line hs hlawful i stage spec hstage hspec pool input output _
    have hone := List.all_eq_true.mp hlawful stage (List.mem_of_getElem? hstage)
    simp only [hspec, hs.registry] at hone
    refine Pipeline.guards_stageTask fun program hprogram s hs => ?_
    exact (Command.wellAliased_program hr hprogram hone).guards hs fun _ _ => id

/-- **Aliases hide nothing and stand for commands.** Whatever lines are submitted to a session that
began without aliases, none of them entering by way of the settings an alias that is not admitted,
no name among its aliases is a name or alias of the table of commands, and every target is the
canonical name of a command. -/
theorem aliases_admitted {s₀ s : Session} (hregistry : s₀.shell.registry.Named)
    (hempty : s₀.shell.config.aliases = [])
    (h : s₀.Runs Command.program? (fun s line => s.isLawful line) s) :
    ∀ e ∈ s.shell.config.aliases, s.shell.registry.lookup? e.1 = none ∧
      ∃ spec, s.shell.registry.get? e.2 = some spec ∧ spec.name = e.2 := by
  have hstart : s₀.shell.WellAliased s₀.shell.registry := by
    refine ⟨rfl, fun e he => ?_⟩
    rw [hempty] at he
    exact absurd he List.not_mem_nil
  have hwell := h.wellAliased hregistry hstart
  intro e he
  rw [hwell.registry]
  exact ⟨(hwell.admitted e he).free, (hwell.admitted e he).canonical⟩

/-- Two aliases, one of them entered by way of the settings, and a reset. -/
theorem aliases_admitted_reset :
    let s₀ : Session := { shell := {} }
    let s₁ := (s₀.submit Command.program? 60 "" "alias cut take | settings aliases.w:wc").2
    let s₂ := (s₁.submit Command.program? 60 "" "settings reset").2
    s₀.shell.config.aliases = [] ∧ s₂.shell.config.aliases = [("cut", "head"), ("w", "wc")] ∧
      ∀ e ∈ s₂.shell.config.aliases, s₂.shell.registry.lookup? e.1 = none ∧
        ∃ spec, s₂.shell.registry.get? e.2 = some spec ∧ spec.name = e.2 := by
  intro s₀ s₁ s₂
  have hfirst : (s₀.submit Command.program? 60 "" "alias cut take | settings aliases.w:wc").1 =
      .ok { lines := ["aliases.w, wc"] } := by decide +kernel
  have hsecond : (s₁.submit Command.program? 60 "" "settings reset").1 = .ok {} := by decide +kernel
  have hruns : s₀.Runs Command.program? (fun s line => s.isLawful line) s₂ :=
    .submit 60 "" "settings reset"
      (.submit 60 "" "alias cut take | settings aliases.w:wc" .start (by decide +kernel)
        (Prod.ext hfirst rfl))
      (by decide +kernel) (Prod.ext hsecond rfl)
  exact ⟨rfl, by decide +kernel, aliases_admitted Registry.named_builtin rfl hruns⟩

/-- A setting enters an alias for nothing, and one that hides a command. -/
theorem aliases_unchecked :
    let s₀ : Session := { shell := {} }
    let s₁ := (s₀.submit Command.program? 60 "" "settings aliases.zz:nope").2
    let s₂ := (s₁.submit Command.program? 60 "" "settings aliases.len:head").2
    s₀.shell.config.aliases = [] ∧ s₂.shell.config.aliases = [("len", "head"), ("zz", "nope")] ∧
      s₂.shell.registry.lookup? "nope" = none ∧ s₂.shell.registry.lookup? "len" ≠ none := by
  decide +kernel

end Pipework
