import Pipework.Proofs.Command.Manners
import Pipework.Proofs.Job.Guarding

/-!
# Commands and promises about the shell

Of all commands only `alias`, `debug` and `settings` put another configuration or filter into the
shell, and `clear` an empty history. A promise about the shell that does not mind the latter is
therefore respected by every other command (`Command.respecting_program`). What the three need is
that the promise allows the configurations that they put in (`Shell.Allows`).
-/

namespace Pipework

open Behavior

/-- The promise allows the configuration in any shell that keeps it. -/
def Shell.Allows (I : Shell → Prop) (c : Config) : Prop := ∀ s, I s → I { s with config := c }

namespace Command

variable {hasInput : Bool} {args : Option String} {I : Shell → Prop}

theorem respecting_sleep (ms : Nat) : (sleep ms).Obeys (.respecting I) := by
  refine Obeys.bind (.perform trivial) fun level => ?_
  split
  · trivial
  · exact Obeys.bind (.perform trivial) fun _ => Obeys.bind (.perform trivial) fun _ =>
      Obeys.bind (.perform trivial) fun _ => trivial

theorem respecting_wait : (wait hasInput args).Obeys (.respecting I) := by
  refine Obeys.bind (.perform trivial) fun _ => Obeys.bind (respecting_sleep _) fun elapsed => ?_
  dsimp only
  split
  · exact Obeys.bind (Input.quiet_openText _ _ _).respecting fun _ =>
      Obeys.forAll (Input.quiet_next _).respecting fun v => (quiet_write v).respecting
  · trivial

theorem respecting_tick : (tick hasInput args).Obeys (.respecting I) := by
  unfold tick
  split
  · trivial
  · refine Obeys.forever (fun _ => Obeys.bind quiet_undisturbed.respecting fun calm => ?_) ()
    split
    · trivial
    · refine Obeys.bind quiet_read.respecting fun received => ?_
      cases received with
      | none => trivial
      | some v =>
        exact Obeys.bind (quiet_write v).respecting fun _ =>
          Obeys.bind (respecting_sleep _) fun _ => trivial

theorem respecting_yes : (yes hasInput args).Obeys (.respecting I) := by
  have hwait : ∀ interval, (awaitInterval interval).Obeys (.respecting I) := by
    intro interval
    cases interval with
    | none => trivial
    | some i => exact Obeys.perform trivial
  have hloop : ∀ interval text, (forever hasInput fun fromInput => do
      if !(← undisturbed) then return .inr ()
      if ← perform .outputClosed then return .inr ()
      let received : Option Value ← if fromInput then read else pure none
      if received.isNone then perform .closeInput
      write (received.getD (.text text))
      return if ← awaitInterval interval then .inl received.isSome else .inr () :
        Behavior Unit).Obeys (.respecting I) := by
    intro interval text
    refine Obeys.forever (fun fromInput => Obeys.bind quiet_undisturbed.respecting fun calm => ?_) _
    split
    · trivial
    · refine Obeys.bind (.perform trivial) fun closed => ?_
      split
      · trivial
      · have hrest : ∀ received : Option Value, (do
            if received.isNone then perform .closeInput
            write (received.getD (.text text))
            return if ← awaitInterval interval then .inl received.isSome else .inr () :
              Behavior (Bool ⊕ Unit)).Obeys (.respecting I) := by
          intro received
          have hwrite : ((write (received.getD (.text text))).bind fun _ => do
              return if ← awaitInterval interval then Sum.inl received.isSome else Sum.inr () :
                Behavior (Bool ⊕ Unit)).Obeys (.respecting I) :=
            Obeys.bind (quiet_write _).respecting fun _ => Obeys.bind (hwait interval) fun _ => trivial
          split
          · exact Obeys.bind (.perform trivial) fun _ => hwrite
          · exact hwrite
        split
        · exact Obeys.bind quiet_read.respecting hrest
        · exact hrest none
  unfold yes
  obtain ⟨ms, text⟩ := yesArgs args
  cases ms with
  | none => exact hloop none text
  | some ms => exact ⟨trivial, fun timer _ => hloop (some (timer, ms)) text⟩

theorem respecting_clear (hclear : ∀ s, I s → I { s with history := s.history.clear.2 }) :
    (clear hasInput args).Obeys (.respecting I) := by
  refine Obeys.bind (.perform trivial) fun _ => Obeys.bind quiet_drain.respecting fun _ => ?_
  split
  · refine Obeys.bind (.perform trivial) fun _ => Obeys.bindShell fun s hs => ?_
    exact Obeys.bind (.perform (hclear s hs)) fun _ => .ofExcept _
  · exact .perform trivial

/-! ## The parts of a shell -/

theorem respecting_setConfig {c : Config} (hc : Shell.Allows I c) :
    (setConfig c).Obeys (.respecting I) :=
  Obeys.bindShell fun s hs => .perform (hc s hs)

theorem respecting_setFilter {f : Filter} (hfilter : ∀ s, I s → I { s with filter := f }) :
    (setFilter f).Obeys (.respecting I) :=
  Obeys.bindShell fun s hs => .perform (hfilter s hs)

/-- `alias` takes an entry out, or enters a free name for a command. -/
theorem respecting_alias
    (herase : ∀ s name, I s →
      Shell.Allows I { s.config with aliases := s.config.aliases.erase name })
    (hinsert : ∀ s name command target, I s → s.registry.lookup? name = none →
      s.resolve? command = some target →
      Shell.Allows I { s.config with aliases := s.config.aliases.insert name target }) :
    («alias» hasInput args).Obeys (.respecting I) := by
  refine Obeys.bind (Input.quiet_openText _ _ _).respecting fun _ => ?_
  refine Obeys.bind (Input.quiet_rest _).respecting fun items => ?_
  refine Obeys.bindShell fun s hs => ?_
  split
  · exact (quiet_writeAll _).respecting
  · refine Obeys.bind (respecting_setConfig (herase s _ hs)) fun _ => ?_
    split
    · exact .perform trivial
    · trivial
  · split
    · trivial
    · rename_i name command _ _ hfree
      split
      · trivial
      · rename_i target htarget
        have hallowed := hinsert s name command target hs (by simpa using hfree) htarget
        exact Obeys.bind (.perform trivial) fun _ => respecting_setConfig hallowed

/-- `debug` writes the filter down. -/
theorem respecting_debug (hfilter : ∀ s filter, I s → I { s with filter := filter })
    (hconfig : ∀ s text, I s → Shell.Allows I { s.config with filter := text }) :
    (debug hasInput args).Obeys (.respecting I) := by
  refine Obeys.bind (Input.quiet_openText _ _ _).respecting fun _ => ?_
  refine Obeys.bind (Input.quiet_require _).respecting fun required => ?_
  refine Obeys.bind (Input.quiet_next _).respecting fun name => ?_
  refine Obeys.bindShell fun s _ => ?_
  have hrest : ∀ (filter : Filter) (message : String), (do
      setFilter filter
      setConfig { (← shell).config with filter := filter.render }
      write (.text message) : Behavior Unit).Obeys (.respecting I) := by
    intro filter message
    refine Obeys.bind (respecting_setFilter fun s hs => hfilter s filter hs) fun _ => ?_
    refine Obeys.bindShell fun s hs => ?_
    exact Obeys.bind (respecting_setConfig (hconfig s _ hs)) fun _ => (quiet_write _).respecting
  dsimp only
  split
  · exact hrest _ _
  · exact hrest _ _
  · exact hrest _ _
  · trivial

/-- `settings` brings the defaults back, except for the aliases, or changes what it is told to. -/
theorem respecting_settings (hfilter : ∀ s filter, I s → I { s with filter := filter })
    (hreset : ∀ s, I s → Shell.Allows I { Config.standard with aliases := s.config.aliases })
    (hset : ∀ s key raw v c, I s → settingRequest (trimmed (args.getD "")) = .change key raw →
      s.config.set key raw = .ok (v, c) → Shell.Allows I c) :
    (settings hasInput args).Obeys (.respecting I) := by
  have hadopt : ∀ text, (adoptFilter text).Obeys (.respecting I) := fun _ =>
    Obeys.bind (.ofExcept _) fun filter => respecting_setFilter fun s hs => hfilter s filter hs
  refine Obeys.bind quiet_drain.respecting fun _ => ?_
  refine Obeys.bindShell fun s hs => ?_
  dsimp only
  split
  · exact Obeys.bind (.ofExcept _) fun _ => (quiet_writeAll _).respecting
  · split
    · exact Obeys.bind (hadopt _) fun _ => respecting_setConfig (hreset s hs)
    · split <;> rename_i hrequest
      · trivial
      · refine Obeys.bind (.ofExcept _) fun found => ?_
        split
        · exact (quiet_write _).respecting
        · trivial
      · rename_i key raw
        have hchange : ((ofExcept (s.config.set key raw)).bind fun stored => do
            setConfig stored.2
            write (settingRow key stored.1)).Obeys (.respecting I) := by
          cases hstored : s.config.set key raw with
          | error e => trivial
          | ok stored =>
            have hallowed := hset s key raw _ _ hs hrequest hstored
            show ((setConfig stored.2).bind fun _ => write (settingRow key stored.1)).Obeys _
            exact Obeys.bind (respecting_setConfig hallowed) fun _ => (quiet_write _).respecting
        split
        · exact Obeys.bind (hadopt _) fun _ => hchange
        · exact hchange

/-! ## All commands -/

/-- Every command but three respects a promise that does not mind an empty history. -/
theorem respecting_program {name : String} {program : StageProgram} (h : program? name = some program)
    (hname : name ∉ ["alias", "debug", "settings"])
    (hclear : ∀ s, I s → I { s with history := s.history.clear.2 }) (hasInput : Bool)
    (args : Option String) : (program hasInput args).Obeys (.respecting I) := by
  by_cases hloud : name ∈ ["wait", "tick", "yes", "clear"]
  · obtain rfl | rfl | rfl | rfl : name = "wait" ∨ name = "tick" ∨ name = "yes" ∨ name = "clear" := by
      simpa using hloud
    · cases h
      exact respecting_wait
    · cases h
      exact respecting_tick
    · cases h
      exact respecting_yes
    · cases h
      exact respecting_clear hclear
  · refine (quiet_program h (fun hmem => ?_) hasInput args).respecting
    simp only [List.mem_cons, List.not_mem_nil, or_false, not_or] at hname hloud hmem
    tauto

/-- Every command respects a promise about neither configuration nor filter. -/
theorem respecting_program_history {name : String} {program : StageProgram}
    (h : program? name = some program) (hconfig : ∀ c, Shell.Allows I c)
    (hfilter : ∀ s filter, I s → I { s with filter := filter })
    (hclear : ∀ s, I s → I { s with history := s.history.clear.2 }) (hasInput : Bool)
    (args : Option String) : (program hasInput args).Obeys (.respecting I) := by
  by_cases hname : name ∈ ["alias", "debug", "settings"]
  · obtain rfl | rfl | rfl : name = "alias" ∨ name = "debug" ∨ name = "settings" := by
      simpa using hname
    · cases h
      exact respecting_alias (fun _ _ _ => hconfig _) fun _ _ _ _ _ _ _ => hconfig _
    · cases h
      exact respecting_debug hfilter fun _ _ _ => hconfig _
    · cases h
      exact respecting_settings hfilter (fun _ _ => hconfig _) fun _ _ _ _ _ _ _ _ => hconfig _
  · exact respecting_program h hname hclear _ _

end Command

end Pipework
