import Pipework.Command.Programs
import Pipework.Proofs.Job.Manners

/-!
# The manners of the commands

Every command but three runs without a clock; `wait`, `tick` and `yes` wait only on timers of their
own. Once everything has been closed around a stage none of them waits again: a read returns at
once, a write fails, and a cancelled wait is the last thing that they do.
-/

namespace Pipework

namespace Behavior

variable {α β σ : Type} {m : Manners}

theorem Obeys.ofExcept (r : Except ShellError α) : (Behavior.ofExcept r).Obeys m := by
  cases r <;> trivial

theorem Obeys.perform {action : Action α} (h : m.allowed action) : (Behavior.perform action).Obeys m :=
  ⟨h, fun _ _ => trivial⟩

theorem Obeys.forever {body : σ → Behavior (σ ⊕ β)} (h : ∀ s, (body s).Obeys m) (s : σ) :
    (Behavior.forever s body).Obeys m := ⟨h, fun _ => trivial⟩

theorem Obeys.forEach {source : Behavior (Option Value)} {body : σ → Value → Behavior σ}
    (hsource : source.Obeys m) (hbody : ∀ s v, (body s v).Obeys m) (s : σ) :
    (Behavior.forEach source s body).Obeys m := by
  refine Obeys.forever (fun s => ?_) s
  refine Obeys.bind hsource fun received => ?_
  cases received with
  | none => trivial
  | some v => exact Obeys.bind (hbody s v) fun _ => trivial

theorem Obeys.forAll {source : Behavior (Option Value)} {body : Value → Behavior Unit}
    (hsource : source.Obeys m) (hbody : ∀ v, (body v).Obeys m) :
    (Behavior.forAll source body).Obeys m := .forEach hsource (fun _ v => hbody v) ()

end Behavior

open Behavior

/-! ## Actions and input -/

theorem receiving_read : read.Obeys .receiving := .perform trivial

theorem quiet_read : read.Obeys .quiet := receiving_read.quiet

theorem quiet_write (v : Value) : (write v).Obeys .quiet :=
  (Obeys.perform trivial).bind fun r => .ofExcept r

theorem quiet_writeAll (vs : List Value) : (writeAll vs).Obeys .quiet := by
  induction vs with
  | nil => trivial
  | cons v vs ih => exact (quiet_write v).bind fun _ => ih

theorem receiving_readAll : readAll.Obeys .receiving := by
  refine Obeys.bind ?_ fun _ => trivial
  refine Obeys.forEach receiving_read (fun _ _ => ?_) []
  trivial

theorem quiet_drain : drain.Obeys .quiet := by
  refine Obeys.bind ?_ fun _ => .perform trivial
  refine Obeys.forAll quiet_read fun _ => ?_
  trivial

theorem quiet_shell : shell.Obeys .quiet := .perform trivial

theorem receiving_undisturbed : undisturbed.Obeys .receiving :=
  Obeys.bind (.perform trivial) fun _ => trivial

theorem quiet_undisturbed : undisturbed.Obeys .quiet := receiving_undisturbed.quiet

theorem timeless_setConfig (c : Config) : (setConfig c).Obeys .timeless :=
  quiet_shell.timeless.bind fun _ => .perform trivial

theorem timeless_setFilter (f : Filter) : (setFilter f).Obeys .timeless :=
  quiet_shell.timeless.bind fun _ => .perform trivial

namespace Input

variable (o : Input)

theorem receiving_openText (hasInput : Bool) (args : Option String) :
    (o.openText hasInput args).Obeys .receiving :=
  (Obeys.perform trivial).bind fun _ => .perform trivial

theorem receiving_next : o.next.Obeys .receiving := by
  refine Obeys.bind receiving_undisturbed fun calm => ?_
  cases calm with
  | false => trivial
  | true =>
    refine Obeys.bind (.perform trivial) fun a => ?_
    split
    · exact (Obeys.perform trivial).bind fun _ => trivial
    · refine Obeys.bind (.perform trivial) fun closed => ?_
      cases closed with
      | true => trivial
      | false => exact receiving_read.bind fun _ => trivial

theorem receiving_putBack (v : Value) : (putBack v).Obeys .receiving :=
  (Obeys.perform trivial).bind fun _ => .perform trivial

theorem receiving_rest : o.rest.Obeys .receiving :=
  (Obeys.perform trivial).bind fun _ => (Obeys.perform trivial).bind fun _ =>
    receiving_readAll.bind fun _ => trivial

theorem receiving_take (n : Nat) : (o.take n).Obeys .receiving := by
  unfold take
  split
  · trivial
  · refine Obeys.forever (fun (left, items) => ?_) _
    dsimp only
    split
    · trivial
    · exact o.receiving_next.bind fun
        | some _ => trivial
        | none => trivial

theorem receiving_readFlags : o.readFlags.Obeys .receiving := by
  unfold readFlags
  split
  · trivial
  · refine Obeys.forever (fun _ => o.receiving_next.bind fun received => ?_) _
    cases received with
    | none => trivial
    | some v =>
      dsimp only
      split
      · exact (receiving_putBack v).bind fun _ => trivial
      · split
        · exact (Obeys.perform trivial).bind fun _ => (Obeys.perform trivial).bind fun _ =>
            (Obeys.perform trivial).bind fun _ => trivial
        · exact (receiving_putBack v).bind fun _ => trivial

theorem receiving_require : o.require.Obeys .receiving := by
  refine (o.receiving_readFlags.bind fun _ => o.receiving_take o.required).bind fun items => ?_
  split <;> trivial

theorem quiet_openText (hasInput : Bool) (args : Option String) :
    (o.openText hasInput args).Obeys .quiet := (o.receiving_openText hasInput args).quiet

theorem quiet_next : o.next.Obeys .quiet := o.receiving_next.quiet

theorem quiet_rest : o.rest.Obeys .quiet := o.receiving_rest.quiet

theorem quiet_take (n : Nat) : (o.take n).Obeys .quiet := (o.receiving_take n).quiet

theorem quiet_readFlags : o.readFlags.Obeys .quiet := o.receiving_readFlags.quiet

theorem quiet_require : o.require.Obeys .quiet := o.receiving_require.quiet

theorem quiet_hasFlag (c : Char) : (hasFlag c).Obeys .quiet :=
  (Obeys.perform trivial).bind fun _ => trivial

end Input

/-! ## Commands without a clock -/

namespace Command

variable (hasInput : Bool) (args : Option String)

theorem quiet_echo : (echo hasInput args).Obeys .quiet := by
  refine Obeys.bind (.perform trivial) fun _ => ?_
  exact quiet_write _

theorem quiet_findSpecs (names : List String) : (findSpecs names).Obeys .quiet := by
  induction names with
  | nil => trivial
  | cons name rest ih =>
    refine Obeys.bind quiet_shell fun s => ?_
    split
    · exact Obeys.bind ih fun _ => trivial
    · exact Obeys.bind (.perform trivial) fun _ => ih

theorem quiet_help : (help hasInput args).Obeys .quiet := by
  unfold help
  split
  · exact Obeys.bind quiet_shell fun _ => quiet_write _
  · refine Obeys.bind (Input.quiet_openText _ _ _) fun _ => ?_
    refine Obeys.bind (Input.quiet_rest _) fun wanted => ?_
    dsimp only
    split
    · exact Obeys.bind quiet_shell fun _ => quiet_writeAll _
    · exact Obeys.bind (quiet_findSpecs _) fun _ => quiet_writeAll _

theorem quiet_background : (background hasInput args).Obeys .quiet := by
  refine Obeys.bind (Input.quiet_openText _ _ _) fun _ => ?_
  refine Obeys.bind (Input.quiet_require _) fun required => ?_
  split
  · trivial
  · refine Obeys.bind (Input.quiet_rest _) fun items => ?_
    refine Obeys.bind (.perform trivial) fun _ => ?_
    refine Obeys.bind quiet_shell fun s => ?_
    dsimp only
    split
    · trivial
    · exact quiet_write _

theorem quiet_len : (len hasInput args).Obeys .quiet := by
  refine Obeys.bind (Input.quiet_openText _ _ _) fun _ => ?_
  exact Obeys.forAll (Input.quiet_next _) fun _ => quiet_write _

theorem quiet_total (x : Float) (vs : List Value) : (sum.total x vs).Obeys .quiet := by
  induction vs generalizing x with
  | nil => trivial
  | cons v vs ih =>
    unfold sum.total
    split
    · exact ih _
    · exact Obeys.bind (.perform trivial) fun _ => ih x

theorem quiet_sum : (sum hasInput args).Obeys .quiet := by
  refine Obeys.bind (Input.quiet_openText _ _ _) fun _ => ?_
  refine Obeys.bind (Input.quiet_rest _) fun items => ?_
  exact Obeys.bind (quiet_total _ _) fun _ => quiet_write _

theorem quiet_wc : (wc hasInput args).Obeys .quiet := by
  refine Obeys.bind (Input.quiet_openText _ _ _) fun _ => ?_
  refine Obeys.bind (Input.quiet_readFlags _) fun _ => ?_
  refine Obeys.bind (.perform trivial) fun a => ?_
  refine Obeys.forAll (Input.quiet_next _) fun v => ?_
  split
  · exact quiet_write _
  · exact .perform trivial

theorem quiet_head : (head hasInput args).Obeys .quiet := by
  refine Obeys.bind (Input.quiet_openText _ _ _) fun _ => ?_
  refine Obeys.forever (fun left => ?_) _
  split
  · trivial
  · refine Obeys.bind (Input.quiet_next _) fun received => ?_
    cases received with
    | none => trivial
    | some v => exact Obeys.bind (quiet_write v) fun _ => trivial

theorem quiet_tail : (tail hasInput args).Obeys .quiet := by
  refine Obeys.bind (Input.quiet_openText _ _ _) fun _ => ?_
  exact Obeys.bind (Input.quiet_rest _) fun _ => quiet_writeAll _

theorem quiet_drop : (drop hasInput args).Obeys .quiet := by
  refine Obeys.bind (Input.quiet_openText _ _ _) fun _ => ?_
  refine Obeys.bind (Obeys.forEach (Input.quiet_next _) (fun left v => ?_) _) fun _ => trivial
  split
  · exact Obeys.bind (quiet_write v) fun _ => trivial
  · trivial

theorem quiet_uniq : (uniq hasInput args).Obeys .quiet := by
  refine Obeys.bind (Input.quiet_openText _ _ _) fun _ => ?_
  refine Obeys.bind (Obeys.forEach (Input.quiet_next _) (fun seen v => ?_) _) fun _ => trivial
  split
  · trivial
  · exact Obeys.bind (quiet_write v) fun _ => trivial

theorem quiet_grep : (grep hasInput args).Obeys .quiet := by
  refine Obeys.bind (Input.quiet_openText _ _ _) fun _ => ?_
  refine Obeys.bind (Input.quiet_require _) fun required => ?_
  refine Obeys.bind (Input.quiet_hasFlag _) fun _ => ?_
  refine Obeys.bind (.ofExcept _) fun pattern => ?_
  refine Obeys.bind (Input.quiet_hasFlag _) fun inverted => ?_
  exact Obeys.forAll (Input.quiet_next _) fun _ => quiet_writeAll _

theorem quiet_collect : (collect hasInput args).Obeys .quiet := by
  refine Obeys.bind (Input.quiet_openText _ _ _) fun _ => ?_
  exact Obeys.bind (Input.quiet_rest _) fun _ => quiet_write _

theorem quiet_chunk : (chunk hasInput args).Obeys .quiet := by
  refine Obeys.bind (Input.quiet_openText _ _ _) fun _ => ?_
  refine Obeys.forever (fun _ => ?_) ()
  refine Obeys.bind (Input.quiet_take _ _) fun items => ?_
  split
  · trivial
  · exact Obeys.bind (quiet_write _) fun _ => trivial

theorem quiet_join : (join hasInput args).Obeys .quiet := by
  refine Obeys.bind (Input.quiet_openText _ _ _) fun _ => ?_
  exact Obeys.bind (Input.quiet_rest _) fun _ => quiet_write _

theorem quiet_split : (split hasInput args).Obeys .quiet := by
  refine Obeys.bind (.ofExcept _) fun pattern => ?_
  refine Obeys.bind (Input.quiet_openText _ _ _) fun _ => ?_
  refine Obeys.forAll (Input.quiet_next _) fun v => ?_
  split
  · exact quiet_writeAll _
  · exact quiet_write _

theorem quiet_sort : (sort hasInput args).Obeys .quiet := by
  refine Obeys.bind (Input.quiet_openText _ _ _) fun _ => ?_
  exact Obeys.bind (Input.quiet_rest _) fun _ => quiet_writeAll _

theorem quiet_reverse : (reverse hasInput args).Obeys .quiet := by
  refine Obeys.bind (Input.quiet_openText _ _ _) fun _ => ?_
  exact Obeys.bind (Input.quiet_rest _) fun _ => quiet_writeAll _

theorem quiet_trim : (trim hasInput args).Obeys .quiet := by
  refine Obeys.bind (Input.quiet_openText _ _ _) fun _ => ?_
  exact Obeys.forAll (Input.quiet_next _) fun _ => quiet_writeAll _

theorem quiet_gsub : (gsub hasInput args).Obeys .quiet := by
  refine Obeys.bind (Input.quiet_openText _ _ _) fun _ => ?_
  refine Obeys.bind (Input.quiet_require _) fun required => ?_
  refine Obeys.bind (Input.quiet_hasFlag _) fun _ => ?_
  refine Obeys.bind (Input.quiet_hasFlag _) fun _ => ?_
  refine Obeys.bind (Input.quiet_hasFlag _) fun _ => ?_
  refine Obeys.bind (.ofExcept _) fun pattern => ?_
  exact Obeys.forAll (Input.quiet_next _) fun _ => quiet_write _

theorem quiet_history : (history hasInput args).Obeys .quiet := by
  refine Obeys.bind quiet_drain fun _ => ?_
  refine Obeys.bind quiet_shell fun s => ?_
  split
  · split
    · trivial
    · dsimp only
      split
      · exact quiet_write _
      · trivial
  · exact quiet_writeAll _

theorem quiet_previous : (previous hasInput args).Obeys .quiet := by
  refine Obeys.bind quiet_drain fun _ => ?_
  dsimp only
  split
  · trivial
  · refine Obeys.bind quiet_shell fun s => ?_
    split
    · exact quiet_writeAll _
    · trivial

theorem timeless_clear : (clear hasInput args).Obeys .timeless := by
  refine Obeys.bind (.perform trivial) fun _ => ?_
  refine Obeys.bind quiet_drain.timeless fun _ => ?_
  split
  · refine Obeys.bind (.perform trivial) fun _ => ?_
    refine Obeys.bind quiet_shell.timeless fun s => ?_
    exact Obeys.bind (.perform trivial) fun _ => .ofExcept _
  · exact .perform trivial

theorem timeless_alias : («alias» hasInput args).Obeys .timeless := by
  refine Obeys.bind (Input.quiet_openText _ _ _).timeless fun _ => ?_
  refine Obeys.bind (Input.quiet_rest _).timeless fun items => ?_
  refine Obeys.bind quiet_shell.timeless fun s => ?_
  split
  · exact (quiet_writeAll _).timeless
  · refine Obeys.bind (timeless_setConfig _) fun _ => ?_
    split
    · exact .perform trivial
    · trivial
  · split
    · trivial
    · split
      · trivial
      · exact Obeys.bind (.perform trivial) fun _ => timeless_setConfig _

theorem timeless_debug : (debug hasInput args).Obeys .timeless := by
  refine Obeys.bind (Input.quiet_openText _ _ _).timeless fun _ => ?_
  refine Obeys.bind (Input.quiet_require _).timeless fun required => ?_
  refine Obeys.bind (Input.quiet_next _).timeless fun subsystem => ?_
  refine Obeys.bind quiet_shell.timeless fun s => ?_
  have hrest : ∀ filter message, (do
      setFilter filter
      setConfig { (← shell).config with filter := filter.render }
      write (.text message) : Behavior Unit).Obeys .timeless := by
    intro filter message
    refine Obeys.bind (timeless_setFilter _) fun _ => ?_
    refine Obeys.bind quiet_shell.timeless fun s => ?_
    exact Obeys.bind (timeless_setConfig _) fun _ => (quiet_write _).timeless
  dsimp only
  split
  · exact hrest _ _
  · exact hrest _ _
  · exact hrest _ _
  · trivial

theorem timeless_adoptFilter (text : String) : (adoptFilter text).Obeys .timeless :=
  Obeys.bind (.ofExcept _) fun _ => timeless_setFilter _

theorem timeless_settings : (settings hasInput args).Obeys .timeless := by
  refine Obeys.bind quiet_drain.timeless fun _ => ?_
  refine Obeys.bind quiet_shell.timeless fun s => ?_
  split
  · exact Obeys.bind (.ofExcept _) fun _ => (quiet_writeAll _).timeless
  · split
    · exact Obeys.bind (timeless_adoptFilter _) fun _ => timeless_setConfig _
    · split
      · trivial
      · refine Obeys.bind (.ofExcept _) fun found => ?_
        split
        · exact (quiet_write _).timeless
        · trivial
      · dsimp only
        split
        · refine Obeys.bind (timeless_adoptFilter _) fun _ => ?_
          refine Obeys.bind (.ofExcept _) fun found => ?_
          obtain ⟨v, c⟩ := found
          exact Obeys.bind (timeless_setConfig c) fun _ => (quiet_write _).timeless
        · refine Obeys.bind (.ofExcept _) fun found => ?_
          obtain ⟨v, c⟩ := found
          exact Obeys.bind (timeless_setConfig c) fun _ => (quiet_write _).timeless

/-! ## Commands that wait for time to pass -/

/-- A write may be followed by a wait: once everything is closed it fails. -/
theorem neat_write {α : Type} {rest held : List Nat} (v : Value) {f : Unit → Behavior α}
    (hf : (f ()).Tidy rest held) : (write v >>= f).Neat rest held := by
  refine ⟨⟨trivial, fun answer => ⟨?_, ?_⟩⟩, trivial, ?_⟩
  · cases answer with
    | ok _ => exact hf
    | error e => trivial
  · rintro - ⟨e, rfl⟩
    trivial
  · rintro _ ⟨e, rfl⟩
    trivial

theorem neat_undisturbed {held : List Nat} : undisturbed.Neat held held :=
  quiet_undisturbed.timeless.neat

/-- A stage that waits holds the timer while it does. -/
theorem tidy_sleep (ms : Nat) : (sleep ms).Tidy [] [] := by
  refine Tidy.perform trivial (fun level => ?_) False.elim
  split
  · exact List.Subset.refl _
  · refine Tidy.perform trivial (fun timer => ?_) False.elim
    refine Tidy.perform (List.mem_singleton_self timer) (fun elapsed => ?_) fun _ _ _ => ?_
    · exact Tidy.perform (List.mem_singleton_self timer) (fun _ => List.nil_subset _) False.elim
    · exact Obeys.bind (.perform trivial) fun _ => trivial

theorem tidy_wait : (wait hasInput args).Tidy [] [] := by
  refine Tidy.perform trivial (fun _ => ?_) False.elim
  have hrest : ∀ elapsed : Bool, (if elapsed then do
      let o : Input := { name := "wait" }
      o.openText hasInput none
      forAll o.next write else pure () : Behavior Unit).Neat [] [] := by
    intro elapsed
    refine Obeys.neat ?_
    split
    · refine Obeys.bind (Input.quiet_openText _ _ _).timeless fun _ => ?_
      exact Obeys.forAll (Input.quiet_next _).timeless fun _ => (quiet_write _).timeless
    · trivial
  exact Tidy.bind (tidy_sleep _) (fun elapsed => (hrest elapsed).tidy)
    fun elapsed => (hrest elapsed).closing

theorem tidy_tick : (tick hasInput args).Tidy [] [] := by
  unfold tick
  split
  · exact List.Subset.refl _
  · refine (Neat.forever (fun _ => ?_) ()).tidy
    refine Neat.bind neat_undisturbed fun calm => ?_
    split
    · exact Obeys.neat trivial
    · refine Neat.bind quiet_read.timeless.neat fun received => ?_
      cases received with
      | none => exact Obeys.neat trivial
      | some v =>
        refine neat_write v ?_
        exact Tidy.bind (tidy_sleep _) (fun _ => List.Subset.refl _) fun _ => trivial

/-- The timers that `yes` holds. -/
def intervalTimers : Option (Nat × Nat) → List Nat
  | some (timer, _) => [timer]
  | none => []

theorem tidy_awaitInterval {α : Type} (interval : Option (Nat × Nat)) {f : Bool → Behavior α}
    (hf : ∀ go, (f go).Neat (intervalTimers interval) (intervalTimers interval)) :
    (awaitInterval interval >>= f).Tidy (intervalTimers interval) (intervalTimers interval) := by
  cases interval with
  | none => exact (hf true).tidy
  | some i =>
    exact Tidy.perform (List.mem_singleton_self i.1) (fun go => (hf go).tidy)
      fun _ go _ => (hf go).closing

theorem tidy_yes : (yes hasInput args).Tidy [] [] := by
  have hloop : ∀ interval text, (forever hasInput fun fromInput => do
      if !(← undisturbed) then return .inr ()
      if ← perform .outputClosed then return .inr ()
      let received : Option Value ← if fromInput then read else pure none
      if received.isNone then perform .closeInput
      write (received.getD (.text text))
      return if ← awaitInterval interval then .inl received.isSome else .inr () :
        Behavior Unit).Neat (intervalTimers interval) (intervalTimers interval) := by
    intro interval text
    refine Neat.forever (fun fromInput => ?_) _
    refine Neat.bind neat_undisturbed fun calm => ?_
    split
    · exact Obeys.neat trivial
    · refine Neat.bind (Obeys.neat (.perform trivial)) fun closed => ?_
      split
      · exact Obeys.neat trivial
      · have hrest : ∀ received : Option Value, (do
            if received.isNone then perform .closeInput
            write (received.getD (.text text))
            return if ← awaitInterval interval then .inl received.isSome else .inr () :
              Behavior (Bool ⊕ Unit)).Neat (intervalTimers interval) (intervalTimers interval) := by
          intro received
          have hwrite := neat_write (received.getD (.text text))
            (f := fun _ => do
              return if ← awaitInterval interval then Sum.inl received.isSome else Sum.inr ())
            (tidy_awaitInterval interval fun _ => Obeys.neat trivial)
          split
          · exact Neat.bind (Obeys.neat (.perform trivial)) fun _ => hwrite
          · exact hwrite
        split
        · exact Neat.bind quiet_read.timeless.neat hrest
        · exact hrest none
  unfold yes
  obtain ⟨ms, text⟩ := yesArgs args
  cases ms with
  | none => exact (hloop none text).tidy
  | some ms =>
    -- the timer that is started is the only one held from here on
    exact ⟨trivial, fun timer =>
      ⟨Tidy.weaken (hloop (some (timer, ms)) text).tidy (List.nil_subset _), False.elim⟩⟩

/-- Every command but seven is quiet. -/
theorem quiet_program {name : String} {program : StageProgram} (h : program? name = some program)
    (hname : name ∉ ["wait", "tick", "yes", "clear", "alias", "debug", "settings"]) (hasInput : Bool)
    (args : Option String) : (program hasInput args).Obeys .quiet := by
  unfold program? at h
  split at h <;> cases h
  · exact quiet_echo hasInput args
  · exact quiet_help hasInput args
  · exact quiet_collect hasInput args
  · exact quiet_len hasInput args
  · exact quiet_sum hasInput args
  · exact quiet_wc hasInput args
  · exact quiet_join hasInput args
  · exact quiet_split hasInput args
  · exact quiet_chunk hasInput args
  · exact quiet_head hasInput args
  · exact quiet_tail hasInput args
  · exact quiet_drop hasInput args
  · simp at hname
  · exact quiet_uniq hasInput args
  · exact quiet_sort hasInput args
  · exact quiet_reverse hasInput args
  · exact quiet_trim hasInput args
  · exact quiet_gsub hasInput args
  · exact quiet_grep hasInput args
  · simp at hname
  · simp at hname
  · exact quiet_history hasInput args
  · exact quiet_previous hasInput args
  · simp at hname
  · simp at hname
  · simp at hname
  · simp at hname
  · exact quiet_background hasInput args

/-- Every command but three runs without a clock. -/
theorem timeless_program {name : String} {program : StageProgram} (h : program? name = some program)
    (hname : name ∉ ["wait", "tick", "yes"]) (hasInput : Bool) (args : Option String) :
    (program hasInput args).Obeys .timeless := by
  by_cases hchanging : name ∈ ["clear", "alias", "debug", "settings"]
  · obtain rfl | rfl | rfl | rfl :
        name = "clear" ∨ name = "alias" ∨ name = "debug" ∨ name = "settings" := by
      simpa using hchanging
    · cases h
      exact timeless_clear hasInput args
    · cases h
      exact timeless_alias hasInput args
    · cases h
      exact timeless_debug hasInput args
    · cases h
      exact timeless_settings hasInput args
  · refine (quiet_program h (fun hloud => ?_) hasInput args).timeless
    simp only [List.mem_cons, List.not_mem_nil, or_false, not_or] at hname hchanging hloud
    tauto

/-- Every command is tidy. -/
theorem tidy_program {name : String} {program : StageProgram} (h : program? name = some program)
    (hasInput : Bool) (args : Option String) : (program hasInput args).Tidy [] [] := by
  by_cases hname : name ∈ ["wait", "tick", "yes"]
  · obtain rfl | rfl | rfl : name = "wait" ∨ name = "tick" ∨ name = "yes" := by simpa using hname
    · cases h
      exact tidy_wait hasInput args
    · cases h
      exact tidy_tick hasInput args
    · cases h
      exact tidy_yes hasInput args
  · exact (timeless_program h hname hasInput args).tidy (List.Subset.refl _)

end Command

end Pipework
