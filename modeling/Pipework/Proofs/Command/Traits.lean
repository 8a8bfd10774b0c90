import Pipework.Proofs.Command.Mortal
import Pipework.Proofs.Job.Traits

/-!
# The traits of the commands

What is a trait of behaviors holds of every command (`Behavior.Trait.program`), with two exceptions
that are left to the trait: what it means that a request ends the program, and that a command fails
because an argument is missing that it requires. No other error tells of missing arguments.
-/

namespace Pipework

/-! ## Errors -/

theorem Pattern.read_error {ignoreCase : Bool} {text : String} {e : ShellError}
    (h : Pattern.read ignoreCase text = .error e) : ¬ e.IsMissing := by
  unfold Pattern.read at h
  split at h
  · cases h
    exact id
  · split at h <;> cases h
    exact id

theorem Filter.parse?_error {text : String} {e : ShellError} (h : Filter.parse? text = .error e) :
    ¬ e.IsMissing := by
  unfold Filter.parse? at h
  dsimp only at h
  split at h
  · cases h
  · split at h <;> cases h
    exact id

namespace Config

variable {c : Config} {e : ShellError}

theorem toTable_error (h : c.toTable = .error e) : ¬ e.IsMissing := by
  unfold toTable at h
  split at h <;> cases h
  exact id

theorem get_error {key : String} (h : c.get key = .error e) : ¬ e.IsMissing := by
  unfold get at h
  cases htable : c.toTable with
  | ok table => simp [htable, bind, Except.bind] at h
  | error e' =>
    obtain rfl : e' = e := by simpa [htable, bind, Except.bind] using h
    exact toTable_error htable

theorem settings_error (h : c.settings = .error e) : ¬ e.IsMissing := by
  unfold settings at h
  cases htable : c.toTable with
  | ok table => simp [htable, bind, Except.bind] at h
  | error e' =>
    obtain rfl : e' = e := by simpa [htable, bind, Except.bind] using h
    exact toTable_error htable

theorem set_error {key raw : String} (h : c.set key raw = .error e) : ¬ e.IsMissing := by
  unfold set at h
  dsimp only at h
  split at h
  · cases h
    exact id
  · cases htable : c.toTable with
    | error e' =>
      obtain rfl : e' = e := by simpa [htable, bind, Except.bind] using h
      exact toTable_error htable
    | ok table =>
      simp only [htable, bind, Except.bind] at h
      split at h
      · cases h
        exact id
      · split at h
        · cases h
          exact id
        · rename_i updated _
          split at h
          · rename_i e' hget
            cases h
            exact get_error hget
          · split at h <;> cases h
            exact id

end Config

theorem History.clear_error {h : History} {e : ShellError} (herror : h.clear.1 = .error e) :
    ¬ e.IsMissing := by
  unfold clear save at herror
  dsimp only at herror
  split at herror
  · cases herror
  · split at herror <;> cases herror
    exact id

open Behavior Command

namespace Behavior.Trait

variable {P : {α : Type} → Behavior α → Prop} {Last : {α : Type} → Behavior α → (α → Prop) → Prop}
  (ht : Trait P Last)

include ht

/-! ## Actions and input -/

theorem read : P read := ht.perform trivial

theorem writeAll (vs : List Value) : P (writeAll vs) := by
  induction vs with
  | nil => exact ht.result ()
  | cons v vs ih => exact ht.bind (ht.write v) fun _ => ih

theorem readAll : P readAll :=
  ht.bind (ht.forEach ht.read ht.lastRead (fun _ _ => ht.result _) []) fun _ => ht.result _

theorem drain : P drain :=
  ht.bind (ht.forAll ht.read ht.lastRead fun _ => ht.result ()) fun _ => ht.perform trivial

theorem shell : P shell := ht.perform trivial

theorem setConfig (c : Config) : P (setConfig c) := ht.bind ht.shell fun _ => ht.perform trivial

theorem setFilter (f : Filter) : P (setFilter f) := ht.bind ht.shell fun _ => ht.perform trivial

theorem undisturbed : P undisturbed := ht.bind (ht.perform trivial) fun _ => ht.result _

theorem sleep (ms : Nat) : P (sleep ms) := by
  refine ht.bind (ht.perform trivial) fun level => ?_
  split
  · exact ht.result _
  · exact ht.bind (ht.perform trivial) fun _ => ht.bind (ht.perform trivial) fun _ =>
      ht.bind (ht.perform trivial) fun _ => ht.result _

section Input

variable (o : Input)

theorem openText (hasInput : Bool) (args : Option String) : P (o.openText hasInput args) :=
  ht.bind (ht.perform trivial) fun _ => ht.perform trivial

theorem next : P o.next := by
  refine ht.bind ht.undisturbed fun calm => ?_
  split
  · exact ht.result none
  · refine ht.bind (ht.perform trivial) fun a => ?_
    split
    · exact ht.bind (ht.perform trivial) fun _ => ht.result _
    · refine ht.bind (ht.perform trivial) fun closed => ?_
      split
      · exact ht.result none
      · exact ht.bind ht.read fun _ => ht.result _

theorem lastNext : Last o.next (· = none) := by
  refine ht.lastBind ht.lastUndisturbed ?_
  rintro calm rfl
  exact ht.lastResult rfl

theorem putBack (v : Value) : P (Input.putBack v) :=
  ht.bind (ht.perform trivial) fun _ => ht.perform trivial

theorem rest : P o.rest :=
  ht.bind (ht.perform trivial) fun _ => ht.bind (ht.perform trivial) fun _ =>
    ht.bind ht.readAll fun _ => ht.result _

theorem take {n : Nat} (hcrash : Input.maxTake < n → P (.crash : Behavior (List Value))) :
    P (o.take n) := by
  unfold Input.take
  split
  · exact hcrash ‹_›
  refine ht.forever (fun (left, items) => ?_) (fun (left, items) => ?_) _
  · dsimp only
    split
    · exact ht.result _
    · exact ht.bind (ht.next o) fun
        | some _ => ht.result _
        | none => ht.result _
  · dsimp only
    split
    · exact ht.lastResult rfl
    · refine ht.lastBind (ht.lastNext o) ?_
      rintro received rfl
      exact ht.lastResult rfl

theorem lastTake {n : Nat}
    (hcrash : Input.maxTake < n → Last (.crash : Behavior (List Value)) (· = [])) :
    Last (o.take n) (· = []) := by
  unfold Input.take
  split
  · exact hcrash ‹_›
  refine ht.lastForever ?_
  dsimp only
  split
  · exact ht.lastResult ⟨_, rfl, rfl⟩
  · refine ht.lastBind (ht.lastNext o) ?_
    rintro received rfl
    exact ht.lastResult ⟨_, rfl, rfl⟩

theorem readFlags : P o.readFlags := by
  unfold Input.readFlags
  split
  · exact ht.result ()
  · refine ht.forever (fun _ => ht.bind (ht.next o) fun received => ?_)
      (fun _ => ht.lastBind (ht.lastNext o) ?_) _
    · cases received with
      | none => exact ht.result _
      | some v =>
        dsimp only
        split
        · exact ht.bind (ht.putBack v) fun _ => ht.result _
        · split
          · exact ht.bind (ht.perform trivial) fun _ => ht.bind (ht.perform trivial) fun _ =>
              ht.bind (ht.perform trivial) fun _ => ht.result _
          · exact ht.bind (ht.putBack v) fun _ => ht.fail id
    · rintro received rfl
      exact ht.lastResult rfl

theorem hasFlag (c : Char) : P (Input.hasFlag c) := ht.bind (ht.perform trivial) fun _ => ht.result _

end Input

/-! ## Commands that require nothing -/

section Commands

variable (hasInput : Bool) (args : Option String)

theorem echo : P (echo hasInput args) := ht.bind (ht.perform trivial) fun _ => ht.write _

theorem findSpecs (names : List String) : P (findSpecs names) := by
  induction names with
  | nil => exact ht.result []
  | cons name rest ih =>
    refine ht.bind ht.shell fun s => ?_
    split
    · exact ht.bind ih fun _ => ht.result _
    · exact ht.bind (ht.perform trivial) fun _ => ih

theorem help : P (help hasInput args) := by
  unfold Command.help
  split
  · exact ht.bind ht.shell fun _ => ht.write _
  · refine ht.bind (ht.openText _ _ _) fun _ => ht.bind (ht.rest _) fun wanted => ?_
    dsimp only
    split
    · exact ht.bind ht.shell fun _ => ht.writeAll _
    · exact ht.bind (ht.findSpecs _) fun _ => ht.writeAll _

theorem trim : P (trim hasInput args) :=
  ht.bind (ht.openText _ _ _) fun _ => ht.forAll (ht.next _) (ht.lastNext _) fun _ => ht.writeAll _

theorem len : P (len hasInput args) :=
  ht.bind (ht.openText _ _ _) fun _ => ht.forAll (ht.next _) (ht.lastNext _) fun _ => ht.write _

theorem total (x : Float) (vs : List Value) : P (sum.total x vs) := by
  induction vs generalizing x with
  | nil => exact ht.result x
  | cons v vs ih =>
    unfold Command.sum.total
    split
    · exact ih _
    · exact ht.bind (ht.perform trivial) fun _ => ih x

theorem sum : P (sum hasInput args) := by
  refine ht.bind (ht.openText _ _ _) fun _ => ht.bind (ht.rest _) fun items => ?_
  exact ht.bind (ht.total _ _) fun _ => ht.write _

theorem wc : P (wc hasInput args) := by
  refine ht.bind (ht.openText _ _ _) fun _ => ht.bind (ht.readFlags _) fun _ => ?_
  refine ht.bind (ht.perform trivial) fun a => ht.forAll (ht.next _) (ht.lastNext _) fun v => ?_
  split
  · exact ht.write _
  · exact ht.perform trivial

theorem head : P (head hasInput args) := by
  refine ht.bind (ht.openText _ _ _) fun _ => ht.forever (fun left => ?_) (fun left => ?_) _
  · split
    · exact ht.result _
    · refine ht.bind (ht.next _) fun received => ?_
      cases received with
      | none => exact ht.result _
      | some v => exact ht.bind (ht.write v) fun _ => ht.result _
  · split
    · exact ht.lastResult rfl
    · refine ht.lastBind (ht.lastNext _) ?_
      rintro received rfl
      exact ht.lastResult rfl

theorem tail : P (tail hasInput args) :=
  ht.bind (ht.openText _ _ _) fun _ => ht.bind (ht.rest _) fun _ => ht.writeAll _

theorem drop : P (drop hasInput args) := by
  refine ht.bind (ht.openText _ _ _) fun _ => ?_
  refine ht.bind (ht.forEach (ht.next _) (ht.lastNext _) (fun left v => ?_) _) fun _ => ht.result _
  split
  · exact ht.bind (ht.write v) fun _ => ht.result _
  · exact ht.result _

theorem uniq : P (uniq hasInput args) := by
  refine ht.bind (ht.openText _ _ _) fun _ => ?_
  refine ht.bind (ht.forEach (ht.next _) (ht.lastNext _) (fun seen v => ?_) _) fun _ => ht.result _
  split
  · exact ht.result _
  · exact ht.bind (ht.write v) fun _ => ht.result _

theorem collect : P (collect hasInput args) :=
  ht.bind (ht.openText _ _ _) fun _ => ht.bind (ht.rest _) fun _ => ht.write _

theorem chunk (hcrash : Input.maxTake < countOr 5 args → P (.crash : Behavior (List Value)) ∧
    Last (.crash : Behavior (List Value)) (· = [])) : P (chunk hasInput args) := by
  refine ht.bind (ht.openText _ _ _) fun _ => ht.forever (fun _ => ?_) (fun _ => ?_) ()
  · refine ht.bind (ht.take _ fun hsize => (hcrash hsize).1) fun items => ?_
    split
    · exact ht.result _
    · exact ht.bind (ht.write _) fun _ => ht.result _
  · refine ht.lastBind (ht.lastTake _ fun hsize => (hcrash hsize).2) ?_
    rintro items rfl
    exact ht.lastResult rfl

theorem join : P (join hasInput args) :=
  ht.bind (ht.openText _ _ _) fun _ => ht.bind (ht.rest _) fun _ => ht.write _

theorem split : P (split hasInput args) := by
  refine ht.bind (ht.ofExcept fun e => Pattern.read_error) fun pattern => ?_
  refine ht.bind (ht.openText _ _ _) fun _ => ht.forAll (ht.next _) (ht.lastNext _) fun v => ?_
  split
  · exact ht.writeAll _
  · exact ht.write _

theorem sort : P (sort hasInput args) :=
  ht.bind (ht.openText _ _ _) fun _ => ht.bind (ht.rest _) fun _ => ht.writeAll _

theorem reverse : P (reverse hasInput args) :=
  ht.bind (ht.openText _ _ _) fun _ => ht.bind (ht.rest _) fun _ => ht.writeAll _

theorem wait : P (wait hasInput args) := by
  refine ht.bind (ht.perform trivial) fun _ => ht.bind (ht.sleep _) fun elapsed => ?_
  split
  · exact ht.bind (ht.openText _ _ _) fun _ =>
      ht.forAll (ht.next _) (ht.lastNext _) fun _ => ht.write _
  · exact ht.result ()

theorem tick : P (tick hasInput args) := by
  unfold Command.tick
  split
  · exact ht.result ()
  refine ht.forever (fun _ => ht.bind ht.undisturbed fun calm => ?_)
    (fun _ => ht.lastBind ht.lastUndisturbed ?_) ()
  · split
    · exact ht.result _
    · refine ht.bind ht.read fun received => ?_
      cases received with
      | none => exact ht.result _
      | some v => exact ht.bind (ht.write v) fun _ => ht.bind (ht.sleep _) fun _ => ht.result _
  · rintro calm rfl
    exact ht.lastResult rfl

theorem awaitInterval (interval : Option (Nat × Nat)) : P (awaitInterval interval) := by
  cases interval with
  | none => exact ht.result true
  | some i => exact ht.perform trivial

theorem yes : P (yes hasInput args) := by
  have hrest : ∀ interval text (received : Option Value), P (do
      Behavior.write (received.getD (.text text))
      return if ← Command.awaitInterval interval then .inl received.isSome else .inr () :
        Behavior (Bool ⊕ Unit)) := fun interval text received =>
    ht.bind (ht.write _) fun _ => ht.bind (ht.awaitInterval interval) fun _ => ht.result _
  have hfrom : ∀ interval text (received : Option Value), P (do
      if received.isNone then Behavior.perform .closeInput
      Behavior.write (received.getD (.text text))
      return if ← Command.awaitInterval interval then .inl received.isSome else .inr () :
        Behavior (Bool ⊕ Unit)) := by
    intro interval text received
    split
    · exact ht.bind (ht.perform trivial) fun _ => hrest interval text received
    · exact hrest interval text received
  have hloop : ∀ interval text, P (Behavior.forever hasInput fun fromInput => do
      if !(← Behavior.undisturbed) then return .inr ()
      if ← Behavior.perform .outputClosed then return .inr ()
      let received : Option Value ← if fromInput then Behavior.read else pure none
      if received.isNone then Behavior.perform .closeInput
      Behavior.write (received.getD (.text text))
      return if ← Command.awaitInterval interval then .inl received.isSome else .inr () :
        Behavior Unit) := by
    refine fun interval text => ht.forever (fun fromInput => ?_)
      (fun fromInput => ht.lastBind ht.lastUndisturbed ?_) _
    · refine ht.bind ht.undisturbed fun calm => ?_
      split
      · exact ht.result _
      refine ht.bind (ht.perform trivial) fun closed => ?_
      split
      · exact ht.result _
      · split
        · exact ht.bind ht.read (hfrom interval text)
        · exact hfrom interval text none
    · rintro calm rfl
      exact ht.lastResult rfl
  unfold Command.yes
  obtain ⟨ms, text⟩ := yesArgs args
  cases ms with
  | none => exact hloop none text
  | some ms =>
    have hinterval : P ((fun timer => some (timer, ms)) <$>
        Behavior.perform (.startTimer .interval)) :=
      ht.bind (ht.perform trivial) fun _ => ht.result _
    exact ht.bind hinterval fun interval => hloop interval text

theorem history : P (history hasInput args) := by
  refine ht.bind ht.drain fun _ => ht.bind ht.shell fun s => ?_
  split
  · split
    · exact ht.fail id
    · dsimp only
      split
      · exact ht.write _
      · exact ht.result ()
  · exact ht.writeAll _

theorem previous
    (hcrash : signedCount (countOr 1 args) = -(Int.pow 2 63) → P (.crash : Behavior Unit)) :
    P (previous hasInput args) := by
  refine ht.bind ht.drain fun _ => ?_
  dsimp only
  split
  · exact hcrash ‹_›
  · refine ht.bind ht.shell fun s => ?_
    split
    · exact ht.writeAll _
    · exact ht.result ()

theorem clear : P (clear hasInput args) := by
  refine ht.bind (ht.perform trivial) fun _ => ht.bind ht.drain fun _ => ?_
  split
  · refine ht.bind (ht.perform trivial) fun _ => ht.bind ht.shell fun s => ?_
    exact ht.bind (ht.perform trivial) fun _ => ht.ofExcept fun e => History.clear_error
  · exact ht.perform trivial

theorem «alias» : P («alias» hasInput args) := by
  refine ht.bind (ht.openText _ _ _) fun _ => ht.bind (ht.rest _) fun items => ?_
  refine ht.bind ht.shell fun s => ?_
  split
  · exact ht.writeAll _
  · refine ht.bind (ht.setConfig _) fun _ => ?_
    split
    · exact ht.perform trivial
    · exact ht.result ()
  · split
    · exact ht.fail id
    · split
      · exact ht.fail id
      · exact ht.bind (ht.perform trivial) fun _ => ht.setConfig _

theorem adoptFilter (text : String) : P (adoptFilter text) :=
  ht.bind (ht.ofExcept fun _ => Filter.parse?_error) fun _ => ht.setFilter _

theorem settings
    (hcrash : settingRequest (trimmed (args.getD "")) = .unreadable → P (.crash : Behavior Unit)) :
    P (settings hasInput args) := by
  refine ht.bind ht.drain fun _ => ht.bind ht.shell fun s => ?_
  split
  · exact ht.bind (ht.ofExcept fun _ => Config.settings_error) fun _ => ht.writeAll _
  · split
    · exact ht.bind (ht.adoptFilter _) fun _ => ht.setConfig _
    · split
      · exact hcrash ‹_›
      · refine ht.bind (ht.ofExcept fun _ => Config.get_error) fun found => ?_
        split
        · exact ht.write _
        · exact ht.fail id
      · dsimp only
        split
        · refine ht.bind (ht.adoptFilter _) fun _ => ?_
          refine ht.bind (ht.ofExcept fun _ => Config.set_error) fun (_, c) => ?_
          exact ht.bind (ht.setConfig c) fun _ => ht.write _
        · refine ht.bind (ht.ofExcept fun _ => Config.set_error) fun (_, c) => ?_
          exact ht.bind (ht.setConfig c) fun _ => ht.write _

end Commands

end Behavior.Trait

/-! ## Every command -/

namespace Command

/-- How a command that requires arguments takes its input. -/
def requiring? (name : String) : Option Input :=
  match name with
  | "gsub" => some { name := "gsub", flags := some "gGi", required := 2 }
  | "grep" => some { name := "grep", flags := some "iv", required := 1 }
  | "debug" => some { name := "debug", required := 1 }
  | "background" => some { name := "background", required := 1 }
  | _ => none

end Command

namespace Behavior.Trait

variable {P : {α : Type} → Behavior α → Prop} {Last : {α : Type} → Behavior α → (α → Prop) → Prop}
  (ht : Trait P Last)

include ht

/-- **Every command has the trait**, if that is no matter of its end by a fatal request. What is to be
said of a command that requires arguments follows from how it takes them. -/
theorem program {R : Behavior Unit → Prop} (hR : ∀ b : Behavior Unit, P b → R b) {name : String}
    {program : StageProgram} (h : program? name = some program) (hasInput : Bool)
    {args : Option String}
    (hcrash : Fatal name args → ∀ {α : Type} (told : α → Prop), P (.crash : Behavior α) ∧
      Last (.crash : Behavior α) told)
    (hrequire : ∀ o, requiring? name = some o → ∀ text, text = args ∨ args = none →
      ∀ f : List Value → Behavior Unit, (∀ required, P (f required)) →
        R ((o.openText hasInput text).bind fun _ => o.require.bind f)) :
    R (program hasInput args) := by
  unfold program? at h
  split at h <;> cases h
  · exact hR _ (ht.echo hasInput args)
  · exact hR _ (ht.help hasInput args)
  · exact hR _ (ht.collect hasInput args)
  · exact hR _ (ht.len hasInput args)
  · exact hR _ (ht.sum hasInput args)
  · exact hR _ (ht.wc hasInput args)
  · exact hR _ (ht.join hasInput args)
  · exact hR _ (ht.split hasInput args)
  · exact hR _ (ht.chunk hasInput args fun hsize => hcrash (.inl ⟨rfl, hsize⟩) _)
  · exact hR _ (ht.head hasInput args)
  · exact hR _ (ht.tail hasInput args)
  · exact hR _ (ht.drop hasInput args)
  · exact hR _ (ht.wait hasInput args)
  · exact hR _ (ht.uniq hasInput args)
  · exact hR _ (ht.sort hasInput args)
  · exact hR _ (ht.reverse hasInput args)
  · exact hR _ (ht.trim hasInput args)
  · refine hrequire _ rfl args (.inl rfl) _ fun required => ?_
    refine ht.bind (ht.hasFlag _) fun _ => ht.bind (ht.hasFlag _) fun _ => ?_
    refine ht.bind (ht.hasFlag _) fun _ => ?_
    refine ht.bind (ht.ofExcept fun _ => Pattern.read_error) fun pattern => ?_
    exact ht.forAll (ht.next _) (ht.lastNext _) fun _ => ht.write _
  · refine hrequire _ rfl args (.inl rfl) _ fun required => ?_
    refine ht.bind (ht.hasFlag _) fun _ => ?_
    refine ht.bind (ht.ofExcept fun _ => Pattern.read_error) fun pattern => ?_
    refine ht.bind (ht.hasFlag _) fun inverted => ?_
    exact ht.forAll (ht.next _) (ht.lastNext _) fun _ => ht.writeAll _
  · exact hR _ (ht.tick hasInput args)
  · exact hR _ (ht.yes hasInput args)
  · exact hR _ (ht.history hasInput args)
  · exact hR _ (ht.previous hasInput args fun hcount =>
      (hcrash (.inr (.inl ⟨rfl, hcount⟩)) fun _ => True).1)
  · exact hR _ (ht.clear hasInput args)
  · exact hR _ (ht.alias hasInput args)
  · refine hrequire _ rfl args (.inl rfl) _ fun required => ?_
    refine ht.bind (ht.next _) fun subsystem => ht.bind ht.shell fun s => ?_
    have hrest : ∀ filter message, P (do
        Behavior.setFilter filter
        Behavior.setConfig { (← Behavior.shell).config with filter := filter.render }
        Behavior.write (.text message) : Behavior Unit) := fun filter message =>
      ht.bind (ht.setFilter _) fun _ => ht.bind ht.shell fun s =>
        ht.bind (ht.setConfig _) fun _ => ht.write _
    dsimp only
    split
    · exact hrest _ _
    · exact hrest _ _
    · exact hrest _ _
    · exact ht.fail id
  · exact hR _ (ht.settings hasInput args fun hrequest =>
      (hcrash (.inr (.inr ⟨rfl, hrequest⟩)) fun _ => True).1)
  · unfold background
    have htext : (if !hasInput && args.isNone then some "background:listCommands" else args) = args ∨
        args = none := by
      cases args with
      | none => exact .inr rfl
      | some text => exact .inl (if_neg (by simp))
    refine hrequire _ rfl _ htext _ fun required => ?_
    split
    · exact ht.fail id
    · refine ht.bind (ht.rest _) fun items => ht.bind (ht.perform trivial) fun _ => ?_
      refine ht.bind ht.shell fun s => ?_
      dsimp only
      split
      · exact ht.fail id
      · exact ht.write _

end Behavior.Trait

end Pipework
