import Pipework.Proofs.Command.Registry
import Pipework.Proofs.Command.Respecting
import Pipework.Proofs.Config
import Pipework.Proofs.Log.Rendering

/-!
# The filter in force and the setting of it

The log filter stands twice in a shell, as the filter in force and as the text of a setting. They
are *in step* if the text asks for the filter (`Shell.InStep`). Every command guards this, unless it
is asked for what it does in the wrong order or cannot write down (`Command.isFaithful`):

* `settings` takes a new filter from the text as it was typed, before the text is read as a value;
  a value that then is no text, or another text, leaves the two out of step;
* `debug` writes the setting from the filter, which is right for plain filters only.
-/

namespace Pipework

/-- The filter in force is the one that the setting asks for. It is plain, the settings can be
written, and commands go by their names. -/
structure Shell.InStep (s : Shell) : Prop where
  named : s.registry.Named
  writable : s.config.isWritable
  plain : s.filter.Plain
  same : (Filter.start s.config.filter).1 = s.filter

namespace Shell.InStep

variable {s : Shell}

theorem sorted (h : s.InStep) : Filter.Sorted s.filter.rules := h.same ▸ Filter.sorted_start _

/-- The setting may be written from a plain filter. -/
theorem render (h : s.InStep) {f : Filter} (hplain : f.Plain) (hsorted : Filter.Sorted f.rules) :
    ({ s with filter := f, config := { s.config with filter := f.render } } : Shell).InStep :=
  ⟨h.named, h.writable, hplain, Filter.start_render hplain hsorted⟩

theorem history (h : s.InStep) (history : History) : ({ s with history := history } : Shell).InStep :=
  ⟨h.named, h.writable, h.plain, h.same⟩

theorem aliases (h : s.InStep) (aliases : Keyed String) :
    ({ s with config := { s.config with aliases := aliases } } : Shell).InStep :=
  ⟨h.named, h.writable, h.plain, h.same⟩

end Shell.InStep

namespace Command

/-- The items of the argument text of `debug`. -/
def debugItems (args : Option String) : List Value :=
  (args.map ({ name := "debug", required := 1 } : Input).split).getD []

/-- What is typed decides what `debug` is asked for, and a name to enable can be written. -/
def isFaithfulDebug (hasInput : Bool) (args : Option String) : Bool :=
  match debugItems args with
  | [] => !hasInput
  | [action] => action.display != "enable" || !hasInput
  | action :: name :: _ =>
    action.display != "enable" || name.display == "*" || decide (PlainName name.display)

/-- A filter taken from the text is plain, and the value of the text is a text that asks for the
same filter. -/
def isFaithfulFilter (raw : String) : Bool :=
  match Filter.parse? raw, Config.valueOf raw with
  | .error _, _ => true
  | .ok f, .string text => decide f.Plain && (Filter.parse? text).toOption == some f
  | .ok _, _ => false

/-- A new filter is stored as it is taken. -/
def isFaithfulSetting (args : Option String) : Bool :=
  match settingRequest (trimmed (args.getD "")) with
  | .change key raw => key != "debug.filter" || isFaithfulFilter raw
  | _ => true

/-- The command is not asked to change the filter in a way that the setting cannot follow. -/
def isFaithful (name : String) (hasInput : Bool) (args : Option String) : Bool :=
  (name != "debug" || isFaithfulDebug hasInput args) &&
    (name != "settings" || isFaithfulSetting args)

end Command

open Behavior

section Guarding

variable {hasInput : Bool} {I : Shell → Prop} {s : View}

/-! ## Actions and input -/

theorem guards_setFilter (f : Filter) :
    (setFilter f).Guards hasInput I
      (fun _ s' => s' = { s with shell := { s.shell with filter := f } }) s := by
  refine guards_act id ?_
  rintro _ s' ⟨rfl, rfl⟩
  refine guards_act id ?_
  rintro _ s'' rfl
  rfl

theorem guards_setConfig (c : Config) :
    (setConfig c).Guards hasInput I
      (fun _ s' => s' = { s with shell := { s.shell with config := c } }) s := by
  refine guards_act id ?_
  rintro _ s' ⟨rfl, rfl⟩
  refine guards_act id ?_
  rintro _ s'' rfl
  rfl

theorem guards_undisturbed : undisturbed.Guards hasInput I (fun _ s' => s' = s) s := by
  refine guards_act id ?_
  rintro _ s' rfl
  rfl

theorem guards_ok {α β : Type} {a : α} {f : α → Behavior β} {Q : β → View → Prop}
    (h : (f a).Guards hasInput I Q s) : ((ofExcept (.ok a)).bind f).Guards hasInput I Q s := h

namespace Input

variable (o : Input)

theorem guards_openText (piped : Bool) (args : Option String) :
    (o.openText piped args).Guards hasInput I
      (fun _ s' => s' = { s with arguments := { queue := (args.map o.split).getD [] } }) s := by
  refine guards_act id ?_
  rintro _ s' rfl
  refine guards_act id ?_
  rintro _ s'' rfl
  rfl

/-- What `next` takes: the first item of the argument text, if there is one. -/
structure Next (hasInput : Bool) (I : Shell → Prop) (s : View) (answer : Option Value) (s' : View) :
    Prop where
  kept : I s'.shell
  first : ∀ v rest, s.arguments.queue = v :: rest →
    answer = none ∨ answer = some v ∧ s'.arguments.queue = rest
  ended : s.arguments.queue = [] → s'.arguments.queue = [] ∧ (hasInput = false → answer = none)

theorem guards_next (hs : I s.shell) : o.next.Guards hasInput I (Next hasInput I s) s := by
  refine Guards.bind guards_undisturbed ?_
  rintro calm s rfl
  cases calm with
  | false => exact ⟨hs, fun _ _ _ => .inl rfl, fun hqueue => ⟨hqueue, fun _ => rfl⟩⟩
  | true =>
    refine guards_perform id ?_
    rintro _ s ⟨rfl, rfl⟩
    split
    · rename_i v rest hqueue
      refine guards_perform id ?_
      rintro _ _ rfl
      refine ⟨hs, fun w others hsame => .inr ?_, fun hempty => ?_⟩
      · rw [hqueue, List.cons.injEq] at hsame
        exact ⟨congrArg some hsame.1, hsame.2⟩
      · rw [hqueue] at hempty
        simp at hempty
    · rename_i hqueue
      have hfirst : ∀ {answer : Option Value} {s' : View} (v rest), s.arguments.queue = v :: rest →
          answer = none ∨ answer = some v ∧ s'.arguments.queue = rest := by
        intro _ _ v rest hcons
        rw [hqueue] at hcons
        simp at hcons
      refine guards_perform id ?_
      rintro closed s ⟨hclosed, rfl⟩
      cases closed with
      | true => exact ⟨hs, hfirst, fun _ => ⟨hqueue, fun _ => rfl⟩⟩
      | false =>
        -- a stage that is not told of a closed input has one
        refine ⟨fun _ => hs, fun shell hshell answer s' hsees => ?_⟩
        obtain rfl : s' = _ := hsees
        refine ⟨hshell.elim (fun heq => heq ▸ hs) And.right, hfirst, fun _ => ⟨hqueue, fun hnone => ?_⟩⟩
        exact absurd (hclosed hnone) Bool.false_ne_true

/-- What `require` takes of one item: the first of the argument text, if there is one. -/
structure Required (hasInput : Bool) (I : Shell → Prop) (s : View) (v : Value) (s' : View) :
    Prop where
  kept : I s'.shell
  first : ∀ w rest, s.arguments.queue = w :: rest → v = w ∧ s'.arguments.queue = rest
  ended : s.arguments.queue = [] → hasInput = true ∧ s'.arguments.queue = []

theorem Next.required {v : Value} {s' : View} (h : Next hasInput I s (some v) s') :
    Required hasInput I s v s' where
  kept := h.kept
  first w rest hqueue := by
    rcases h.first w rest hqueue with hnone | ⟨hsome, hrest⟩
    · simp at hnone
    · exact ⟨Option.some.inj hsome, hrest⟩
  ended hqueue := by
    obtain ⟨hempty, hnone⟩ := h.ended hqueue
    refine ⟨?_, hempty⟩
    cases hasInput with
    | true => rfl
    | false => simpa using hnone rfl

theorem guards_require (hflags : o.flags = none) (hrequired : o.required = 1) (hs : I s.shell) :
    o.require.Guards hasInput I (fun items s' => ∃ v, items = [v] ∧ Required hasInput I s v s') s := by
  have htake : (o.take 1).Guards hasInput I
      (fun items s' => I s'.shell ∧ (items = [] ∨ ∃ v, items = [v] ∧ Required hasInput I s v s')) s := by
    unfold take
    split
    · trivial
    · refine ⟨fun x s' => x = (1, []) ∧ s' = s ∨ ∃ v, x = (0, [v]) ∧ Required hasInput I s v s',
        fun items s' => I s'.shell ∧ (items = [] ∨ ∃ v, items = [v] ∧ Required hasInput I s v s'),
        .inl ⟨rfl, rfl⟩, ?_, fun _ _ h => h⟩
      rintro x s' (⟨rfl, rfl⟩ | ⟨v, rfl, hv⟩)
      · refine Guards.bind (o.guards_next hs) fun answer s'' hanswer => ?_
        cases answer with
        | none => exact ⟨hanswer.kept, .inl rfl⟩
        | some v => exact .inr ⟨v, rfl, hanswer.required⟩
      · exact ⟨hv.kept, .inr ⟨v, rfl, hv⟩⟩
  unfold require readRequired readFlags
  rw [hflags, hrequired]
  refine Guards.bind htake ?_
  rintro items s' ⟨hkept, rfl | ⟨v, rfl, hv⟩⟩
  · exact hkept
  · exact ⟨v, rfl, hv⟩

end Input

end Guarding

/-! ## Commands that change the shell -/

namespace Command

variable {hasInput : Bool} {args : Option String}

variable {s : View}

/-- Filter and setting are in step when the command is over. -/
def EndsInStep (_ : Unit) (s : View) : Prop := s.shell.InStep

theorem guards_quiet {b : Behavior Unit} (h : b.Obeys (.respecting Shell.InStep))
    (hs : s.shell.InStep) : b.Guards hasInput Shell.InStep EndsInStep s :=
  h.guards hs fun _ _ => id

theorem guards_alias (piped : Bool) (hs : s.shell.InStep) :
    («alias» piped args).Guards hasInput Shell.InStep EndsInStep s := by
  refine Guards.bind (Input.guards_openText _ piped args) ?_
  rintro _ s rfl
  have hrest := (Input.quiet_rest { name := "alias", splitsInput := true, flattens := true }).respecting
    (I := Shell.InStep)
  refine Guards.bind (hrest.guards hs fun _ _ => id) fun items s hs => ?_
  refine guards_perform id ?_
  rintro _ s ⟨rfl, rfl⟩
  split
  · exact guards_quiet (quiet_writeAll _).respecting hs
  · refine Guards.bind (guards_setConfig _) ?_
    rintro _ s rfl
    split
    · exact guards_quiet (.perform trivial) (hs.aliases _)
    · exact hs.aliases _
  · split
    · exact hs
    · split
      · exact hs
      · refine guards_perform id ?_
        rintro _ s rfl
        refine (guards_setConfig _).mono ?_
        rintro _ s rfl
        exact hs.aliases _

/-- The item that `debug` takes and the name after it, if they are as they are typed. -/
theorem plain_of_faithful (h : isFaithfulDebug hasInput args) {s₁ s₂ s₃ : View} {action : Value}
    {name : Option Value} (hqueue : s₁.arguments.queue = debugItems args)
    (haction : Input.Required hasInput Shell.InStep s₁ action s₂)
    (hname : Input.Next hasInput Shell.InStep s₂ name s₃) (henable : action.display = "enable") :
    (name.map (·.display)).getD "*" = "*" ∨ PlainName ((name.map (·.display)).getD "*") := by
  unfold isFaithfulDebug at h
  rw [← hqueue] at h
  split at h
  · rename_i hempty
    have hinput := (haction.ended hempty).1
    simp [hinput] at h
  · rename_i typed hone
    obtain ⟨rfl, hrest⟩ := haction.first typed [] hone
    have hnone := (hname.ended hrest).2 (by simpa [henable] using h)
    simp [hnone]
  · rename_i typed target rest htwo
    obtain ⟨rfl, hrest⟩ := haction.first typed _ htwo
    rcases hname.first target rest hrest with rfl | ⟨rfl, -⟩
    · exact .inl rfl
    · simpa [henable] using h

theorem guards_debug (piped : Bool) (h : isFaithfulDebug hasInput args) (hs : s.shell.InStep) :
    (debug piped args).Guards hasInput Shell.InStep EndsInStep s := by
  refine Guards.bind (Input.guards_openText _ piped args) ?_
  rintro _ s₁ rfl
  refine Guards.bind (Input.guards_require _ rfl rfl hs) ?_
  rintro items s₂ ⟨action, rfl, haction⟩
  refine Guards.bind (Input.guards_next _ haction.kept) fun name s₃ hname => ?_
  refine guards_perform id ?_
  rintro _ s₃ ⟨rfl, rfl⟩
  -- the setting is written right after the filter, with no wait between them
  have hrest : ∀ (filter : Filter) (message : String), filter.Plain → Filter.Sorted filter.rules →
      (do
        setFilter filter
        setConfig { (← shell).config with filter := filter.render }
        write (.text message) : Behavior Unit).Guards hasInput Shell.InStep EndsInStep s₃ := by
    intro filter message hplain hsorted
    refine Guards.bind (guards_setFilter filter) ?_
    rintro _ s rfl
    refine guards_perform id ?_
    rintro _ s ⟨rfl, rfl⟩
    refine Guards.bind (guards_setConfig _) ?_
    rintro _ s rfl
    exact guards_quiet (quiet_write _).respecting (hname.kept.render hplain hsorted)
  dsimp only
  split
  · exact hrest _ _ Filter.plain_standard (List.pairwise_singleton _ _)
  · rename_i henable
    refine hrest _ _ (hname.kept.plain.setLevel ?_ _) (Filter.sorted_insertRule _ hname.kept.sorted)
    exact plain_of_faithful h rfl haction hname henable
  · exact hrest _ _ hname.kept.plain hname.kept.sorted
  · exact hname.kept

theorem inStep_standard {s : Shell} (hs : s.InStep) (aliases : Keyed String) :
    ({ s with filter := .standard, config := { Config.standard with aliases := aliases } } :
      Shell).InStep where
  named := hs.named
  writable := show Config.standard.isWritable from by decide
  plain := Filter.plain_standard
  same := show (Filter.start "*=warn").1 = .standard from by decide

theorem adoptFilter_ok {text : String} {f : Filter} (h : Filter.parse? text = .ok f) :
    adoptFilter text = setFilter f := by
  rw [adoptFilter, h]
  rfl

theorem adoptFilter_error {text : String} {e : ShellError} (h : Filter.parse? text = .error e) :
    adoptFilter text = .fail e := by
  rw [adoptFilter, h]
  rfl

/-- A change of a setting keeps filter and setting in step. -/
theorem inStep_set {s : Shell} (hs : s.InStep) {key raw : String} {v : Toml} {c : Config}
    (hkey : key ≠ "debug.filter") (h : s.config.set key raw = .ok (v, c)) :
    ({ s with config := c } : Shell).InStep := by
  obtain ⟨hwritable, hfilter⟩ := Config.set_ok h
  refine ⟨hs.named, hwritable, hs.plain, ?_⟩
  show (Filter.start c.filter).1 = s.filter
  rw [hfilter hkey]
  exact hs.same

/-- A change of a setting, of the filter to one that is stored as it is taken. -/
theorem guards_change (hs : s.shell.InStep) {key raw : String}
    (h : key != "debug.filter" || isFaithfulFilter raw) :
    (do
      if key == "debug.filter" then adoptFilter raw
      let (v, c) ← ofExcept (s.shell.config.set key raw)
      setConfig c
      write (settingRow key v) : Behavior Unit).Guards hasInput Shell.InStep EndsInStep s := by
  by_cases hkey : key = "debug.filter"
  · subst hkey
    have hfaithful : isFaithfulFilter raw := by simpa using h
    cases hparse : Filter.parse? raw with
    | error e =>
      rw [adoptFilter_error hparse]
      exact hs
    | ok f =>
      obtain ⟨text, hvalue, hplain, hsame⟩ : ∃ text, Config.valueOf raw = .string text ∧ f.Plain ∧
          Filter.parse? text = .ok f := by
        unfold isFaithfulFilter at hfaithful
        cases hvalue : Config.valueOf raw with
        | string text =>
          simp only [hparse, hvalue, Bool.and_eq_true, decide_eq_true_eq, beq_iff_eq] at hfaithful
          refine ⟨text, rfl, hfaithful.1, ?_⟩
          cases hread : Filter.parse? text with
          | error e => simp [hread, Except.toOption] at hfaithful
          | ok g => simpa [hread, Except.toOption] using hfaithful.2
        | _ => simp [hparse, hvalue] at hfaithful
      rw [adoptFilter_ok hparse, Config.set_filter hs.writable hvalue]
      refine Guards.bind (guards_setFilter f) ?_
      rintro _ s' rfl
      refine guards_ok ?_
      refine Guards.bind (guards_setConfig _) ?_
      rintro _ s' rfl
      refine guards_quiet (quiet_write _).respecting ⟨hs.named, hs.writable, hplain, ?_⟩
      exact Filter.start_of_parse? hsame
  · rw [if_neg (by simpa using hkey)]
    cases hset : s.shell.config.set key raw with
    | error e => exact hs
    | ok stored =>
      obtain ⟨v, c⟩ := stored
      refine guards_ok ?_
      refine Guards.bind (guards_setConfig c) ?_
      rintro _ s' rfl
      exact guards_quiet (quiet_write _).respecting (inStep_set hs hkey hset)

theorem guards_settings (piped : Bool) (h : isFaithfulSetting args) (hs : s.shell.InStep) :
    (settings piped args).Guards hasInput Shell.InStep EndsInStep s := by
  refine Guards.bind ((quiet_drain.respecting (I := Shell.InStep)).guards hs fun _ _ => id) fun _ s hs => ?_
  refine guards_perform id ?_
  rintro _ s ⟨rfl, rfl⟩
  unfold isFaithfulSetting at h
  dsimp only
  split
  · exact guards_quiet (Obeys.bind (.ofExcept _) fun _ => (quiet_writeAll _).respecting) hs
  · split
    · have hparse : Filter.parse? Config.standard.filter = .ok .standard := by decide
      rw [adoptFilter_ok hparse]
      refine Guards.bind (guards_setFilter _) ?_
      rintro _ s rfl
      refine (guards_setConfig _).mono ?_
      rintro _ s rfl
      exact inStep_standard hs _
    · split <;> rename_i hrequest
      · trivial
      · refine guards_quiet (Obeys.bind (.ofExcept _) fun found => ?_) hs
        split
        · exact (quiet_write _).respecting
        · trivial
      · rename_i key raw
        rw [hrequest] at h
        exact guards_change hs h

/-- Every command keeps filter and setting in step if it is not asked for what it cannot do. -/
theorem guards_program {name : String} {program : StageProgram} (h : program? name = some program)
    (hfaithful : isFaithful name hasInput args) (hs : s.shell.InStep) :
    (program hasInput args).Guards hasInput Shell.InStep EndsInStep s := by
  by_cases hname : name ∈ ["alias", "debug", "settings"]
  · obtain rfl | rfl | rfl : name = "alias" ∨ name = "debug" ∨ name = "settings" := by
      simpa using hname
    · cases h
      exact guards_alias hasInput hs
    · cases h
      exact guards_debug hasInput (by simpa [isFaithful] using hfaithful) hs
    · cases h
      exact guards_settings hasInput (by simpa [isFaithful] using hfaithful) hs
  · exact guards_quiet (respecting_program h hname (fun _ hs => hs.history _) _ _) hs

end Command

end Pipework
