import Pipework.Proofs.Command.Manners
import Pipework.Proofs.Job.Mortal

/-!
# The commands come to an end

After a teardown every command comes to an end, wherever it was parked and also if it has not begun
yet (`brief_program`): it takes no more items, what it writes fails, and no wait is waited out. The
requests that end the program instead are `Command.Fatal`. No command interrupts the line that it is
part of (`meek_program`).
-/

namespace Pipework

open Behavior

/-! ## Actions and input -/

theorem brief_read : read.Brief := .perform trivial

/-- There is nothing to read after a teardown. -/
theorem ends_read : read.Ends (· = none) := ⟨trivial, fun _ h => h⟩

/-- Nothing comes after a write that fails. -/
theorem ends_write {told : Unit → Prop} (v : Value) : (write v).Ends told := by
  refine ⟨trivial, ?_⟩
  rintro answer ⟨e, rfl⟩
  trivial

theorem brief_write (v : Value) : (write v).Brief where
  mortal := by
    refine ⟨trivial, fun answer => ⟨(Brief.ofExcept answer).mortal, ?_⟩⟩
    exact fun _ _ => (Brief.ofExcept answer).ends
  ends := ends_write v

theorem brief_writeAll (vs : List Value) : (writeAll vs).Brief := by
  induction vs with
  | nil => exact .result ()
  | cons v vs ih => exact (brief_write v).bind fun _ => ih

theorem brief_readAll : readAll.Brief := by
  refine Brief.bind ?_ fun _ => .result _
  exact .forEach brief_read ends_read (fun _ _ => .result _) []

theorem brief_drain : drain.Brief := by
  refine Brief.bind ?_ fun _ => .perform trivial
  exact .forAll brief_read ends_read fun _ => .result ()

theorem brief_shell : shell.Brief := .perform trivial

theorem brief_setConfig (c : Config) : (setConfig c).Brief :=
  brief_shell.bind fun _ => .perform trivial

theorem brief_setFilter (f : Filter) : (setFilter f).Brief :=
  brief_shell.bind fun _ => .perform trivial

theorem brief_undisturbed : undisturbed.Brief :=
  Brief.bind (.perform trivial) fun _ => .result _

/-- The interrupt that came with the teardown is noticed. -/
theorem ends_undisturbed : undisturbed.Ends (· = false) := by
  refine Ends.act trivial fun level hlevel => ?_
  have hpos : 2 ≤ level := hlevel
  show (level == 0) = false
  exact beq_false_of_ne (by omega)

theorem brief_sleep (ms : Nat) : (sleep ms).Brief where
  mortal := by
    refine Mortal.act trivial id fun level => ?_
    split
    · trivial
    · refine Mortal.act trivial id fun timer => ?_
      have hwait : (perform (.awaitTimer timer ms)).Brief := .perform trivial
      refine hwait.mortal.bind fun elapsed => ?_
      exact Brief.bind (.perform trivial) fun _ => .result elapsed
  ends := by
    refine Ends.act trivial fun level hlevel => ?_
    have hlevel : Job.hardLevel ≤ level := hlevel
    rw [if_pos hlevel]
    trivial

namespace Input

variable (o : Input)

theorem brief_openText (hasInput : Bool) (args : Option String) :
    (o.openText hasInput args).Brief :=
  Brief.bind (.perform trivial) fun _ => .perform trivial

theorem brief_next : o.next.Brief := by
  refine brief_undisturbed.bind fun calm => ?_
  cases calm with
  | false => exact .result none
  | true =>
    refine Brief.bind (.perform trivial) fun a => ?_
    split
    · exact Brief.bind (.perform trivial) fun _ => .result _
    · refine Brief.bind (.perform trivial) fun closed => ?_
      cases closed with
      | true => exact .result none
      | false => exact brief_read.bind fun _ => .result _

theorem ends_next : o.next.Ends (· = none) := by
  refine ends_undisturbed.bind ?_
  rintro calm rfl
  rfl

theorem brief_putBack (v : Value) : (putBack v).Brief :=
  Brief.bind (.perform trivial) fun _ => .perform trivial

theorem brief_rest : o.rest.Brief :=
  Brief.bind (.perform trivial) fun _ => Brief.bind (.perform trivial) fun _ =>
    brief_readAll.bind fun _ => .result _

theorem brief_take {n : Nat} (hn : n ≤ maxTake) : (o.take n).Brief := by
  unfold take
  rw [if_neg (by omega)]
  refine .forever (fun (left, items) => ?_) (fun (left, items) => ?_) _
  · dsimp only
    split
    · exact .result _
    · exact o.brief_next.bind fun
        | some _ => .result _
        | none => .result _
  · dsimp only
    split
    · exact rfl
    · refine o.ends_next.bind ?_
      rintro received rfl
      exact rfl

theorem brief_readFlags : o.readFlags.Brief := by
  unfold readFlags
  split
  · exact .result ()
  · refine .forever (fun _ => o.brief_next.bind fun received => ?_) (fun _ => o.ends_next.bind ?_) _
    · cases received with
      | none => exact .result _
      | some v =>
        dsimp only
        split
        · exact (brief_putBack v).bind fun _ => .result _
        · split
          · exact Brief.bind (.perform trivial) fun _ =>
              Brief.bind (.perform trivial) fun _ =>
                Brief.bind (.perform trivial) fun _ => .result _
          · exact (brief_putBack v).bind fun _ => .fail _
    · rintro received rfl
      exact rfl

theorem brief_require (hrequired : o.required ≤ maxTake) : o.require.Brief := by
  refine Brief.bind (o.brief_readFlags.bind fun _ => o.brief_take hrequired) fun items => ?_
  split
  · exact .fail _
  · exact .result _

theorem brief_hasFlag (c : Char) : (hasFlag c).Brief :=
  Brief.bind (.perform trivial) fun _ => .result _

end Input

/-! ## Commands that write and edit -/

namespace Command

variable (hasInput : Bool) (args : Option String)

theorem brief_echo : (echo hasInput args).Brief :=
  Brief.bind (.perform trivial) fun _ => brief_write _

theorem brief_findSpecs (names : List String) : (findSpecs names).Brief := by
  induction names with
  | nil => exact .result []
  | cons name rest ih =>
    refine brief_shell.bind fun s => ?_
    split
    · exact ih.bind fun _ => .result _
    · exact Brief.bind (.perform trivial) fun _ => ih

theorem brief_help : (help hasInput args).Brief := by
  unfold help
  split
  · exact brief_shell.bind fun _ => brief_write _
  · refine Brief.bind (Input.brief_openText _ _ _) fun _ => ?_
    refine Brief.bind (Input.brief_rest _) fun wanted => ?_
    dsimp only
    split
    · exact brief_shell.bind fun _ => brief_writeAll _
    · exact Brief.bind (brief_findSpecs _) fun _ => brief_writeAll _

theorem brief_background : (background hasInput args).Brief := by
  refine Brief.bind (Input.brief_openText _ _ _) fun _ => ?_
  refine Brief.bind (Input.brief_require _ (by decide)) fun required => ?_
  split
  · exact .fail _
  · refine Brief.bind (Input.brief_rest _) fun items => ?_
    refine Brief.bind (.perform trivial) fun _ => ?_
    refine brief_shell.bind fun s => ?_
    dsimp only
    split
    · exact .fail _
    · exact brief_write _

theorem brief_trim : (trim hasInput args).Brief := by
  refine Brief.bind (Input.brief_openText _ _ _) fun _ => ?_
  exact .forAll (Input.brief_next _) (Input.ends_next _) fun _ => brief_writeAll _

theorem brief_gsub : (gsub hasInput args).Brief := by
  refine Brief.bind (Input.brief_openText _ _ _) fun _ => ?_
  refine Brief.bind (Input.brief_require _ (by decide)) fun required => ?_
  refine Brief.bind (Input.brief_hasFlag _) fun _ => ?_
  refine Brief.bind (Input.brief_hasFlag _) fun _ => ?_
  refine Brief.bind (Input.brief_hasFlag _) fun _ => ?_
  refine Brief.bind (.ofExcept _) fun pattern => ?_
  exact .forAll (Input.brief_next _) (Input.ends_next _) fun _ => brief_write _

/-! ## Commands that measure, select and reshape -/

theorem brief_len : (len hasInput args).Brief := by
  refine Brief.bind (Input.brief_openText _ _ _) fun _ => ?_
  exact .forAll (Input.brief_next _) (Input.ends_next _) fun _ => brief_write _

theorem brief_total (x : Float) (vs : List Value) : (sum.total x vs).Brief := by
  induction vs generalizing x with
  | nil => exact .result x
  | cons v vs ih =>
    unfold sum.total
    split
    · exact ih _
    · exact Brief.bind (.perform trivial) fun _ => ih x

theorem brief_sum : (sum hasInput args).Brief := by
  refine Brief.bind (Input.brief_openText _ _ _) fun _ => ?_
  refine Brief.bind (Input.brief_rest _) fun items => ?_
  exact Brief.bind (brief_total _ _) fun _ => brief_write _

theorem brief_wc : (wc hasInput args).Brief := by
  refine Brief.bind (Input.brief_openText _ _ _) fun _ => ?_
  refine Brief.bind (Input.brief_readFlags _) fun _ => ?_
  refine Brief.bind (.perform trivial) fun a => ?_
  refine .forAll (Input.brief_next _) (Input.ends_next _) fun v => ?_
  split
  · exact brief_write _
  · exact .perform trivial

theorem brief_head : (head hasInput args).Brief := by
  refine Brief.bind (Input.brief_openText _ _ _) fun _ => ?_
  refine .forever (fun left => ?_) (fun left => ?_) _
  · split
    · exact .result _
    · refine Brief.bind (Input.brief_next _) fun received => ?_
      cases received with
      | none => exact .result _
      | some v => exact (brief_write v).bind fun _ => .result _
  · split
    · exact rfl
    · refine (Input.ends_next _).bind ?_
      rintro received rfl
      exact rfl

theorem brief_tail : (tail hasInput args).Brief := by
  refine Brief.bind (Input.brief_openText _ _ _) fun _ => ?_
  exact Brief.bind (Input.brief_rest _) fun _ => brief_writeAll _

theorem brief_drop : (drop hasInput args).Brief := by
  refine Brief.bind (Input.brief_openText _ _ _) fun _ => ?_
  refine Brief.bind ?_ fun _ => .result _
  refine .forEach (Input.brief_next _) (Input.ends_next _) (fun left v => ?_) _
  split
  · exact (brief_write v).bind fun _ => .result _
  · exact .result _

theorem brief_uniq : (uniq hasInput args).Brief := by
  refine Brief.bind (Input.brief_openText _ _ _) fun _ => ?_
  refine Brief.bind ?_ fun _ => .result _
  refine .forEach (Input.brief_next _) (Input.ends_next _) (fun seen v => ?_) _
  split
  · exact .result _
  · exact (brief_write v).bind fun _ => .result _

theorem brief_grep : (grep hasInput args).Brief := by
  refine Brief.bind (Input.brief_openText _ _ _) fun _ => ?_
  refine Brief.bind (Input.brief_require _ (by decide)) fun required => ?_
  refine Brief.bind (Input.brief_hasFlag _) fun _ => ?_
  refine Brief.bind (.ofExcept _) fun pattern => ?_
  refine Brief.bind (Input.brief_hasFlag _) fun inverted => ?_
  exact .forAll (Input.brief_next _) (Input.ends_next _) fun _ => brief_writeAll _

theorem brief_collect : (collect hasInput args).Brief := by
  refine Brief.bind (Input.brief_openText _ _ _) fun _ => ?_
  exact Brief.bind (Input.brief_rest _) fun _ => brief_write _

theorem brief_chunk (hsize : countOr 5 args ≤ Input.maxTake) : (chunk hasInput args).Brief := by
  refine Brief.bind (Input.brief_openText _ _ _) fun _ => ?_
  refine .forever (fun _ => ?_) (fun _ => ?_) ()
  · refine Brief.bind (Input.brief_take _ hsize) fun items => ?_
    split
    · exact .result _
    · exact (brief_write _).bind fun _ => .result _
  · refine (Input.brief_take _ hsize).ends.bind fun items _ => ?_
    split
    · exact rfl
    · have hnever : (write (.list items)).Ends fun _ => False := ends_write _
      exact hnever.bind fun _ => False.elim

theorem brief_join : (join hasInput args).Brief := by
  refine Brief.bind (Input.brief_openText _ _ _) fun _ => ?_
  exact Brief.bind (Input.brief_rest _) fun _ => brief_write _

theorem brief_split : (split hasInput args).Brief := by
  refine Brief.bind (.ofExcept _) fun pattern => ?_
  refine Brief.bind (Input.brief_openText _ _ _) fun _ => ?_
  refine .forAll (Input.brief_next _) (Input.ends_next _) fun v => ?_
  split
  · exact brief_writeAll _
  · exact brief_write _

theorem brief_sort : (sort hasInput args).Brief := by
  refine Brief.bind (Input.brief_openText _ _ _) fun _ => ?_
  exact Brief.bind (Input.brief_rest _) fun _ => brief_writeAll _

theorem brief_reverse : (reverse hasInput args).Brief := by
  refine Brief.bind (Input.brief_openText _ _ _) fun _ => ?_
  exact Brief.bind (Input.brief_rest _) fun _ => brief_writeAll _

/-! ## Commands that take their time -/

theorem brief_wait : (wait hasInput args).Brief := by
  refine Brief.bind (.perform trivial) fun _ => ?_
  refine (brief_sleep _).bind fun elapsed => ?_
  split
  · refine Brief.bind (Input.brief_openText _ _ _) fun _ => ?_
    exact .forAll (Input.brief_next _) (Input.ends_next _) fun _ => brief_write _
  · exact .result ()

theorem brief_tick : (tick hasInput args).Brief := by
  unfold tick
  split
  · exact .result ()
  · refine .forever (fun _ => ?_) (fun _ => ends_undisturbed.bind ?_) ()
    · refine brief_undisturbed.bind fun calm => ?_
      split
      · exact .result _
      · refine brief_read.bind fun received => ?_
        cases received with
        | none => exact .result _
        | some v => exact (brief_write v).bind fun _ => (brief_sleep _).bind fun _ => .result _
    · rintro calm rfl
      exact rfl

theorem brief_awaitInterval (interval : Option (Nat × Nat)) : (awaitInterval interval).Brief := by
  cases interval with
  | none => exact .result true
  | some i => exact .perform trivial

theorem brief_yes : (yes hasInput args).Brief := by
  have hloop : ∀ interval text, (forever hasInput fun fromInput => do
      if !(← undisturbed) then return .inr ()
      if ← perform .outputClosed then return .inr ()
      let received : Option Value ← if fromInput then read else pure none
      if received.isNone then perform .closeInput
      write (received.getD (.text text))
      return if ← awaitInterval interval then .inl received.isSome else .inr () :
        Behavior Unit).Brief := by
    intro interval text
    refine .forever (fun fromInput => ?_) (fun fromInput => ends_undisturbed.bind ?_) _
    · refine brief_undisturbed.bind fun calm => ?_
      split
      · exact .result _
      · refine Brief.bind (.perform trivial) fun closed => ?_
        split
        · exact .result _
        · have hrest : ∀ received : Option Value, (do
              write (received.getD (.text text))
              return if ← awaitInterval interval then .inl received.isSome else .inr () :
                Behavior (Bool ⊕ Unit)).Brief := fun received =>
            (brief_write _).bind fun _ => (brief_awaitInterval interval).bind fun _ => .result _
          have hfrom : ∀ received : Option Value, (do
              if received.isNone then perform .closeInput
              write (received.getD (.text text))
              return if ← awaitInterval interval then .inl received.isSome else .inr () :
                Behavior (Bool ⊕ Unit)).Brief := by
            intro received
            split
            · exact Brief.bind (.perform trivial) fun _ => hrest received
            · exact hrest received
          split
          · exact brief_read.bind hfrom
          · exact hfrom none
    · rintro calm rfl
      exact rfl
  unfold yes
  obtain ⟨ms, text⟩ := yesArgs args
  cases ms with
  | none => exact hloop none text
  | some ms =>
    -- an interval may be started after the teardown: it is cancelled from the beginning
    have hstart : (perform (.startTimer .interval)).Brief := .perform rfl
    have hinterval : ((fun timer => some (timer, ms)) <$> perform (.startTimer .interval)).Brief :=
      hstart.bind fun _ => .result _
    exact hinterval.bind fun interval => hloop interval text

/-! ## Commands that recall, and that change the shell -/

theorem brief_history : (history hasInput args).Brief := by
  refine brief_drain.bind fun _ => ?_
  refine brief_shell.bind fun s => ?_
  split
  · split
    · exact .fail _
    · dsimp only
      split
      · exact brief_write _
      · exact .result ()
  · exact brief_writeAll _

theorem brief_previous (hcount : signedCount (countOr 1 args) ≠ -(Int.pow 2 63)) :
    (previous hasInput args).Brief := by
  refine brief_drain.bind fun _ => ?_
  dsimp only
  rw [if_neg hcount]
  refine brief_shell.bind fun s => ?_
  split
  · exact brief_writeAll _
  · exact .result ()

theorem brief_clear : (clear hasInput args).Brief := by
  refine Brief.bind (.perform trivial) fun _ => ?_
  refine brief_drain.bind fun _ => ?_
  split
  · refine Brief.bind (.perform trivial) fun _ => ?_
    refine brief_shell.bind fun s => ?_
    exact Brief.bind (.perform trivial) fun _ => .ofExcept _
  · exact .perform trivial

theorem brief_alias : («alias» hasInput args).Brief := by
  refine Brief.bind (Input.brief_openText _ _ _) fun _ => ?_
  refine Brief.bind (Input.brief_rest _) fun items => ?_
  refine brief_shell.bind fun s => ?_
  split
  · exact brief_writeAll _
  · refine Brief.bind (brief_setConfig _) fun _ => ?_
    split
    · exact .perform trivial
    · exact .result ()
  · split
    · exact .fail _
    · split
      · exact .fail _
      · exact Brief.bind (.perform trivial) fun _ => brief_setConfig _

theorem brief_debug : (debug hasInput args).Brief := by
  refine Brief.bind (Input.brief_openText _ _ _) fun _ => ?_
  refine Brief.bind (Input.brief_require _ (by decide)) fun required => ?_
  refine Brief.bind (Input.brief_next _) fun subsystem => ?_
  refine brief_shell.bind fun s => ?_
  have hrest : ∀ filter message, (do
      setFilter filter
      setConfig { (← shell).config with filter := filter.render }
      write (.text message) : Behavior Unit).Brief := fun filter message =>
    (brief_setFilter _).bind fun _ => brief_shell.bind fun s =>
      (brief_setConfig _).bind fun _ => brief_write _
  dsimp only
  split
  · exact hrest _ _
  · exact hrest _ _
  · exact hrest _ _
  · exact .fail _

theorem brief_adoptFilter (text : String) : (adoptFilter text).Brief :=
  Brief.bind (.ofExcept _) fun _ => brief_setFilter _

theorem brief_settings (hrequest : settingRequest (trimmed (args.getD "")) ≠ .unreadable) :
    (settings hasInput args).Brief := by
  refine brief_drain.bind fun _ => ?_
  refine brief_shell.bind fun s => ?_
  split
  · exact Brief.bind (.ofExcept _) fun _ => brief_writeAll _
  · split
    · exact Brief.bind (brief_adoptFilter _) fun _ => brief_setConfig _
    · split
      · rename_i hunreadable
        exact absurd hunreadable hrequest
      · refine Brief.bind (.ofExcept _) fun found => ?_
        split
        · exact brief_write _
        · exact .fail _
      · dsimp only
        split
        · refine Brief.bind (brief_adoptFilter _) fun _ => ?_
          refine Brief.bind (.ofExcept _) fun (_, c) => ?_
          exact (brief_setConfig c).bind fun _ => brief_write _
        · refine Brief.bind (.ofExcept _) fun (_, c) => ?_
          exact (brief_setConfig c).bind fun _ => brief_write _

/-! ## Every command -/

/-- The requests that end the program: more items at once than can be addressed, the one count that
has no opposite, and a setting whose value stands behind a blank of several bytes. -/
def Fatal (name : String) (args : Option String) : Prop :=
  name = "chunk" ∧ Input.maxTake < countOr 5 args ∨
  name = "_" ∧ signedCount (countOr 1 args) = -(Int.pow 2 63) ∨
  name = "settings" ∧ settingRequest (trimmed (args.getD "")) = .unreadable

deriving instance DecidableEq for SettingRequest

instance (name : String) (args : Option String) : Decidable (Fatal name args) :=
  inferInstanceAs (Decidable (_ ∨ _ ∨ _))

/-- Every command comes to an end after a teardown. -/
theorem brief_program {name : String} {program : StageProgram} (h : program? name = some program)
    (hasInput : Bool) {args : Option String} (hfatal : ¬ Fatal name args) :
    (program hasInput args).Brief := by
  unfold program? at h
  split at h <;> cases h
  · exact brief_echo hasInput args
  · exact brief_help hasInput args
  · exact brief_collect hasInput args
  · exact brief_len hasInput args
  · exact brief_sum hasInput args
  · exact brief_wc hasInput args
  · exact brief_join hasInput args
  · exact brief_split hasInput args
  · refine brief_chunk hasInput args (Nat.le_of_not_lt fun hsize => ?_)
    exact hfatal (.inl ⟨rfl, hsize⟩)
  · exact brief_head hasInput args
  · exact brief_tail hasInput args
  · exact brief_drop hasInput args
  · exact brief_wait hasInput args
  · exact brief_uniq hasInput args
  · exact brief_sort hasInput args
  · exact brief_reverse hasInput args
  · exact brief_trim hasInput args
  · exact brief_gsub hasInput args
  · exact brief_grep hasInput args
  · exact brief_tick hasInput args
  · exact brief_yes hasInput args
  · exact brief_history hasInput args
  · exact brief_previous hasInput args fun hcount => hfatal (.inr (.inl ⟨rfl, hcount⟩))
  · exact brief_clear hasInput args
  · exact brief_alias hasInput args
  · exact brief_debug hasInput args
  · exact brief_settings hasInput args fun hrequest => hfatal (.inr (.inr ⟨rfl, hrequest⟩))
  · exact brief_background hasInput args

/-- No command interrupts anybody. -/
theorem meek_program {name : String} {program : StageProgram} (h : program? name = some program)
    (hasInput : Bool) (args : Option String) : (program hasInput args).Obeys .meek := by
  by_cases hname : name ∈ ["wait", "tick", "yes"]
  · obtain rfl | rfl | rfl : name = "wait" ∨ name = "tick" ∨ name = "yes" := by simpa using hname
    · cases h
      exact (brief_wait hasInput args).mortal.meek
    · cases h
      exact (brief_tick hasInput args).mortal.meek
    · cases h
      exact (brief_yes hasInput args).mortal.meek
  · exact (timeless_program h hname hasInput args).meek

end Command

end Pipework
