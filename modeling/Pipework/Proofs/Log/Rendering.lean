import Mathlib
import Pipework.Proofs.Log.Rules
import Pipework.Proofs.Text.Pieces

/-!
# Reading what has been written

The text of a filter, read again, is the filter (`Filter.parse?_render`). That holds for *plain*
filters, which ask for no fields and whose names can stand in a text as they are: without
separators, without blanks at the ends, and other than the star that stands for all. A rule with
fields loses them when it is written, and any other name reads back as something else.
-/

namespace Pipework

/-- The name can stand in a filter text as it is. -/
structure PlainName (name : String) : Prop where
  tight : Text.Tight name.toList
  comma : ',' ∉ name.toList
  equals : '=' ∉ name.toList
  bracket : Filter.cutFieldLists name.toList = [name.toList]
  star : name ≠ "*"

instance (cs : List Char) : Decidable (Text.Tight cs) := inferInstanceAs (Decidable (_ ∧ _))

instance (name : String) : Decidable (PlainName name) :=
  decidable_of_iff (Text.Tight name.toList ∧ ',' ∉ name.toList ∧ '=' ∉ name.toList ∧
      Filter.cutFieldLists name.toList = [name.toList] ∧ name ≠ "*")
    ⟨fun ⟨h₁, h₂, h₃, h₄, h₅⟩ => ⟨h₁, h₂, h₃, h₄, h₅⟩,
      fun ⟨h₁, h₂, h₃, h₄, h₅⟩ => ⟨h₁, h₂, h₃, h₄, h₅⟩⟩

namespace Verbosity

theorem tight_name (level : Verbosity) : Text.Tight level.name.toList := by
  cases level <;> decide

theorem comma_name (level : Verbosity) : ',' ∉ level.name.toList := by cases level <;> decide

theorem equals_name (level : Verbosity) : '=' ∉ level.name.toList := by cases level <;> decide

theorem ofText?_name (level : Verbosity) : ofText? level.name = some level := by
  cases level <;> decide

end Verbosity

namespace Rule

/-- The rule asks for no fields and its name can be written. -/
def Plain (rule : Rule) : Prop :=
  rule.fields = [] ∧ ∀ name ∈ rule.target, PlainName name

instance (rule : Rule) : Decidable rule.Plain := inferInstanceAs (Decidable (_ ∧ _))

/-- The rule as a directive: name and level, with a star in place of no name. -/
def text (rule : Rule) : String := rule.target.getD "*" ++ "=" ++ rule.level.name

/-- The directive as the reader takes it: the level alone for the default rule. -/
def plainText (rule : Rule) : List Char :=
  match rule.target with
  | some name => name.toList ++ '=' :: rule.level.name.toList
  | none => rule.level.name.toList

theorem toList_text (rule : Rule) :
    rule.text.toList = (rule.target.getD "*").toList ++ '=' :: rule.level.name.toList := by
  simp [text]

variable {rule : Rule}

/-- Rules without fields that are in order have different targets. -/
theorem Plain.target_ne {other : Rule} (hrule : rule.Plain) (hother : other.Plain)
    (h : rule.order other = .lt) : rule.target ≠ other.target := by
  intro htarget
  have heq := (order_eq_iff rule other).mpr ⟨htarget, hrule.1.trans hother.1.symm⟩
  simp [heq] at h

theorem Plain.tight_text (h : rule.Plain) : Text.Tight rule.text.toList := by
  rw [toList_text]
  refine Text.Tight.append ?_ rule.level.tight_name (by decide)
  cases htarget : rule.target with
  | none => decide
  | some name => exact (h.2 name htarget).tight

theorem Plain.comma_text (h : rule.Plain) : ',' ∉ rule.text.toList := by
  rw [toList_text]
  have hname : ',' ∉ (rule.target.getD "*").toList := by
    cases htarget : rule.target with
    | none => decide
    | some name => exact (h.2 name htarget).comma
  simp [hname, rule.level.comma_name]

theorem Plain.comma_plainText (h : rule.Plain) : ',' ∉ rule.plainText := by
  unfold plainText
  split
  · rename_i name htarget
    simp [(h.2 name htarget).comma, rule.level.comma_name]
  · exact rule.level.comma_name

theorem text_ne_nil (rule : Rule) : rule.text.toList ≠ [] := by simp [toList_text]

theorem plainText_ne_nil (rule : Rule) : rule.plainText ≠ [] := by
  unfold plainText
  split
  · simp
  · cases rule.level <;> decide

theorem forall_ne_equals {cs : List Char} (h : '=' ∉ cs) : ∀ c ∈ cs, (c == '=') = false := by
  intro c hc
  exact beq_false_of_ne fun heq => h (heq ▸ hc)

/-- The reader brings the directive of a rule into the form of its own. -/
theorem Plain.plainDirective_text (h : rule.Plain) :
    Filter.plainDirective rule.text.toList = rule.plainText := by
  rw [toList_text]
  have hlevel : Text.trim rule.level.name.toList = rule.level.name.toList :=
    Text.trim_tight rule.level.tight_name
  cases htarget : rule.target with
  | none =>
    have hcut : Text.cut? (· == '=') (['*'] ++ '=' :: rule.level.name.toList) =
        some (['*'], rule.level.name.toList) :=
      Text.cut?_append (forall_ne_equals (by decide)) (beq_self_eq_true _)
    have hplain : rule.plainText = rule.level.name.toList := by rw [plainText, htarget]
    show Filter.plainDirective (['*'] ++ '=' :: rule.level.name.toList) = _
    rw [Filter.plainDirective, hcut, hplain]
    exact hlevel
  | some name =>
    have hname := h.2 name htarget
    have hcut : Text.cut? (· == '=') (name.toList ++ '=' :: rule.level.name.toList) =
        some (name.toList, rule.level.name.toList) :=
      Text.cut?_append (forall_ne_equals hname.equals) (beq_self_eq_true _)
    have hplain : rule.plainText = name.toList ++ '=' :: rule.level.name.toList := by
      rw [plainText, htarget]
    show Filter.plainDirective (name.toList ++ '=' :: rule.level.name.toList) = _
    rw [Filter.plainDirective, hcut, hplain]
    split
    · rename_i level hstar
      simp only [Option.some.injEq, Prod.mk.injEq] at hstar
      exact absurd (String.toList_inj.mp hstar.1) hname.star
    · rename_i n level _ hparts
      simp only [Option.some.injEq, Prod.mk.injEq] at hparts
      rw [← hparts.1, ← hparts.2, Text.trim_tight hname.tight, hlevel]
    · rename_i hnone
      simp at hnone

/-- The directive of a rule reads as the rule. -/
theorem Plain.readRule?_plainText (h : rule.Plain) :
    Filter.readRule? rule.plainText = .ok rule := by
  obtain ⟨target, fields, level⟩ := rule
  obtain ⟨hfields, hname⟩ := h
  simp only at hfields hname
  subst hfields
  have hlevel := Text.pieces_of_none (forall_ne_equals level.equals_name)
  cases target with
  | none => simp [plainText, Filter.readRule?, hlevel, Verbosity.ofText?_name]
  | some name =>
    have hname := hname name rfl
    have hpieces : Text.pieces (· == '=') (name.toList ++ '=' :: level.name.toList) =
        [name.toList, level.name.toList] := by
      rw [Text.pieces_cut (forall_ne_equals hname.equals) (by decide), hlevel]
    have htarget : Filter.readTarget? name.toList = .ok (name, []) := by
      simp [Filter.readTarget?, hname.bracket]
    simp [plainText, Filter.readRule?, hpieces, htarget, Verbosity.ofText?_name]

end Rule

namespace Filter

/-- Every rule is plain. -/
def Plain (f : Filter) : Prop := ∀ rule ∈ f.rules, rule.Plain

instance (f : Filter) : Decidable f.Plain := inferInstanceAs (Decidable (∀ rule ∈ f.rules, _))

/-- The rules of a filter in the order in which they are written, without their fields. -/
def written (f : Filter) : List Rule :=
  f.targets.map (fun e => { target := some e.1, level := e.2 }) ++
    f.default?.toList.map fun level => { target := none, level := level }

theorem render_eq (f : Filter) : f.render = joined "," (f.written.map Rule.text) := by
  simp only [render, written, List.map_append, List.map_map]
  rfl

variable {f : Filter}

/-- There is at most one default rule. -/
theorem default?_eq {rules : List Rule} (hsorted : Sorted rules) (hplain : ∀ rule ∈ rules, rule.Plain) :
    ((⟨rules⟩ : Filter).default?.toList.map fun level => ({ target := none, level := level } : Rule)) =
      rules.filter (·.target.isNone) := by
  induction rules with
  | nil => rfl
  | cons rule rules ih =>
    obtain ⟨hfirst, hrest⟩ := List.pairwise_cons.mp hsorted
    have hrule := hplain rule List.mem_cons_self
    have htail := ih hrest fun other hother => hplain other (List.mem_cons_of_mem _ hother)
    cases htarget : rule.target with
    | none =>
      have hothers : rules.filter (·.target.isNone) = [] := by
        refine List.filter_eq_nil_iff.mpr fun other hother hnone => ?_
        have hne := hrule.target_ne (hplain other (List.mem_cons_of_mem _ hother))
          (hfirst other hother)
        exact hne (htarget.trans (Option.isNone_iff_eq_none.mp hnone).symm)
      obtain ⟨target, fields, level⟩ := rule
      have hfields : fields = [] := hrule.1
      subst hfields htarget
      simp [default?, hothers]
    | some name =>
      simpa [default?, htarget] using htail

theorem targets_eq {rules : List Rule} (hplain : ∀ rule ∈ rules, rule.Plain) :
    (rules.filterMap fun rule => rule.target.map (·, rule.level)).map
        (fun e => ({ target := some e.1, level := e.2 } : Rule)) =
      rules.filter (!·.target.isNone) := by
  induction rules with
  | nil => rfl
  | cons rule rules ih =>
    have htail := ih fun other hother => hplain other (List.mem_cons_of_mem _ hother)
    have hfields := (hplain rule List.mem_cons_self).1
    obtain ⟨target, fields, level⟩ := rule
    simp only at hfields
    subst hfields
    cases target with
    | none => simpa using htail
    | some name => simpa using htail

/-- All rules of a plain filter are written. -/
theorem Plain.written_perm (hplain : f.Plain) (hsorted : Sorted f.rules) :
    f.written.Perm f.rules := by
  have htargets : (f.targets.map fun e => ({ target := some e.1, level := e.2 } : Rule)).Perm
      (f.rules.filter (!·.target.isNone)) := by
    rw [← targets_eq hplain]
    exact (List.mergeSort_perm _ _).map _
  rw [written, default?_eq hsorted hplain]
  refine (htargets.append_right _).trans ?_
  exact List.perm_append_comm.trans (List.filter_append_perm _ f.rules)

/-- The directives of a filter text are those of its rules. -/
theorem directives_joined {rules : List Rule} (hplain : ∀ rule ∈ rules, rule.Plain)
    (hne : rules ≠ []) :
    directives (joined "," (rules.map Rule.text)) = Text.join [','] (rules.map Rule.plainText) := by
  have hpieces : Text.pieces (· == ',') (joined "," (rules.map Rule.text)).toList =
      rules.map (·.text.toList) := by
    have hfree : ∀ part ∈ rules.map (·.text.toList), ',' ∉ part := by
      intro part hpart
      obtain ⟨rule, hrule, rfl⟩ := List.mem_map.mp hpart
      exact (hplain rule hrule).comma_text
    simp only [joined, List.map_map, String.toList_ofList]
    exact Text.pieces_join (by simpa using hne) hfree
  have htrim : (rules.map (·.text.toList)).map Text.trim = rules.map (·.text.toList) := by
    rw [List.map_map]
    exact List.map_congr_left fun rule hrule => Text.trim_tight (hplain rule hrule).tight_text
  have hfilter : (rules.map (·.text.toList)).filter (!·.isEmpty) = rules.map (·.text.toList) := by
    refine List.filter_eq_self.mpr fun part hpart => ?_
    obtain ⟨rule, -, rfl⟩ := List.mem_map.mp hpart
    simpa using rule.text_ne_nil
  rw [directives, hpieces, htrim, hfilter, List.map_map]
  congr 1
  exact List.map_congr_left fun rule hrule => (hplain rule hrule).plainDirective_text

theorem mapM_readRule? {rules : List Rule} (hplain : ∀ rule ∈ rules, rule.Plain) :
    (rules.map Rule.plainText).mapM readRule? = .ok rules := by
  induction rules with
  | nil => rfl
  | cons rule rules ih =>
    have htail := ih fun other hother => hplain other (List.mem_cons_of_mem _ hother)
    rw [List.map_cons, List.mapM_cons, (hplain rule List.mem_cons_self).readRule?_plainText, htail]
    rfl

/-- **A plain filter can be read back from its text.** -/
theorem parse?_render (hplain : f.Plain) (hsorted : Sorted f.rules) : parse? f.render = .ok f := by
  have hperm := hplain.written_perm hsorted
  by_cases hempty : f.written = []
  · have hrules : f.rules = [] := by simpa [hempty] using hperm
    have htext : f.render = "" := by
      rw [render_eq, hempty]
      rfl
    rw [htext]
    show Except.ok (⟨[]⟩ : Filter) = _
    exact congrArg (fun rules : List Rule => Except.ok (Filter.mk rules)) hrules.symm
  · have hwritten : ∀ rule ∈ f.written, rule.Plain := fun rule hrule =>
      hplain rule (hperm.mem_iff.mp hrule)
    have hgiven : directives f.render = Text.join [','] (f.written.map Rule.plainText) := by
      rw [render_eq, directives_joined hwritten hempty]
    have hnonempty : (directives f.render).isEmpty = false := by
      obtain ⟨rule, hrule⟩ := List.exists_mem_of_ne_nil _ hempty
      have hne : Text.join [','] (f.written.map Rule.plainText) ≠ [] :=
        Text.join_ne_nil (List.mem_map_of_mem hrule) rule.plainText_ne_nil
      rw [hgiven]
      simpa using hne
    have hfree : ∀ part ∈ f.written.map Rule.plainText, ',' ∉ part := by
      intro part hpart
      obtain ⟨rule, hrule, rfl⟩ := List.mem_map.mp hpart
      exact (hwritten rule hrule).comma_plainText
    have hread : ofDirectives? (directives f.render) = .ok f := by
      rw [ofDirectives?, hgiven, Text.pieces_join (by simpa using hempty) hfree,
        mapM_readRule? hwritten]
      exact congrArg Except.ok (ofRules_of_perm hsorted hperm)
    simp only [parse?, hnonempty, hread, Bool.false_eq_true, if_false]

/-! ## Plain filters -/

theorem Plain.add (h : f.Plain) {rule : Rule} (hrule : rule.Plain) : (f.add rule).Plain := by
  intro other hother
  rcases mem_insertRule hother with rfl | hother
  · exact hrule
  · exact h other hother

/-- A level may be set for any name that can be written, and by the star for all. -/
theorem Plain.setLevel (h : f.Plain) {name : String} (hname : name = "*" ∨ PlainName name)
    (level : Verbosity) : (f.setLevel name level).Plain := by
  refine h.add ⟨rfl, fun target htarget => ?_⟩
  by_cases hstar : name = "*"
  · simp [hstar] at htarget
  · simp only [hstar, if_false, Option.mem_some] at htarget
    exact htarget ▸ hname.resolve_left hstar

theorem plain_standard : standard.Plain := by
  intro rule hrule
  obtain rfl := List.mem_singleton.mp hrule
  exact ⟨rfl, fun _ hname => absurd hname (by simp)⟩

theorem sorted_parse? {text : String} (h : parse? text = .ok f) : Sorted f.rules := by
  unfold parse? at h
  dsimp only at h
  split at h
  · rw [← Except.ok.inj h]
    exact List.Pairwise.nil
  · split at h <;> rename_i hread
    · rw [← Except.ok.inj h]
      obtain ⟨rules, -, hrules⟩ : ∃ rules, _ ∧ ofRules rules = _ := by
        unfold ofDirectives? at hread
        cases hrules : (Text.pieces (· == ',') (directives text)).mapM readRule? with
        | error e => simp [hrules, Except.map] at hread
        | ok rules => exact ⟨rules, hrules, by simpa [hrules, Except.map] using hread⟩
      rw [← hrules]
      exact sorted_ofRules rules
    · simp at h

/-- Whatever a filter is started from, its rules are in order. -/
theorem sorted_start (text : String) : Sorted (start text).1.rules := by
  unfold start
  split
  · rename_i filter hparse
    exact sorted_parse? hparse
  · exact List.pairwise_singleton _ _

theorem start_of_parse? {text : String} (h : parse? text = .ok f) : (start text).1 = f := by
  simp [start, h]

/-- A plain filter is started again from its text. -/
theorem start_render (hplain : f.Plain) (hsorted : Sorted f.rules) : (start f.render).1 = f :=
  start_of_parse? (parse?_render hplain hsorted)

end Filter

end Pipework
