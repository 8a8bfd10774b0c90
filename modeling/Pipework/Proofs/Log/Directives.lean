import Pipework.Proofs.Log.Rendering
import Pipework.Proofs.Text.Trimming

/-!
# What the directives of a filter text stand for

A filter text is read directive by directive (`Filter.parse?_cases`), so each rule of the filter comes
from one of them (`Filter.mem_parse?`), and its name is a part of it (`Filter.target_of_readRule?`).
A directive of one of the usual forms (`Filter.Usual`) stands for a rule that can be written again as it
is; others need not: `* =debug` names a target called star.
-/

namespace Pipework

namespace Filter

open Text

/-! ## Field lists -/

theorem cutFieldLists_ne_nil (cs : List Char) : cutFieldLists cs ≠ [] := by
  fun_cases cutFieldLists cs <;> simp

/-- Only a text with the opening of a field list is cut. -/
theorem cutFieldLists_eq_self_iff (cs : List Char) :
    cutFieldLists cs = [cs] ↔ ¬ ['[', '\x7b'] <:+: cs := by
  fun_induction cutFieldLists cs with
  | case1 => simp
  | case2 rest ih =>
    have hopen : ['[', '\x7b'] <:+: '[' :: '\x7b' :: rest := ⟨[], rest, rfl⟩
    simp [hopen]
  | case3 c rest hc hnone ih =>
    rw [hnone] at ih
    exact absurd hnone (cutFieldLists_ne_nil rest)
  | case4 c rest hc piece pieces hpieces ih =>
    have hopen : ¬ ['[', '\x7b'] <+: c :: rest := by
      rintro ⟨tail, htail⟩
      obtain ⟨rfl, rfl⟩ := List.cons.inj htail
      exact hc tail rfl rfl
    rw [List.infix_cons_iff, or_iff_right hopen, ← ih, hpieces]
    simp

/-- The first part is a text without an opening, from the front of the whole. -/
theorem cutFieldLists_first {cs piece : List Char} {pieces : List (List Char)}
    (h : cutFieldLists cs = piece :: pieces) : piece <+: cs ∧ cutFieldLists piece = [piece] := by
  induction cs using cutFieldLists.induct generalizing piece pieces with
  | case1 =>
    obtain ⟨rfl, -⟩ := List.cons.inj h
    exact ⟨List.nil_prefix, rfl⟩
  | case2 rest ih =>
    obtain ⟨rfl, -⟩ := List.cons.inj h
    exact ⟨List.nil_prefix, rfl⟩
  | case3 c rest hc hnone ih => exact absurd hnone (cutFieldLists_ne_nil rest)
  | case4 c rest hc first more hrest ih =>
    rw [cutFieldLists.eq_3 c rest hc, hrest] at h
    obtain ⟨rfl, -⟩ := List.cons.inj h
    obtain ⟨hfront, hfirst⟩ := ih hrest
    have hwhole : c :: first <+: c :: rest := (List.prefix_cons_inj c).mpr hfront
    refine ⟨hwhole, (cutFieldLists_eq_self_iff _).mpr fun hopen => ?_⟩
    rcases List.infix_cons_iff.mp hopen with hopen | hopen
    · obtain ⟨tail, htail⟩ := hopen.trans hwhole
      obtain ⟨rfl, rfl⟩ := List.cons.inj htail
      exact hc tail rfl rfl
    · exact (cutFieldLists_eq_self_iff first).mp hfirst hopen

/-- A part of a text without an opening has none either. -/
theorem cutFieldLists_part {cs part : List Char} (hpart : part <:+: cs)
    (h : cutFieldLists cs = [cs]) : cutFieldLists part = [part] :=
  (cutFieldLists_eq_self_iff part).mpr fun hopen =>
    (cutFieldLists_eq_self_iff cs).mp h (hopen.trans hpart)

theorem cutFieldLists_trim {cs : List Char} (h : cutFieldLists cs = [cs]) :
    cutFieldLists (trim cs) = [trim cs] :=
  cutFieldLists_part (trim_part cs) h

/-! ## What has been read -/

theorem mem_ofRules {rule : Rule} {rules : List Rule} (h : rule ∈ (ofRules rules).rules) :
    rule ∈ rules := by
  have hfold : ∀ filter : Filter, rule ∈ (rules.foldl add filter).rules →
      rule ∈ filter.rules ∨ rule ∈ rules := by
    clear h
    induction rules with
    | nil => exact fun filter h => .inl h
    | cons first rules ih =>
      intro filter h
      rcases ih (filter.add first) h with h | h
      · rcases mem_insertRule h with rfl | h
        · exact .inr List.mem_cons_self
        · exact .inl h
      · exact .inr (List.mem_cons_of_mem _ h)
  exact (hfold ⟨[]⟩ h).resolve_left List.not_mem_nil

theorem mem_mapM {α β ε : Type} {f : α → Except ε β} {xs : List α} {ys : List β}
    (h : xs.mapM f = .ok ys) {y : β} (hy : y ∈ ys) : ∃ x ∈ xs, f x = .ok y := by
  induction xs generalizing ys with
  | nil =>
    obtain rfl : [] = ys := by simpa [pure, Except.pure] using h
    simp at hy
  | cons x xs ih =>
    rw [List.mapM_cons] at h
    cases hx : f x with
    | error e => simp [hx, bind, Except.bind] at h
    | ok first =>
      cases hxs : xs.mapM f with
      | error e => simp [hx, hxs, bind, Except.bind] at h
      | ok rest =>
        obtain rfl : first :: rest = ys := by simpa [hx, hxs, bind, Except.bind, pure, Except.pure] using h
        rcases List.mem_cons.mp hy with rfl | hy
        · exact ⟨x, List.mem_cons_self, hx⟩
        · obtain ⟨x', hx', hfx'⟩ := ih hxs hy
          exact ⟨x', List.mem_cons_of_mem _ hx', hfx'⟩

theorem mapM_ok {α β ε : Type} {f : α → Except ε β} {xs : List α}
    (h : ∀ x ∈ xs, ∃ y, f x = .ok y) : ∃ ys, xs.mapM f = .ok ys := by
  induction xs with
  | nil => exact ⟨[], rfl⟩
  | cons x xs ih =>
    obtain ⟨y, hy⟩ := h x List.mem_cons_self
    obtain ⟨ys, hys⟩ := ih fun x hx => h x (List.mem_cons_of_mem _ hx)
    exact ⟨y :: ys, by rw [List.mapM_cons, hy, hys]; rfl⟩

theorem comma_plainDirective {cs : List Char} (h : ',' ∉ cs) : ',' ∉ plainDirective cs := by
  unfold plainDirective
  split
  · rename_i level hcut
    obtain ⟨sep, -, rfl⟩ := eq_of_cut? hcut
    exact fun hmem => h (List.mem_append_right _ (List.mem_cons_of_mem _ (mem_of_mem_trim hmem)))
  · rename_i name level _ hcut
    obtain ⟨sep, -, rfl⟩ := eq_of_cut? hcut
    intro hmem
    rcases List.mem_append.mp hmem with hmem | hmem
    · exact h (List.mem_append_left _ (mem_of_mem_trim hmem))
    · have hmem : ',' ∈ trim level := by simpa using hmem
      exact h (List.mem_append_right _ (List.mem_cons_of_mem _ (mem_of_mem_trim hmem)))
  · split
    · decide
    · split
      · exact h
      · intro hmem
        rcases List.mem_append.mp hmem with hmem | hmem
        · exact h hmem
        · exact absurd hmem (by decide)

/-- The directives of a text: its pieces between the commas that are not blank, each brought into its
plain form. -/
def plainDirectives (text : String) : List (List Char) :=
  (((pieces (· == ',') text.toList).map trim).filter (!·.isEmpty)).map plainDirective

theorem mem_plainDirectives {text : String} {cs : List Char} (h : cs ∈ plainDirectives text) :
    ∃ piece ∈ pieces (· == ',') text.toList, trim piece ≠ [] ∧ plainDirective (trim piece) = cs := by
  obtain ⟨part, hpart, rfl⟩ := List.mem_map.mp h
  obtain ⟨hpart, hnonblank⟩ := List.mem_filter.mp hpart
  obtain ⟨piece, hpiece, rfl⟩ := List.mem_map.mp hpart
  exact ⟨piece, hpiece, by simpa using hnonblank, rfl⟩

/-- The directives are found again in the text that joins them. -/
theorem pieces_directives {text : String} (hne : plainDirectives text ≠ []) :
    pieces (· == ',') (directives text) = plainDirectives text := by
  show pieces (· == ',') (join [','] (plainDirectives text)) = _
  refine pieces_join hne fun cs hcs => ?_
  obtain ⟨piece, hpiece, -, rfl⟩ := mem_plainDirectives hcs
  refine comma_plainDirective fun hmem => ?_
  simpa using free_of_mem_pieces hpiece ',' (mem_of_mem_trim hmem)

/-- A text without directives is the filter without rules, and any other text is read directive by
directive. -/
theorem parse?_cases (text : String) : parse? text = .ok ⟨[]⟩ ∨
    parse? text = match (plainDirectives text).mapM readRule? with
      | .ok rules => .ok (ofRules rules)
      | .error e => .error (.config s!"bad debug filter '{text}': {e.message}") := by
  by_cases hgiven : (directives text).isEmpty
  · left
    simp only [parse?, hgiven, if_true]
  · right
    have hne : plainDirectives text ≠ [] := by
      intro hnil
      have hjoin : directives text = join [','] (plainDirectives text) := rfl
      rw [hjoin, hnil] at hgiven
      exact hgiven rfl
    simp only [parse?, hgiven, Bool.false_eq_true, if_false, ofDirectives?, pieces_directives hne]
    cases (plainDirectives text).mapM readRule? <;> rfl

/-- Every rule of a filter has been read from a directive. -/
theorem mem_parse? {text : String} {f : Filter} (h : parse? text = .ok f) {rule : Rule}
    (hrule : rule ∈ f.rules) : ∃ piece ∈ pieces (· == ',') text.toList, trim piece ≠ [] ∧
      readRule? (plainDirective (trim piece)) = .ok rule := by
  rcases parse?_cases text with hnone | hread
  · obtain rfl := Except.ok.inj (hnone.symm.trans h)
    simp at hrule
  · rw [h] at hread
    split at hread
    · rename_i rules hrules
      obtain rfl := Except.ok.inj hread
      obtain ⟨cs, hcs, hok⟩ := mem_mapM hrules (mem_ofRules hrule)
      obtain ⟨piece, hpiece, hne, rfl⟩ := mem_plainDirectives hcs
      exact ⟨piece, hpiece, hne, hok⟩
    · simp at hread

/-- A text is read if each of its directives is. -/
theorem parse?_ok {text : String} (h : ∀ piece ∈ pieces (· == ',') text.toList, trim piece ≠ [] →
    ∃ rule, readRule? (plainDirective (trim piece)) = .ok rule) : ∃ f, parse? text = .ok f := by
  obtain ⟨rules, hrules⟩ := mapM_ok fun cs (hcs : cs ∈ plainDirectives text) => by
    obtain ⟨piece, hpiece, hne, rfl⟩ := mem_plainDirectives hcs
    exact h piece hpiece hne
  rcases parse?_cases text with hnone | hread
  · exact ⟨_, hnone⟩
  · exact ⟨_, by rw [hread, hrules]⟩

/-- A target is read up to its field list. -/
theorem readTarget?_front {cs : List Char} {target : String} {fields : List String}
    (h : readTarget? cs = .ok (target, fields)) :
    target.toList <+: cs ∧ cutFieldLists target.toList = [target.toList] := by
  unfold readTarget? at h
  split at h
  · rename_i first hcut
    simp only [Except.ok.injEq, Prod.mk.injEq] at h
    rw [← h.1, String.toList_ofList]
    exact cutFieldLists_first hcut
  · rename_i first list hcut
    cases hlist : readFields? list with
    | error e => simp [hlist, Except.map] at h
    | ok names =>
      obtain ⟨rfl, -⟩ : String.ofList first = target ∧ names = fields := by
        simpa [hlist, Except.map] using h
      rw [String.toList_ofList]
      exact cutFieldLists_first hcut
  · rename_i hcut
    exact absurd hcut (cutFieldLists_ne_nil cs)
  · simp at h

/-- The name of a rule that has been read is a part of its directive without an equals sign. -/
theorem target_of_readRule? {cs : List Char} {rule : Rule} (h : readRule? cs = .ok rule) :
    ∀ name ∈ rule.target, name.toList ⊆ cs ∧ '=' ∉ name.toList := by
  intro name hname
  unfold readRule? at h
  split at h
  · rename_i target level hpieces
    have hmem : target ∈ pieces (· == '=') cs := hpieces ▸ List.mem_cons_self
    have hfree := free_of_mem_pieces hmem
    split at h
    · simp at h
    · rename_i first fields hread
      split at h
      · obtain rfl := Except.ok.inj h
        obtain rfl : first = name := by simpa using hname
        have hfront := (readTarget?_front hread).1
        refine ⟨fun c hc => mem_of_mem_pieces hmem (hfront.subset hc), fun hequals => ?_⟩
        simpa using hfree '=' (hfront.subset hequals)
      · simp at h
  · rename_i bare hpieces
    have hmem : bare ∈ pieces (· == '=') cs := hpieces ▸ List.mem_cons_self
    split at h
    · obtain rfl := Except.ok.inj h
      simp at hname
    · obtain rfl := Except.ok.inj h
      obtain rfl : String.ofList bare = name := by simpa using hname
      rw [String.toList_ofList]
      refine ⟨fun c hc => mem_of_mem_pieces hmem hc, fun hequals => ?_⟩
      simpa using free_of_mem_pieces hmem '=' hequals
  · simp at h

/-- No name of a filter that has been read has a comma or an equals sign. -/
theorem target_of_parse? {text : String} {f : Filter} (h : parse? text = .ok f) {rule : Rule}
    (hrule : rule ∈ f.rules) : ∀ name ∈ rule.target, ',' ∉ name.toList ∧ '=' ∉ name.toList := by
  intro name hname
  obtain ⟨piece, hpiece, -, hread⟩ := mem_parse? h hrule
  obtain ⟨hpart, hequals⟩ := target_of_readRule? hread name hname
  refine ⟨fun hcomma => ?_, hequals⟩
  have hfree : ',' ∉ trim piece := fun hmem => by
    simpa using free_of_mem_pieces hpiece ',' (mem_of_mem_trim hmem)
  exact comma_plainDirective hfree (hpart hcomma)

/-! ## The usual forms -/

/-- The text spells a level. -/
def Spelled (cs : List Char) : Prop := (Verbosity.ofText? (.ofList cs)).isSome

instance (cs : List Char) : Decidable (Spelled cs) := inferInstanceAs (Decidable (_ = true))

/-- The directive, without blanks around it, has one of the usual forms. Blanks may stand around the
equals sign, though not between a star and it. -/
inductive Usual : List Char → Prop where
  /-- A star. -/
  | star : Usual ['*']
  /-- A star with a level. -/
  | starLevel {level : List Char} (hlevel : Spelled (trim level)) : Usual ('*' :: '=' :: level)
  /-- A bare level. -/
  | level {level : List Char} (hlevel : Spelled level) : Usual level
  /-- A bare name. -/
  | name {name : List Char} (hname : PlainName (.ofList name)) : Usual name
  /-- A name with a level. -/
  | nameLevel {name level : List Char} (hname : PlainName (.ofList (trim name)))
    (hlevel : Spelled (trim level)) : Usual (name ++ '=' :: level)

/-- No number has an equals sign. -/
theorem natural?_equals {cs : List Char} (h : '=' ∈ cs) (bound : Nat) :
    Number.natural? bound cs = none := by
  have hsome : ∀ digits : List Char, '=' ∈ digits → digits.all Number.isDigit = false := by
    intro digits hmem
    exact List.all_eq_false.mpr ⟨'=', hmem, by decide⟩
  unfold Number.natural?
  split
  · rename_i rest
    simp [hsome rest (by simpa using h)]
  · simp [hsome cs h]

theorem Spelled.equals {cs : List Char} (h : Spelled cs) : '=' ∉ cs := by
  intro hmem
  obtain ⟨level, hlevel⟩ := Option.isSome_iff_exists.mp h
  have hne : (String.ofList cs).isEmpty = false := by
    cases cs with
    | nil => simp at hmem
    | cons c cs => simp
  simp only [Verbosity.ofText?, String.toList_ofList, natural?_equals hmem, hne, Bool.false_eq_true,
    if_false] at hlevel
  -- the name of the level would have an equals sign
  have hname : level.name.toList = cs.map Number.lowered := by simpa using List.find?_some hlevel
  have hlowered : '=' ∈ cs.map Number.lowered := List.mem_map.mpr ⟨'=', hmem, by decide⟩
  exact level.equals_name (hname ▸ hlowered)

/-- A level alone is read as the default rule. -/
theorem Spelled.readRule? {cs : List Char} (h : Spelled cs) :
    ∃ level, readRule? cs = .ok { target := none, level := level } := by
  obtain ⟨level, hlevel⟩ := Option.isSome_iff_exists.mp h
  refine ⟨level, ?_⟩
  rw [Filter.readRule?, pieces_of_none (Rule.forall_ne_equals h.equals)]
  simp [hlevel]

theorem plain_default (level : Verbosity) : ({ target := none, level := level } : Rule).Plain :=
  ⟨rfl, by simp⟩

/-- A plain name and a level are read as they are. -/
theorem plain_of_readRule? {name level : List Char} (hname : PlainName (.ofList name))
    (hlevel : Spelled level) {rule : Rule} (h : readRule? (name ++ '=' :: level) = .ok rule) :
    rule.Plain := by
  obtain ⟨verbosity, hverbosity⟩ := Option.isSome_iff_exists.mp hlevel
  have hequals : '=' ∉ name := by simpa using hname.equals
  have hbracket : cutFieldLists name = [name] := by simpa using hname.bracket
  rw [readRule?, pieces_cut (Rule.forall_ne_equals hequals) (beq_self_eq_true '='),
    pieces_of_none (Rule.forall_ne_equals hlevel.equals)] at h
  obtain rfl : { target := some (String.ofList name), level := verbosity } = rule := by
    simpa [readTarget?, hbracket, hverbosity] using h
  refine ⟨rfl, fun target htarget => ?_⟩
  obtain rfl := Option.some.inj htarget
  exact hname

/-- A directive without an equals sign is a star, a level, or a name that gets a level. -/
theorem plainDirective_bare {cs : List Char} (h : '=' ∉ cs) : plainDirective cs =
    if cs == ['*'] then "debug".toList else if Spelled cs then cs else cs ++ "=debug".toList := by
  rw [plainDirective, cut?_none (Rule.forall_ne_equals h)]
  rfl

/-- A usual directive stands for a plain rule. -/
theorem Usual.plain {cs : List Char} (h : Usual cs) {rule : Rule}
    (hread : readRule? (plainDirective cs) = .ok rule) : rule.Plain := by
  have hdefault : ∀ {ds : List Char}, Spelled ds → Filter.readRule? ds = .ok rule → rule.Plain := by
    intro ds hds hread
    obtain ⟨level, hlevel⟩ := hds.readRule?
    rw [Except.ok.inj (hread.symm.trans hlevel)]
    exact plain_default level
  cases h with
  | star => exact hdefault (by decide) hread
  | @starLevel level hlevel =>
    have hcut : cut? (· == '=') ('*' :: '=' :: level) = some (['*'], level) :=
      @cut?_append (· == '=') ['*'] level (by simp) '=' (by simp)
    rw [plainDirective, hcut] at hread
    exact hdefault hlevel hread
  | level hlevel =>
    rw [plainDirective_bare hlevel.equals, if_pos hlevel] at hread
    split at hread
    · exact hdefault (by decide) hread
    · exact hdefault hlevel hread
  | name hname =>
    rw [plainDirective_bare (by simpa using hname.equals)] at hread
    split at hread
    · exact hdefault (by decide) hread
    · split at hread
      · rename_i hlevel
        exact hdefault hlevel hread
      · exact plain_of_readRule? hname (by decide) hread
  | @nameLevel name level hname hlevel =>
    have hequals : '=' ∉ name := by
      have htrim : '=' ∉ trim name := by simpa using hname.equals
      rwa [mem_trim_iff (by decide)] at htrim
    have hstar : name ≠ ['*'] := by
      rintro rfl
      exact hname.star (by decide)
    rw [plainDirective, cut?_append (Rule.forall_ne_equals hequals) (beq_self_eq_true '=')] at hread
    split at hread
    · rename_i h
      exact absurd (Prod.mk.inj (Option.some.inj h)).1 hstar
    · rename_i hparts
      obtain ⟨rfl, rfl⟩ := Prod.mk.inj (Option.some.inj hparts)
      exact plain_of_readRule? hname hlevel hread
    · simp_all

/-- Every directive of the text has one of the usual forms. -/
def UsualText (text : String) : Prop :=
  ∀ piece ∈ pieces (· == ',') text.toList, trim piece ≠ [] → Usual (trim piece)

/-- The filter of a text with usual directives is plain. -/
theorem UsualText.plain {text : String} {f : Filter} (husual : UsualText text)
    (h : parse? text = .ok f) : f.Plain := by
  intro rule hrule
  obtain ⟨piece, hpiece, hne, hread⟩ := mem_parse? h hrule
  exact (husual piece hpiece hne).plain hread

end Filter

end Pipework
