import Pipework.Command.Programs
import Pipework.Job.Pipeline
import Pipework.Proofs.Command.Taking
import Pipework.Proofs.Text.Segments

/-!
# Commands as functions of lists

Many commands turn a list of items into another, whatever order these arrive in and whoever waits
for whom. `Command.function?` names the function of such a command: of the argument text, and of the
list that the stage before writes. A stage on its own writes what its function says
(`computes_function`). There is one exception, a `chunk` that asks for more items at once than can be
addressed (`Command.Excessive`): it ends the program.

A command that fails does so before it writes anything: its function gives the empty list.
-/

namespace Pipework.Command

open Behavior

/-! ## The functions -/

/-- A text without the items that are shown as one before is. -/
def firsts : List String → List Value → List Value
  | _, [] => []
  | seen, v :: items =>
    if seen.contains v.display then firsts seen items
    else v :: firsts (v.display :: seen) items

/-- Lists of `n` items, and of what is left at the end. -/
def chunked (n : Nat) : List Value → List Value
  | [] => []
  | v :: items => .list (v :: items.take (n - 1)) :: chunked n (items.drop (n - 1))
termination_by items => items.length
decreasing_by simp only [List.length_drop, List.length_cons]; omega

/-- The number of lines, words or characters of each text among the items, as the flags ask. -/
def counts (items : List Value) : List Value :=
  match flagged ['l', 'w', 'c'] items with
  | some (flags, left) =>
    left.filterMap fun v => v.text?.map fun s => .ofNat ((Measure.ofFlags flags).count s)
  | none => []

/-- The pieces of texts between the matches of a pattern. -/
def splitAt (args : Option String) (items : List Value) : List Value :=
  match Pattern.read false (args.getD lineBreaks) with
  | .ok pattern => items.flatMap fun
    | .text s => (pattern.split s).map .text
    | v => [v]
  | .error _ => []

/-- The items with the matches of a pattern replaced: pattern and replacement are the first items. -/
def replaced (items : List Value) : List Value :=
  match flagged ['g', 'G', 'i'] items with
  | some (flags, first :: second :: left) =>
    match Pattern.read (flags.contains 'i') first.display with
    | .ok pattern => left.map fun v =>
      .text (pattern.replace (flags.contains 'g' || !flags.contains 'G')
        (Pattern.replacement second.display) v.display)
    | .error _ => []
  | _ => []

/-- The lines in which a pattern matches, or does not: the pattern is the first item. -/
def matching (items : List Value) : List Value :=
  match flagged ['i', 'v'] items with
  | some (flags, first :: left) =>
    match Pattern.read (flags.contains 'i') first.display with
    | .ok pattern => left.flatMap fun v => ((piecesAt '\n' v.display).filter fun line =>
      pattern.matchesIn line != flags.contains 'v').map .text
    | .error _ => []
  | _ => []

/-- The items in the order of the texts they are shown as. -/
def sorted (items : List Value) : List Value :=
  ((items.map fun v => (v.display, v)).mergeSort fun a b => a.1 ≤ b.1).map (·.2)

/-- The function of a command, of its argument text and the items of the stage before. -/
def function? (name : String) : Option (Option String → List Value → List Value) :=
  match name with
  | "echo" => some fun args _ => [.text (args.getD "")]
  | "pause" => some fun _ items => items
  | "collect" => some fun args items => [.list (wordItems args ++ items)]
  | "len" => some fun args items => (wordItems args ++ items).map fun v => .ofNat v.length
  | "wc" => some fun args items => counts (wordItems args ++ items)
  | "join" => some fun args items => [.text (joined (args.getD "\n") (items.map (·.display)))]
  | "split" => some splitAt
  | "chunk" => some fun args items => chunked (countOr 5 args) items
  | "head" => some fun args items => items.take (countOr 5 args)
  | "tail" => some fun args items => items.drop (items.length - countOr 5 args)
  | "drop" => some fun args items => items.drop (countOr 5 args)
  | "uniq" => some fun args items => firsts [] (wordItems args ++ items)
  | "sort" => some fun args items => sorted (wordItems args ++ items)
  | "reverse" => some fun args items => (wordItems args ++ items).reverse
  | "trim" => some fun args items => (wordItems args ++ items).flatMap (·.items.map trimValue)
  | "gsub" => some fun args items => replaced (wordItems args ++ items)
  | "grep" => some fun args items => matching (wordItems args ++ items)
  | _ => none

/-- The command asks for more items at once than can be addressed. -/
def Excessive (name : String) (args : Option String) : Prop :=
  name = "chunk" ∧ Input.maxTake < countOr 5 args

instance (name : String) (args : Option String) : Decidable (Excessive name args) :=
  inferInstanceAs (Decidable (_ ∧ _))

/-! ## What the programs write -/

/-- The program writes what the function makes of its input. -/
def Computes (program : StageProgram) (args : Option String) (f : List Value → List Value) : Prop :=
  ∀ hasInput input, (program hasInput args).Writes { input := input } (f (input.getD []))

variable (args : Option String)

theorem computes_echo : Computes echo args fun _ => [.text (args.getD "")] := by
  intro hasInput input
  exact (yields_closeInput _).thenWrites (yields_write _ _).writes

section Shapes

variable {o : Input} (hasInput : Bool) (text : Option String) (input : Option (List Value))

/-- A command that takes its items one after another. -/
theorem writes_each (ho : o.Plain) {body : Value → Behavior Unit} {written : Value → List Value}
    (hbody : ∀ d v, (body v).Yields d (written v) (.ok (), d)) :
    ((o.openText hasInput text).bind fun _ => forAll o.next body).Writes { input := input }
      ((wordItems text ++ input.getD []).flatMap written) := by
  obtain ⟨d₁, hopen, hd₁⟩ := Input.yields_openText ho hasInput text { input := input }
  exact hopen.thenWrites (writes_forAll (Input.feeds_next o []) hbody hd₁)

/-- A command that takes all its items and writes others. -/
theorem writes_all (ho : o.Plain) {body : List Value → Behavior Unit}
    (written : List Value → List Value)
    (hbody : ∀ d items, (body items).Yields d (written items) (.ok (), d)) :
    ((o.openText hasInput text).bind fun _ => o.rest.bind body).Writes { input := input }
      (written (wordItems text ++ input.getD [])) := by
  obtain ⟨d₁, hopen, hd₁⟩ := Input.yields_openText ho hasInput text { input := input }
  obtain ⟨d₂, hrest, -⟩ := Input.yields_rest hd₁
  rw [ho.flattens, if_neg Bool.false_ne_true] at hrest
  exact hopen.thenWrites (hrest.thenWrites (hbody d₂ _).writes)

/-- A command that takes its items one after another and remembers something. -/
theorem writes_scan {σ : Type} (ho : o.Plain) {body : σ → Value → Behavior σ} {change : σ → Value → σ}
    {written : σ → Value → List Value}
    (hbody : ∀ d s v, (body s v).Yields d (written s v) (.ok (change s v), d)) (s : σ) :
    ((o.openText hasInput text).bind fun _ => (forEach o.next s body).bind fun _ =>
      .result ()).Writes { input := input }
        (emitted change written s (wordItems text ++ input.getD [])) := by
  obtain ⟨d₁, hopen, hd₁⟩ := Input.yields_openText ho hasInput text { input := input }
  obtain ⟨d₂, heach, -⟩ := yields_forEach (Input.feeds_next o []) hbody s hd₁
  refine hopen.thenWrites (Yields.writes (r := (.ok (), d₂)) ?_)
  rw [← List.append_nil (emitted ..)]
  exact heach.bind (yields_result d₂ ())

end Shapes

theorem computes_len :
    Computes len args fun items => (wordItems args ++ items).map fun v => .ofNat v.length := by
  intro hasInput input
  simp only [List.map_eq_flatMap]
  exact writes_each hasInput args input ⟨rfl, rfl, rfl⟩ fun d v => yields_write d _

theorem computes_collect :
    Computes collect args fun items => [.list (wordItems args ++ items)] :=
  fun hasInput input => writes_all hasInput args input ⟨rfl, rfl, rfl⟩ (fun items => [.list items])
    fun d _ => yields_write d _

theorem computes_join :
    Computes join args fun items => [.text (joined (args.getD "\n") (items.map (·.display)))] :=
  fun hasInput input => writes_all hasInput none input ⟨rfl, rfl, rfl⟩
    (fun items => [.text (joined (args.getD "\n") (items.map Value.display))])
    fun d _ => yields_write d _

theorem computes_tail :
    Computes tail args fun items => items.drop (items.length - countOr 5 args) :=
  fun hasInput input => writes_all hasInput none input ⟨rfl, rfl, rfl⟩
    (fun items => items.drop (items.length - countOr 5 args)) fun d _ => yields_writeAll d _

theorem computes_sort : Computes sort args fun items => sorted (wordItems args ++ items) :=
  fun hasInput input => writes_all hasInput args input ⟨rfl, rfl, rfl⟩ sorted
    fun d _ => yields_writeAll d _

theorem computes_reverse : Computes reverse args fun items => (wordItems args ++ items).reverse :=
  fun hasInput input => writes_all hasInput args input ⟨rfl, rfl, rfl⟩ List.reverse
    fun d _ => yields_writeAll d _

theorem computes_trim :
    Computes trim args fun items => (wordItems args ++ items).flatMap (·.items.map trimValue) :=
  fun hasInput input => writes_each hasInput args input ⟨rfl, rfl, rfl⟩ fun d _ => yields_writeAll d _

theorem computes_split : Computes split args (splitAt args) := by
  intro hasInput input
  refine writes_ofExcept (fun pattern hpattern => ?_) fun e hpattern => by simp only [splitAt, hpattern]
  simp only [splitAt, hpattern]
  refine writes_each hasInput none input ⟨rfl, rfl, rfl⟩ fun d v => ?_
  cases v with
  | text s => exact yields_writeAll d _
  | _ => exact yields_write d _

/-! ### Commands that stop early, or remember -/

theorem computes_head : Computes head args fun items => items.take (countOr 5 args) := by
  intro hasInput input
  have ho : Input.Plain { name := "head" } := ⟨rfl, rfl, rfl⟩
  obtain ⟨d₁, hopen, hd₁⟩ := Input.yields_openText ho hasInput none { input := input }
  refine hopen.thenWrites ?_
  refine writes_loop (fun left items => items.take left) (fun left items d hd => ?_) _ hd₁
  cases left with
  | zero => exact .inl ⟨(), d, yields_result d _⟩
  | succ left =>
    cases items with
    | nil =>
      obtain ⟨d', hnone, -⟩ := (Input.feeds_next _ []).nil hd
      exact .inl ⟨(), d', hnone.then (yields_result d' _)⟩
    | cons v items =>
      obtain ⟨d', htaken, hd'⟩ := (Input.feeds_next _ []).cons hd
      exact .inr ⟨[v], left, items, d', htaken.then ((yields_write d' v).bind (yields_result d' _)),
        hd', Nat.lt_succ_self _, rfl⟩

theorem emitted_drop (n : Nat) (items : List Value) :
    emitted (fun left _ => left - 1) (fun left v => if left = 0 then [v] else []) n items =
      items.drop n := by
  induction items generalizing n with
  | nil => simp [emitted]
  | cons v items ih => cases n <;> simp [emitted, ih]

theorem computes_drop : Computes drop args fun items => items.drop (countOr 5 args) := by
  intro hasInput input
  simp only [← emitted_drop]
  refine writes_scan hasInput none input ⟨rfl, rfl, rfl⟩ (fun d left v => ?_) _
  split
  · exact (yields_write d v).bind (yields_result d _)
  · exact yields_result d _

theorem emitted_firsts (seen : List String) (items : List Value) :
    emitted (fun seen v => if seen.contains v.display then seen else v.display :: seen)
      (fun seen v => if seen.contains v.display then [] else [v]) seen items = firsts seen items := by
  induction items generalizing seen with
  | nil => rfl
  | cons v items ih =>
    simp only [emitted, firsts, ih]
    split <;> rfl

theorem computes_uniq : Computes uniq args fun items => firsts [] (wordItems args ++ items) := by
  intro hasInput input
  simp only [← emitted_firsts]
  refine writes_scan hasInput args input ⟨rfl, rfl, rfl⟩ (fun d seen v => ?_) []
  cases hseen : seen.contains v.display with
  | true =>
    simp only [if_true]
    exact yields_result d seen
  | false =>
    simp only [Bool.false_eq_true, if_false]
    exact (yields_write d v).bind (yields_result d _)

/-! ### Commands with flags -/

/-- A command that looks at its flags and then takes its items one after another. -/
theorem computes_wc : Computes wc args fun items => counts (wordItems args ++ items) := by
  intro hasInput input
  have ho : Input.Plain { name := "wc", flags := some "lwc" } := ⟨rfl, rfl, rfl⟩
  have hknown : Input.flags { name := "wc", flags := some "lwc" } = some "lwc" := rfl
  obtain ⟨d₁, hopen, hd₁⟩ := Input.yields_openText ho hasInput args { input := input }
  refine hopen.thenWrites ?_
  unfold counts
  obtain hunknown | ⟨⟨seen, left⟩, hflagged⟩ :=
    Option.eq_none_or_eq_some (flagged ['l', 'w', 'c'] (wordItems args ++ input.getD []))
  · obtain ⟨e, d₂, hflags⟩ := Input.yields_flagged_none hknown hd₁ hunknown
    simp only [hunknown]
    exact (hflags.bind_fail _).writes
  · obtain ⟨d₂, hflags, hd₂⟩ := Input.yields_flagged hknown hd₁ hflagged
    simp only [hflagged, List.filterMap_eq_flatMap_toList]
    refine hflags.thenWrites ((yields_perform rfl).thenWrites ?_)
    rw [hd₂.flags]
    refine writes_forAll (Input.feeds_next _ _) (fun d v => ?_) hd₂
    obtain htext | ⟨s, htext⟩ := Option.eq_none_or_eq_some v.text?
    · simp only [htext]
      exact yields_perform rfl
    · simp only [htext]
      exact yields_write d _

theorem computes_gsub : Computes gsub args fun items => replaced (wordItems args ++ items) := by
  intro hasInput input
  have ho : Input.Plain { name := "gsub", flags := some "gGi", required := 2 } := ⟨rfl, rfl, rfl⟩
  have hknown : Input.flags { name := "gsub", flags := some "gGi", required := 2 } = some "gGi" := rfl
  have htwo : 2 ≤ Input.maxTake := by decide
  obtain ⟨d₁, hopen, hd₁⟩ := Input.yields_openText ho hasInput args { input := input }
  refine hopen.thenWrites ?_
  unfold replaced
  beta_reduce
  split
  · rename_i seen first second left hflagged
    obtain ⟨d₂, hrequire, hd₂⟩ := Input.yields_require hknown htwo hd₁ hflagged (by simp)
    replace hd₂ : Desk.Holds _ seen left d₂ := hd₂
    refine hrequire.thenWrites ((Input.yields_hasFlag 'g' hd₂).thenWrites ?_)
    refine (Input.yields_hasFlag 'G' hd₂).thenWrites ((Input.yields_hasFlag 'i' hd₂).thenWrites ?_)
    refine writes_ofExcept (fun pattern hpattern => ?_) fun e hpattern => ?_
    · replace hpattern : Pattern.read (seen.contains 'i') first.display = .ok pattern := hpattern
      simp only [hpattern, List.map_eq_flatMap]
      exact writes_forAll (Input.feeds_next _ seen) (fun d v => yields_write d _) hd₂
    · replace hpattern : Pattern.read (seen.contains 'i') first.display = .error e := hpattern
      simp only [hpattern]
  · rename_i hfew
    obtain ⟨_, d₂, hrequire⟩ := Input.yields_require_none hknown htwo hd₁ fun seen left hflagged => by
      rcases left with _ | ⟨first, _ | ⟨second, left⟩⟩
      · exact Nat.two_pos
      · exact Nat.one_lt_two
      · exact absurd hflagged (hfew seen first second left)
    exact (hrequire.bind_fail _).writes

theorem computes_grep : Computes grep args fun items => matching (wordItems args ++ items) := by
  intro hasInput input
  have ho : Input.Plain { name := "grep", flags := some "iv", required := 1 } := ⟨rfl, rfl, rfl⟩
  have hknown : Input.flags { name := "grep", flags := some "iv", required := 1 } = some "iv" := rfl
  have hone : 1 ≤ Input.maxTake := by decide
  obtain ⟨d₁, hopen, hd₁⟩ := Input.yields_openText ho hasInput args { input := input }
  refine hopen.thenWrites ?_
  unfold matching
  beta_reduce
  split
  · rename_i seen first left hflagged
    obtain ⟨d₂, hrequire, hd₂⟩ := Input.yields_require hknown hone hd₁ hflagged (by simp)
    replace hd₂ : Desk.Holds _ seen left d₂ := hd₂
    refine hrequire.thenWrites ((Input.yields_hasFlag 'i' hd₂).thenWrites ?_)
    refine writes_ofExcept (fun pattern hpattern => ?_) fun e hpattern => ?_
    · replace hpattern : Pattern.read (seen.contains 'i') first.display = .ok pattern := hpattern
      simp only [hpattern]
      refine (Input.yields_hasFlag 'v' hd₂).thenWrites ?_
      exact writes_forAll (Input.feeds_next _ seen) (fun d v => yields_writeAll d _) hd₂
    · replace hpattern : Pattern.read (seen.contains 'i') first.display = .error e := hpattern
      simp only [hpattern]
  · rename_i hfew
    obtain ⟨_, d₂, hrequire⟩ := Input.yields_require_none hknown hone hd₁ fun seen left hflagged => by
      rcases left with _ | ⟨first, left⟩
      · exact Nat.one_pos
      · exact absurd hflagged (hfew seen first left)
    exact (hrequire.bind_fail _).writes

/-! ### Chunks -/

/-- A chunk of a size that can be asked for. -/
theorem computes_chunk (hsize : countOr 5 args ≤ Input.maxTake) :
    Computes chunk args fun items => chunked (countOr 5 args) items := by
  intro hasInput input
  have ho : Input.Plain { name := "chunk" } := ⟨rfl, rfl, rfl⟩
  have hpos : 0 < countOr 5 args := countOr_pos args (by decide)
  obtain ⟨d₁, hopen, hd₁⟩ := Input.yields_openText ho hasInput none { input := input }
  refine hopen.thenWrites ?_
  refine writes_loop (fun _ items => chunked (countOr 5 args) items) (fun _ items d hd => ?_) () hd₁
  obtain ⟨d', htake, hd'⟩ := Input.yields_take hsize hd
  cases items with
  | nil =>
    refine .inl ⟨(), d', htake.then ?_⟩
    simp only [List.take_nil, chunked]
    exact yields_result d' _
  | cons v items =>
    rw [List.take_cons hpos] at htake
    rw [show countOr 5 args = countOr 5 args - 1 + 1 by omega, List.drop_succ_cons] at hd'
    refine .inr ⟨_, (), _, d', htake.then ((yields_write d' _).bind (yields_result d' _)), hd', ?_, ?_⟩
    · simp only [List.length_drop, List.length_cons]
      omega
    · rw [chunked]
      rfl

/-! ## All commands -/

theorem computes_program {name : String} {program : StageProgram}
    {f : Option String → List Value → List Value} (hprogram : program? name = some program)
    (hf : function? name = some f) (hfit : ¬ Excessive name args) : Computes program args (f args) := by
  unfold function? at hf
  split at hf <;> cases hf
  · obtain rfl : echo = program := Option.some.inj hprogram
    exact computes_echo args
  · exact absurd hprogram (by simp [program?])
  · obtain rfl : collect = program := Option.some.inj hprogram
    exact computes_collect args
  · obtain rfl : len = program := Option.some.inj hprogram
    exact computes_len args
  · obtain rfl : wc = program := Option.some.inj hprogram
    exact computes_wc args
  · obtain rfl : join = program := Option.some.inj hprogram
    exact computes_join args
  · obtain rfl : split = program := Option.some.inj hprogram
    exact computes_split args
  · obtain rfl : chunk = program := Option.some.inj hprogram
    exact computes_chunk args (Nat.le_of_not_lt fun hlt => hfit ⟨rfl, hlt⟩)
  · obtain rfl : head = program := Option.some.inj hprogram
    exact computes_head args
  · obtain rfl : tail = program := Option.some.inj hprogram
    exact computes_tail args
  · obtain rfl : drop = program := Option.some.inj hprogram
    exact computes_drop args
  · obtain rfl : uniq = program := Option.some.inj hprogram
    exact computes_uniq args
  · obtain rfl : sort = program := Option.some.inj hprogram
    exact computes_sort args
  · obtain rfl : reverse = program := Option.some.inj hprogram
    exact computes_reverse args
  · obtain rfl : trim = program := Option.some.inj hprogram
    exact computes_trim args
  · obtain rfl : gsub = program := Option.some.inj hprogram
    exact computes_gsub args
  · obtain rfl : grep = program := Option.some.inj hprogram
    exact computes_grep args

/-- A command with a function and without a program passes its items on. -/
theorem function_of_program_none {name : String} {f : Option String → List Value → List Value}
    (hprogram : program? name = none) (hf : function? name = some f) (items : List Value) :
    f args items = items := by
  unfold function? at hf
  split at hf <;> cases hf
  case h_2 => rfl
  all_goals simp [program?] at hprogram

/-- A stage on its own writes what the function of its command makes of its input, unless it asks
for too much. -/
theorem computes_stage {spec : CommandSpec} {f : Option String → List Value → List Value}
    (hf : function? spec.name = some f) (hfit : ¬ Excessive spec.name args) :
    Computes (Pipeline.stageBehavior program? spec) args (f args) := by
  intro hasInput input
  refine (yields_perform rfl).thenWrites ?_
  obtain hnone | ⟨program, hprogram⟩ := Option.eq_none_or_eq_some (program? spec.name)
  · simp only [hnone]
    rw [function_of_program_none args hnone hf, ← List.flatMap_singleton' (input.getD [])]
    exact writes_forAll (feeds_read {}) (fun d v => yields_write d v) ⟨rfl, rfl⟩
  · simp only [hprogram]
    exact computes_program args hprogram hf hfit hasInput input

end Pipework.Command
