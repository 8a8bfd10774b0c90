import Pipework.Proofs.Command.FlagGroups
import Pipework.Proofs.Command.Feeding

/-!
# Lines that match

`grep` looks for a pattern in the lines of its items, wherever these come from: the items after the
pattern in its argument text, and then those of the stage before. Its flags stand before the pattern, in
any groups (`Asks`). It writes the lines that match, or with the flag `v` the others, in their order
(`matching_eq`), so every line is written by one of the two (`grep_complementary`).
-/

namespace Pipework

namespace Command

variable {known : List Char} {groups further left : List Value} {letters : List (List Char)} {v : Value}
  {args args' : Option String} {ignoring inverting : Bool} {P : String} {pattern : Pattern}

/-! ## Flags -/

/-- Groups of flags are taken up to an item that is none. -/
theorem flagged_groups (hgroups : List.Forall₂ (Input.FlagGroup known) groups letters)
    (hv : Input.flagLetters? v = none) :
    flagged known (groups ++ v :: left) = some (letters.flatten, v :: left) := by
  induction hgroups with
  | nil => rw [List.nil_append, flagged, hv, List.flatten_nil]
  | @cons group seen groups letters hgroup _ ih =>
    have hseen : seen.all known.contains = true := by simpa using hgroup.2
    rw [List.cons_append, flagged, Input.flagLetters?_of_flagText hgroup.1]
    simp only [hseen, if_true, ih, Option.map_some, List.flatten_cons]

/-- The argument text asks `grep` for a pattern: groups of its flags, which tell whether case is ignored
and whether the lines are wanted that do not match, then the pattern, and then further items. -/
def Asks (args : Option String) (ignoring inverting : Bool) (P : String) (further : List Value) : Prop :=
  ∃ groups letters, List.Forall₂ (Input.FlagGroup ['i', 'v']) groups letters ∧
    wordItems args = groups ++ .text P :: further ∧ letters.flatten.contains 'i' = ignoring ∧
    letters.flatten.contains 'v' = inverting

/-! ## Lines -/

/-- A text is a pattern when it can be read and its machine fits into the memory. -/
theorem exists_read (h : ((Pattern.read? ignoring P).map fun read => read.1.fits Pattern.memoryLimit) = some true) :
    ∃ pattern, Pattern.read ignoring P = .ok pattern := by
  obtain ⟨⟨t, names⟩, hread, hfits⟩ := Option.map_eq_some_iff.mp h
  simp only at hfits
  simp only [Pattern.read, hread, hfits]
  exact ⟨_, rfl⟩

/-- The lines of the texts that items are shown as. -/
def linesOf (items : List Value) : List String := items.flatMap fun v => piecesAt '\n' v.display

/-- What `grep` makes of its items when it is asked for a pattern. -/
theorem matching_eq (hasks : Asks args ignoring inverting P further) (hP : P.toList.head? ≠ some '-')
    (hpattern : Pattern.read ignoring P = .ok pattern) (xs : List Value) :
    matching (wordItems args ++ xs) =
      ((linesOf (further ++ xs)).filter fun line => pattern.matchesIn line != inverting).map .text := by
  obtain ⟨groups, letters, hgroups, hargs, rfl, rfl⟩ := hasks
  have hflagged : flagged ['i', 'v'] (wordItems args ++ xs) =
      some (letters.flatten, .text P :: (further ++ xs)) := by
    rw [hargs, List.append_assoc, List.cons_append]
    exact flagged_groups hgroups (by simp [Input.flagLetters?, hP])
  have hshown : (Value.text P).display = P := by rw [Value.display]
  unfold matching
  simp only [hflagged, hshown, hpattern]
  rw [linesOf, List.filter_flatMap, List.map_flatMap]

section Lines

variable {m : Machine} {front : List Stage} {xs : List Value} {grep : String}

/-- **`grep` and `grep -v` are complementary.** Whatever stands before them in their lines, and however
their flags are grouped, the one writes the lines in which the pattern matches, and the other one the
others. -/
theorem grep_complementary (hm : m.Prompt) (hfront : m.Supplies front xs) (hgrep : m.Calls grep "grep")
    (hP : P.toList.head? ≠ some '-') (hpattern : Pattern.read ignoring P = .ok pattern)
    (hasks : Asks args ignoring false P further) (hinverts : Asks args' ignoring true P further)
    {line line' : String} (hline : Stage.parseLine line = front ++ [⟨grep, args⟩])
    (hline' : Stage.parseLine line' = front ++ [⟨grep, args'⟩]) :
    let lines := linesOf (further ++ xs)
    ∃ out out', m.Outputs line (out.map .text) ∧ m.Outputs line' (out'.map .text) ∧
      out = lines.filter (fun line => pattern.matchesIn line) ∧
      out' = lines.filter (fun line => !pattern.matchesIn line) ∧ (out ++ out').Perm lines := by
  intro lines
  -- both commands see the same items, and differ in the flag alone
  have hout : m.Outputs line (matching (wordItems args ++ xs)) :=
    hfront.outputs hm (.cons (hgrep.maps rfl (computes_grep args)) .nil) hline
  have hout' : m.Outputs line' (matching (wordItems args' ++ xs)) :=
    hfront.outputs hm (.cons (hgrep.maps rfl (computes_grep args')) .nil) hline'
  rw [matching_eq hasks hP hpattern] at hout
  rw [matching_eq hinverts hP hpattern] at hout'
  simp only [Bool.bne_false] at hout
  simp only [Bool.bne_true] at hout'
  exact ⟨_, _, hout, hout', rfl, rfl, List.filter_append_perm _ lines⟩

/-- Three lines of an item, and one of the argument text. The flag stands in two groups. -/
theorem grep_complementary_grouped :
    let m := Machine.ofShell {}
    ∃ pattern out out', Pattern.read false "t" = .ok pattern ∧
      m.Outputs "echo one\ntwo\nthree | grep t four" (out.map .text) ∧
      m.Outputs "echo one\ntwo\nthree | grep -v -v t four" (out'.map .text) ∧
      out = ["four", "one", "two", "three"].filter (fun line => pattern.matchesIn line) ∧
      (out ++ out').Perm ["four", "one", "two", "three"] := by
  intro m
  have hcalls : ∀ name, (Registry.builtin.lookup? name).map (·.name) = some name → m.Calls name name :=
    fun name hname => Machine.calls_builtin rfl rfl hname
  have hecho := (hcalls "echo" (by decide +kernel)).maps rfl (computes_echo (some "one\ntwo\nthree"))
  have hfront : m.Supplies [⟨"echo", some "one\ntwo\nthree"⟩] [.text "one\ntwo\nthree"] :=
    Machine.supplies_nil.concat (f := fun _ => [.text "one\ntwo\nthree"]) hecho
  obtain ⟨pattern, hpattern⟩ : ∃ pattern, Pattern.read false "t" = .ok pattern :=
    exists_read (by decide +kernel)
  have hv : Input.FlagGroup ['i', 'v'] (.text (String.ofList ['-', 'v'])) ['v'] :=
    ⟨.one (by decide), by simp⟩
  have hlines : linesOf ([.text "four"] ++ [.text "one\ntwo\nthree"]) = ["four", "one", "two", "three"] := by
    decide +kernel
  have hasks : Asks (some "t four") false false "t" [.text "four"] := ⟨[], [], .nil, by rfl, rfl, rfl⟩
  have hinverts : Asks (some "-v -v t four") false true "t" [.text "four"] :=
    ⟨_, _, .cons hv (.cons hv .nil), by rfl, rfl, rfl⟩
  obtain ⟨out, out', hout, hout', hmatches, -, hperm⟩ :=
    grep_complementary (Machine.prompt_ofShell Registry.named_builtin) hfront
      (hcalls "grep" (by decide +kernel)) (by decide +kernel) hpattern hasks hinverts
      (by decide +kernel : Stage.parseLine "echo one\ntwo\nthree | grep t four" = _)
      (by decide +kernel : Stage.parseLine "echo one\ntwo\nthree | grep -v -v t four" = _)
  rw [hlines] at hmatches hperm
  exact ⟨pattern, out, out', hpattern, hout, hout', hmatches, hperm⟩

end Lines

end Command

end Pipework
