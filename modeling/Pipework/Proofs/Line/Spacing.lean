import Pipework.Proofs.Text.Trimming

/-!
# Lines and their stages

Reading a line and writing its stages down are inverse to each other, up to spacing.

* A stage that is read off a line is *tidy* (`Stage.tidy_parseLine`): its command is one word without
  a bar, and its argument text, if there is one, is neither empty nor surrounded by blanks.
* A line that shows tidy stages, with bars between them and any blanks around the bars, is read as
  these stages (`Stage.parseLine_spaced`).

So every line may be written anew from its stages, and every list of tidy stages is that of a line
(`Stage.parseLine_display_inverse`).
-/

namespace Pipework

open Text

/-! ## Tidy stages -/

namespace Stage

/-- The stage has a command of one word without a bar, which may be empty, and possibly an argument
text, which is not; there are no blanks around it and no bar in it. -/
structure Tidy (stage : Stage) : Prop where
  command : ∀ c ∈ stage.command.toList, isBlank c = false ∧ c ≠ '|'
  args : ∀ args ∈ stage.args,
    stage.command ≠ "" ∧ args ≠ "" ∧ trimmed args = args ∧ '|' ∉ args.toList

/-- A segment without a bar is a tidy stage. -/
theorem tidy_ofSegment {segment : List Char} (hbar : '|' ∉ segment) : (ofSegment segment).Tidy := by
  have hfree : '|' ∉ trim segment := fun h => hbar (mem_of_mem_trim h)
  have htight : Tight (trim segment) := tight_trim segment
  unfold ofSegment
  generalize trim segment = text at hfree htight
  have hnobar : ∀ c ∈ text, c ≠ '|' := fun c hc hcbar => hfree (hcbar ▸ hc)
  cases hcut : cut? isBlank text with
  | none =>
    simp only [hcut]
    refine ⟨fun c hc => ?_, by simp⟩
    rw [String.toList_ofList] at hc
    refine ⟨?_, hnobar c hc⟩
    by_contra hblank
    obtain ⟨before, after, hsome⟩ := cut?_of_mem hc (by simpa using hblank)
    simp [hcut] at hsome
  | some parts =>
    obtain ⟨before, after⟩ := parts
    have hword : ∀ c ∈ before, isBlank c = false := free_of_cut? hcut
    obtain ⟨blank, hblank, rfl⟩ := eq_of_cut? hcut
    have hsolid : Solid (trimLeft after) := solid_trimLeft hblank htight
    simp only [hcut]
    refine ⟨fun c hc => ?_, fun args hargs => ?_⟩
    · rw [String.toList_ofList] at hc
      exact ⟨hword c hc, hnobar c (List.mem_append_left _ hc)⟩
    · obtain rfl : String.ofList (trimLeft after) = args := by simpa using hargs
      refine ⟨fun hnone => ?_, fun hnone => ?_, ?_, ?_⟩
      · -- the text would begin with the blank
        obtain rfl : before = [] := by simpa using hnone
        have hfirst : isBlank blank = false := by simpa using htight.1
        simp [hblank] at hfirst
      · exact hsolid.ne (by simpa using hnone)
      · rw [trimmed, String.toList_ofList, trim_tight hsolid.tight]
      · rw [String.toList_ofList]
        intro hmem
        have hafter : '|' ∈ after := (List.dropWhile_suffix isBlank).subset hmem
        exact hfree (List.mem_append_right _ (List.mem_cons_of_mem _ hafter))

/-- The stages of a line are tidy. -/
theorem tidy_parseLine (line : String) : ∀ stage ∈ parseLine line, stage.Tidy := by
  intro stage hstage
  obtain ⟨segment, hsegment, rfl⟩ := List.mem_map.mp hstage
  refine tidy_ofSegment fun hbar => ?_
  have hfree := free_of_mem_pieces hsegment '|' hbar
  simp at hfree

theorem parseLine_ne_nil (line : String) : parseLine line ≠ [] := by
  rw [parseLine, ne_eq, List.map_eq_nil_iff]
  exact pieces_ne_nil _ _

namespace Tidy

variable {stage : Stage}

/-- A tidy stage with a command is legible. -/
theorem legible (h : stage.Tidy) (hne : stage.command ≠ "") : stage.Legible where
  command_ne := fun hnil => hne (String.toList_eq_nil_iff.mp hnil)
  command := fun c hc => (h.command c hc).1
  args := fun args hargs =>
    have hargs := h.args args hargs
    solid_of_trimmed hargs.2.1 hargs.2.2.1
  bar := by
    have hcommand : '|' ∉ stage.command.toList := fun hmem => (h.command '|' hmem).2 rfl
    unfold display
    split
    · rename_i args hargs
      have hmem := (h.args args hargs).2.2.2
      simp [hcommand, hmem]
    · exact hcommand

/-- A tidy stage without a command is empty. -/
theorem eq_empty (h : stage.Tidy) (hnone : stage.command = "") : stage = ⟨"", none⟩ := by
  obtain ⟨command, args⟩ := stage
  obtain rfl : command = "" := hnone
  cases args with
  | none => rfl
  | some args => exact absurd rfl (h.args args rfl).1

theorem bar_display (h : stage.Tidy) : '|' ∉ stage.display.toList := by
  by_cases hne : stage.command = ""
  · rw [h.eq_empty hne]
    decide
  · exact (h.legible hne).bar

/-- A tidy stage is read back from its text. -/
theorem ofSegment_display (h : stage.Tidy) : ofSegment stage.display.toList = stage := by
  by_cases hne : stage.command = ""
  · rw [h.eq_empty hne]
    rfl
  · exact (h.legible hne).ofSegment_display

end Tidy

/-! ## Spacing -/

/-- The line shows these texts in order, with a bar between neighbours and any blanks, or none, on
both sides of each bar. -/
inductive Spaced : List String → String → Prop where
  /-- The last text. -/
  | last (part : String) : Spaced [part] part
  /-- A text, a bar, and the rest of the line. -/
  | bar (part before after : String) {parts : List String} {line : String}
    (hbefore : ∀ c ∈ before.toList, isBlank c) (hafter : ∀ c ∈ after.toList, isBlank c)
    (rest : Spaced parts line) : Spaced (part :: parts) (part ++ before ++ "|" ++ after ++ line)

theorem isBlank_ne_bar (c : Char) (hc : isBlank c) : (c == '|') = false :=
  beq_false_of_ne fun hbar => absurd (hbar ▸ hc) (by decide)

/-- Without blanks the texts are joined by bars. -/
theorem spaced_joined {parts : List String} (hne : parts ≠ []) : Spaced parts (joined "|" parts) := by
  induction parts with
  | nil => exact absurd rfl hne
  | cons part parts ih =>
    cases parts with
    | nil =>
      have hjoined : joined "|" [part] = part := String.ofList_toList
      rw [hjoined]
      exact .last part
    | cons next parts =>
      have hrest := ih (by simp)
      have hjoined : joined "|" (part :: next :: parts) =
          part ++ "" ++ "|" ++ "" ++ joined "|" (next :: parts) := by
        apply String.toList_inj.mp
        simp [joined, join]
      rw [hjoined]
      exact .bar part "" "" (by simp) (by simp) hrest

/-- The pieces of the line between the bars are the texts, but for blanks. -/
theorem Spaced.pieces {parts : List String} {line : String} (h : Spaced parts line)
    (hbar : ∀ part ∈ parts, '|' ∉ part.toList) :
    (Text.pieces (· == '|') line.toList).map trim = (parts.map (·.toList)).map trim := by
  induction h with
  | last part =>
    have hpart : ∀ c ∈ part.toList, (c == '|') = false := fun c hc =>
      beq_false_of_ne fun hcbar => hbar part List.mem_cons_self (hcbar ▸ hc)
    rw [pieces_of_none hpart]
    rfl
  | bar part before after hbefore hafter rest ih =>
    rename_i parts line
    have hrest := ih fun other hother => hbar other (List.mem_cons_of_mem _ hother)
    have hfree : ∀ c ∈ part.toList ++ before.toList, (c == '|') = false := by
      intro c hc
      rcases List.mem_append.mp hc with hc | hc
      · exact beq_false_of_ne fun hcbar => hbar part List.mem_cons_self (hcbar ▸ hc)
      · exact isBlank_ne_bar c (hbefore c hc)
    have hline : (part ++ before ++ "|" ++ after ++ line).toList =
        (part.toList ++ before.toList) ++ '|' :: (after.toList ++ line.toList) := by
      simp
    rw [hline, pieces_cut hfree (beq_self_eq_true '|'), List.map_cons,
      trim_pieces_append isBlank_ne_bar hafter, hrest, trim_append_blanks _ hbefore]
    rfl

/-- A line that shows tidy stages is read as these stages. -/
theorem parseLine_spaced {stages : List Stage} (htidy : ∀ stage ∈ stages, stage.Tidy) {line : String}
    (h : Spaced (stages.map display) line) : parseLine line = stages := by
  have hbar : ∀ part ∈ stages.map display, '|' ∉ part.toList := by
    intro part hpart
    obtain ⟨stage, hstage, rfl⟩ := List.mem_map.mp hpart
    exact (htidy stage hstage).bar_display
  have hpieces : (Text.pieces (· == '|') (trim line.toList)).map trim =
      (stages.map fun stage => stage.display.toList).map trim := by
    rw [trim_pieces_trim isBlank_ne_bar, h.pieces hbar, List.map_map]
    simp only [List.map_map, Function.comp_def]
  calc parseLine line
      = (stages.map fun stage => stage.display.toList).map ofSegment := map_ofSegment_congr hpieces
    _ = stages.map fun stage => ofSegment stage.display.toList := List.map_map
    _ = stages := by
        rw [List.map_congr_left fun stage hstage => (htidy stage hstage).ofSegment_display, List.map_id']

/-- **Reading a line and writing its stages down are inverse, up to spacing.** The stages of a line
are tidy, and every line that shows them is read as these stages again; and any tidy stages, if
there are some, are read off their texts, joined by bars with or without blanks around them. -/
theorem parseLine_display_inverse :
    (∀ line, parseLine line ≠ [] ∧ (∀ stage ∈ parseLine line, stage.Tidy) ∧
      ∀ text, Spaced ((parseLine line).map display) text → parseLine text = parseLine line) ∧
    ∀ stages, stages ≠ [] → (∀ stage ∈ stages, stage.Tidy) →
      parseLine (joined "|" (stages.map display)) = stages ∧
      ∀ text, Spaced (stages.map display) text → parseLine text = stages := by
  refine ⟨fun line => ⟨parseLine_ne_nil line, tidy_parseLine line, fun text htext => ?_⟩,
    fun stages hne htidy => ⟨?_, fun text htext => parseLine_spaced htidy htext⟩⟩
  · exact parseLine_spaced (tidy_parseLine line) htext
  · exact parseLine_spaced htidy (spaced_joined (by simpa using hne))

/-- An argument text with wide spaces inside, then an empty stage; the second line has other blanks
around the first bar and none around the second. -/
theorem parseLine_display_inverse_wide :
    parseLine " echo  a\u3000\u3000b | |sort" =
      [⟨"echo", some "a\u3000\u3000b"⟩, ⟨"", none⟩, ⟨"sort", none⟩] ∧
    Spaced ["echo a\u3000\u3000b", "", "sort"] "echo a\u3000\u3000b\t|\u2003|sort" ∧
    parseLine "echo a\u3000\u3000b\t|\u2003|sort" =
      [⟨"echo", some "a\u3000\u3000b"⟩, ⟨"", none⟩, ⟨"sort", none⟩] := by
  have hline : parseLine " echo  a\u3000\u3000b | |sort" =
      [⟨"echo", some "a\u3000\u3000b"⟩, ⟨"", none⟩, ⟨"sort", none⟩] := by decide
  have hspaced : Spaced ["echo a\u3000\u3000b", "", "sort"] "echo a\u3000\u3000b\t|\u2003|sort" := by
    refine .bar _ "\t" "\u2003" ?_ ?_ (.bar _ "" "" ?_ ?_ (.last _))
    all_goals simp [isBlank, blankRanges]
  obtain ⟨hread, hwrite⟩ := parseLine_display_inverse
  obtain ⟨hne, htidy, -⟩ := hread " echo  a\u3000\u3000b | |sort"
  rw [hline] at hne htidy
  exact ⟨hline, hspaced, (hwrite _ hne htidy).2 _ hspaced⟩

end Stage

end Pipework
