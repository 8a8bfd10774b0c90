import Pipework.Line.CommandLine
import Pipework.Line.Count
import Pipework.Proofs.Number.Digits
import Pipework.Proofs.Text.Pieces

/-!
# Reading a line that has been written down

Stages that are legible (`Stage.Legible`) are read back from the line that lists them with bars in
between (`Stage.parseLine_display`), and a count from its decimal digits (`countOr_toString`). The
first word of a line is its first command unless there is a bar in it (`Stage.head_parseLine`).
-/

namespace Pipework

namespace Text

/-! ## Trimming -/

theorem trim_blank_cons {c : Char} (hc : isBlank c) (cs : List Char) : trim (c :: cs) = trim cs := by
  rw [trim, trim, trimLeft, List.dropWhile_cons, if_pos hc]
  rfl

theorem trim_append_blank (cs : List Char) {c : Char} (hc : isBlank c) : trim (cs ++ [c]) = trim cs := by
  have hright : ∀ ds : List Char, trimRight (ds ++ [c]) = trimRight ds := by
    intro ds
    rw [trimRight, List.reverse_append, List.reverse_singleton, List.singleton_append,
      List.dropWhile_cons, if_pos hc]
    rfl
  induction cs with
  | nil =>
    rw [List.nil_append, trim_blank_cons hc]
  | cons d cs ih =>
    by_cases hd : isBlank d
    · rw [List.cons_append, trim_blank_cons hd, trim_blank_cons hd, ih]
    · have hkeeps : ∀ ds, trimLeft (d :: ds) = d :: ds := fun ds => by
        rw [trimLeft, List.dropWhile_cons, if_neg hd]
      rw [trim, trim, List.cons_append, hkeeps, hkeeps, ← List.cons_append, hright]

/-- Trimming leaves no blank at either end. -/
theorem tight_trim (cs : List Char) : Tight (trim cs) := by
  induction hlength : cs.length using Nat.strong_induction_on generalizing cs with
  | _ n ih =>
    by_cases hhead : ∃ c rest, cs = c :: rest ∧ isBlank c
    · obtain ⟨c, rest, rfl, hc⟩ := hhead
      rw [trim_blank_cons hc]
      exact ih rest.length (by simp [← hlength]) rest rfl
    by_cases hlast : ∃ front c, cs = front ++ [c] ∧ isBlank c
    · obtain ⟨front, c, rfl, hc⟩ := hlast
      rw [trim_append_blank front hc]
      exact ih front.length (by simp [← hlength]) front rfl
    -- neither end is blank, so there is nothing to trim
    have htight : Tight cs := by
      constructor
      · cases cs with
        | nil => rfl
        | cons c rest =>
          by_contra hblank
          exact hhead ⟨c, rest, rfl, by simpa using hblank⟩
      · obtain rfl | ⟨front, c, rfl⟩ := List.eq_nil_or_concat cs
        · rfl
        · by_contra hblank
          exact hlast ⟨front, c, List.concat_eq_append, by simpa using hblank⟩
    rw [trim_tight htight]
    exact htight

/-- What has been trimmed is left alone. -/
theorem trim_trim (cs : List Char) : trim (trim cs) = trim cs := trim_tight (tight_trim cs)

/-- What trimming leaves alone has no blank at either end. -/
theorem tight_of_trim {cs : List Char} (h : trim cs = cs) : Tight cs := h ▸ tight_trim cs

/-- A text that is not empty and has no blank at either end. -/
structure Solid (cs : List Char) : Prop where
  ne : cs ≠ []
  tight : Tight cs

theorem solid_of_no_blank {cs : List Char} (hne : cs ≠ []) (h : ∀ c ∈ cs, isBlank c = false) :
    Solid cs where
  ne := hne
  tight := by
    refine ⟨?_, ?_⟩
    · cases hhead : cs.head? with
      | none => rfl
      | some c => simpa using h c (List.mem_of_mem_head? hhead)
    · cases hlast : cs.getLast? with
      | none => rfl
      | some c => simpa using h c (List.mem_of_getLast? hlast)

theorem solid_of_trimmed {text : String} (hne : text ≠ "") (h : trimmed text = text) :
    Solid text.toList where
  ne := fun hnil => hne (String.toList_eq_nil_iff.mp hnil)
  tight := by
    refine tight_of_trim ?_
    rw [trimmed] at h
    rw [← String.toList_ofList (l := trim text.toList), h]

theorem Solid.trimLeft {cs : List Char} (h : Solid cs) : trimLeft cs = cs := by
  obtain ⟨c, cs, rfl⟩ := List.exists_cons_of_ne_nil h.ne
  have hc : isBlank c = false := by simpa using h.tight.1
  rw [Text.trimLeft, List.dropWhile_cons, hc, if_neg Bool.false_ne_true]

/-- Two solid texts with something in between. -/
theorem Solid.append {cs ds : List Char} (hcs : Solid cs) (hds : Solid ds) (between : List Char) :
    Solid (cs ++ between ++ ds) where
  ne := by simp [hcs.ne]
  tight := by
    obtain ⟨c, cs, rfl⟩ := List.exists_cons_of_ne_nil hcs.ne
    obtain ⟨ds, d, rfl⟩ := (List.eq_nil_or_concat ds).resolve_left hds.ne
    have hlast := hds.tight.2
    rw [List.concat_eq_append] at hlast ⊢
    refine ⟨hcs.tight.1, ?_⟩
    rw [List.getLast?_concat] at hlast
    rwa [← List.append_assoc, List.getLast?_concat]

theorem Solid.join {parts : List (List Char)} (sep : List Char) (hne : parts ≠ [])
    (h : ∀ part ∈ parts, Solid part) : Solid (join sep parts) := by
  induction parts with
  | nil => exact absurd rfl hne
  | cons part parts ih =>
    cases parts with
    | nil => exact h part List.mem_cons_self
    | cons next parts =>
      have hrest := ih (by simp) fun q hq => h q (List.mem_cons_of_mem _ hq)
      exact (h part List.mem_cons_self).append hrest sep

/-! ## Cutting -/

/-- Joined with blanks around the separator, the parts are the pieces but for blanks. -/
theorem trim_pieces_join {sep blank : Char} (hsep : sep ≠ blank) (hblank : isBlank blank)
    {parts : List (List Char)} (hne : parts ≠ []) (h : ∀ part ∈ parts, sep ∉ part) :
    (pieces (· == sep) (join [blank, sep, blank] parts)).map trim = parts.map trim := by
  have hfree : ∀ part : List Char, sep ∉ part → ∀ c ∈ part, (c == sep) = false :=
    fun part hpart c hc => beq_false_of_ne fun hcsep => hpart (hcsep ▸ hc)
  induction parts with
  | nil => exact absurd rfl hne
  | cons part parts ih =>
    have hpart := h part List.mem_cons_self
    cases parts with
    | nil =>
      change (pieces (· == sep) part).map trim = [trim part]
      rw [pieces_of_none (hfree part hpart)]
      rfl
    | cons next parts =>
      have hrest := ih (by simp) fun q hq => h q (List.mem_cons_of_mem _ hq)
      have hpadded : sep ∉ part ++ [blank] := by simp [hpart, hsep]
      have hjoin : join [blank, sep, blank] (part :: next :: parts) =
          (part ++ [blank]) ++ sep :: (blank :: join [blank, sep, blank] (next :: parts)) := by
        simp [join]
      rw [hjoin, pieces_cut (hfree _ hpadded) (beq_self_eq_true sep), List.map_cons,
        trim_append_blank part hblank, List.map_cons, ← hrest]
      congr 1
      obtain ⟨piece, more, hpieces⟩ := List.exists_cons_of_ne_nil
        (pieces_ne_nil (· == sep) (join [blank, sep, blank] (next :: parts)))
      have hkept : (blank == sep) = false := beq_false_of_ne (Ne.symm hsep)
      rw [pieces_cons (p := (· == sep)) hkept hpieces, hpieces, List.map_cons, List.map_cons,
        trim_blank_cons hblank]

end Text

open Text

namespace Stage

/-- A stage is read off its trimmed text. -/
theorem ofSegment_congr {cs ds : List Char} (h : trim cs = trim ds) : ofSegment cs = ofSegment ds := by
  rw [ofSegment, ofSegment, h]

theorem map_ofSegment_congr {xs ys : List (List Char)} (h : xs.map trim = ys.map trim) :
    xs.map ofSegment = ys.map ofSegment := by
  induction xs generalizing ys with
  | nil =>
    rw [List.map_nil, eq_comm, List.map_eq_nil_iff] at h
    rw [h]
  | cons x xs ih =>
    obtain ⟨y, ys, rfl⟩ := List.exists_cons_of_ne_nil fun hnil : ys = [] => by simp [hnil] at h
    rw [List.map_cons, List.map_cons, List.cons.injEq] at h
    rw [List.map_cons, List.map_cons, ofSegment_congr h.1, ih h.2]

/-- Blanks around a line do not matter. -/
theorem parseLine_trimmed (line : String) : parseLine (trimmed line) = parseLine line := by
  rw [parseLine, parseLine, trimmed, String.toList_ofList, trim_trim]

/-- A stage whose text tells it: a command of one word, and a text without blanks around it, with no
bar in them. -/
structure Legible (stage : Stage) : Prop where
  command_ne : stage.command.toList ≠ []
  command : ∀ c ∈ stage.command.toList, isBlank c = false
  args : ∀ args, stage.args = some args → Solid args.toList
  bar : '|' ∉ stage.display.toList

namespace Legible

variable {stage : Stage}

theorem solid_command (h : stage.Legible) : Solid stage.command.toList :=
  solid_of_no_blank h.command_ne h.command

theorem solid (h : stage.Legible) : Solid stage.display.toList := by
  unfold display
  split <;> rename_i args hargs
  · have hchars : (stage.command ++ " " ++ args).toList =
        stage.command.toList ++ [' '] ++ args.toList := by
      simp
    rw [hchars]
    exact h.solid_command.append (h.args args hargs) [' ']
  · exact h.solid_command

/-- A stage is read back from its text. -/
theorem ofSegment_display (h : stage.Legible) : ofSegment stage.display.toList = stage := by
  have hsolid := h.solid
  obtain ⟨command, args⟩ := stage
  have hcommand : ∀ c ∈ command.toList, isBlank c = false := h.command
  rw [ofSegment, trim_tight hsolid.tight]
  cases args with
  | none =>
    have hdrop : command.toList.dropWhile (fun c => !isBlank c) = [] :=
      List.dropWhile_eq_nil_iff.mpr fun c hc => by simp [hcommand c hc]
    have hcut : cut? isBlank command.toList = none := by rw [cut?, hdrop]
    simp only [display, hcut, String.ofList_toList]
  | some args =>
    have hchars : (command ++ " " ++ args).toList = command.toList ++ ' ' :: args.toList := by simp
    simp only [display, hchars, cut?_append hcommand (by decide : isBlank ' '),
      (h.args args rfl).trimLeft, String.ofList_toList]

end Legible

/-- **Stages are read back** from a line with bars between them. -/
theorem parseLine_display {stages : List Stage} (hne : stages ≠ [])
    (h : ∀ stage ∈ stages, stage.Legible) :
    parseLine (joined " | " (stages.map display)) = stages := by
  set parts := stages.map fun stage => stage.display.toList
  have hparts : ∀ part ∈ parts, '|' ∉ part ∧ Solid part := by
    intro part hpart
    obtain ⟨stage, hstage, rfl⟩ := List.mem_map.mp hpart
    exact ⟨(h stage hstage).bar, (h stage hstage).solid⟩
  have hparts_ne : parts ≠ [] := by simpa [parts] using hne
  have htight := (Solid.join " | ".toList hparts_ne fun part hpart => (hparts part hpart).2).tight
  have hpieces := @trim_pieces_join '|' ' ' (by decide) (by decide) parts hparts_ne
    fun part hpart => (hparts part hpart).1
  calc parseLine (joined " | " (stages.map display))
      = (pieces (· == '|') (join " | ".toList parts)).map ofSegment := by
        rw [parseLine, joined, String.toList_ofList, List.map_map]
        exact congrArg (fun cs => (pieces (· == '|') cs).map ofSegment) (trim_tight htight)
    _ = parts.map ofSegment := map_ofSegment_congr hpieces
    _ = stages.map fun stage => ofSegment stage.display.toList := List.map_map
    _ = stages := by
        rw [List.map_congr_left fun stage hstage => (h stage hstage).ofSegment_display, List.map_id']

end Stage

/-! ## Counts -/

theorem Number.toString_ne_nil (k : Nat) : (toString k).toList ≠ [] := by
  rw [Nat.toString_eq_repr, Nat.toList_repr]
  exact Nat.toDigits_ne_nil

/-- No digit is blank. -/
theorem Text.isBlank_digit {c : Char} (hc : Number.isDigit c = true) : isBlank c = false := by
  rw [Number.isDigit, Bool.and_eq_true, decide_eq_true_eq, decide_eq_true_eq, Char.le_def, Char.le_def,
    UInt32.le_iff_toNat_le, UInt32.le_iff_toNat_le] at hc
  have hlow : 48 ≤ c.toNat := hc.1
  have hhigh : c.toNat ≤ 57 := hc.2
  rw [isBlank, List.any_eq_false]
  intro range hrange
  simp only [blankRanges, List.mem_cons, List.not_mem_nil, or_false] at hrange
  rcases hrange with rfl | rfl | rfl | rfl | rfl | rfl | rfl | rfl | rfl | rfl <;> simp <;> omega

theorem Text.solid_toString (k : Nat) : Solid (toString k).toList :=
  solid_of_no_blank (Number.toString_ne_nil k)
    fun _ hc => isBlank_digit (Number.isDigit_of_mem_toString hc)

theorem Text.words_of_no_blank {cs : List Char} (hne : cs ≠ []) (h : ∀ c ∈ cs, isBlank c = false) :
    words cs = [cs] := by
  rw [words, pieces_of_none h]
  simp [hne]

/-- A number is read back from its digits. -/
theorem Number.natural?_toString {k bound : Nat} (hk : k ≤ bound) :
    Number.natural? bound (toString k).toList = some k := by
  have hdigits : ∀ c ∈ Nat.toDigits 10 k, isDigit c = true := fun _ => isDigit_of_mem_toDigits
  have hvalue := digitsValue_toDigits k
  have hplus : '+' ∉ Nat.toDigits 10 k := fun h => absurd (hdigits _ h) (by decide)
  rw [Nat.toString_eq_repr, Nat.toList_repr]
  obtain ⟨c, cs, hcs⟩ := List.exists_cons_of_ne_nil (Nat.toDigits_ne_nil (n := k) (b := 10))
  have hc : c ≠ '+' := by
    rintro rfl
    exact hplus (hcs ▸ List.mem_cons_self)
  have hall : (c :: cs).all isDigit = true := by
    rw [← hcs, List.all_eq_true]
    exact hdigits
  rw [hcs] at hvalue ⊢
  simp [natural?, hc, hall, hvalue, hk]

/-- A count is positive, whatever its text. -/
theorem countOr_pos (args : Option String) {fallback : Nat} (hfallback : 0 < fallback) :
    0 < countOr fallback args := by
  unfold countOr
  obtain hnone | ⟨n, hn⟩ := Option.eq_none_or_eq_some (count? args)
  · rwa [hnone]
  · rw [hn]
    simp only [count?, Option.bind_eq_bind, Option.bind_eq_some_iff] at hn
    obtain ⟨_, _, _, _, k, _, hk⟩ := hn
    split at hk
    · obtain rfl := Option.some.inj hk
      assumption
    · simp at hk

/-- A positive count is read back from its digits. -/
theorem countOr_toString {k : Nat} (hpos : 0 < k) (hk : k ≤ Number.maxWord) (fallback : Nat) :
    countOr fallback (some (toString k)) = k := by
  have hwords := Text.words_of_no_blank (Number.toString_ne_nil k) fun _ hc =>
    Text.isBlank_digit (Number.isDigit_of_mem_toString hc)
  rw [countOr, count?, Option.bind_eq_bind, Option.bind_some, hwords, List.head?_cons,
    Option.bind_eq_bind, Option.bind_some, Number.natural?_toString hk, Option.bind_eq_bind,
    Option.bind_some, if_pos hpos, Option.getD_some]

/-! ## The first word -/

namespace Text

/-- A text begins with this word: nothing in it is blank, and it ends with the text or at a blank. -/
structure Leads (word rest : List Char) : Prop where
  ne : word ≠ []
  solid : ∀ c ∈ word, isBlank c = false
  ends : rest.head?.all isBlank

variable {word rest : List Char}

theorem exists_leads {cs : List Char} (h : Solid cs) : ∃ word rest, cs = word ++ rest ∧ Leads word rest := by
  refine ⟨cs.takeWhile (!isBlank ·), cs.dropWhile (!isBlank ·), ?_, ?_, ?_, ?_⟩
  · exact List.takeWhile_append_dropWhile.symm
  · obtain ⟨c, cs, rfl⟩ := List.exists_cons_of_ne_nil h.ne
    have hc : isBlank c = false := by simpa using h.tight.1
    simp [hc]
  · intro c hc
    simpa using List.mem_takeWhile_imp hc
  · have hend := List.head?_dropWhile_not (!isBlank ·) cs
    cases hhead : (cs.dropWhile (!isBlank ·)).head? with
    | none => rfl
    | some c => simpa [hhead] using hend

theorem Leads.head_words (h : Leads word rest) : (words (word ++ rest)).head? = some word := by
  have hword : (!word.isEmpty) = true := by simpa using h.ne
  cases rest with
  | nil => rw [List.append_nil, words_of_no_blank h.ne h.solid, List.head?_cons]
  | cons b rest =>
    rw [words, pieces_cut h.solid (show isBlank b by simpa using h.ends), List.filter_cons,
      if_pos hword, List.head?_cons]

/-- Trimming leaves the first word where it is. -/
theorem Leads.trim (h : Leads word rest) :
    ∃ rest', Text.trim (word ++ rest) = word ++ rest' ∧ Leads word rest' := by
  have hsolid := solid_of_no_blank h.ne h.solid
  -- by induction on what follows, from its end, where trimming may take a blank away
  induction rest using List.reverseRecOn with
  | nil => exact ⟨[], by rw [List.append_nil, trim_tight hsolid.tight], h⟩
  | append_singleton front c ih =>
    have hfront : Leads word front := by
      refine ⟨h.ne, h.solid, ?_⟩
      cases front with
      | nil => rfl
      | cons b front => exact h.ends
    by_cases hc : isBlank c
    · obtain ⟨rest', htrim, hrest'⟩ := ih hfront
      exact ⟨rest', by rw [← List.append_assoc, trim_append_blank _ hc, htrim], hrest'⟩
    · have hend : Solid [c] := solid_of_no_blank (by simp) (by simpa using hc)
      refine ⟨front ++ [c], ?_, h⟩
      rw [← List.append_assoc]
      exact trim_tight (hsolid.append hend front).tight

end Text

namespace Stage

open Text

/-- The first word of a segment is its command. -/
theorem command_ofSegment {word rest : List Char} (h : Leads word rest) :
    (ofSegment (word ++ rest)).command = .ofList word := by
  obtain ⟨rest', htrim, hrest'⟩ := h.trim
  unfold ofSegment
  rw [htrim]
  cases rest' with
  | nil =>
    have hnone : cut? isBlank word = none := by
      cases hcut : cut? isBlank word with
      | none => rfl
      | some parts =>
        obtain ⟨sep, hsep, hword⟩ := eq_of_cut? hcut
        exact absurd hsep (by simp [h.solid sep (by simp [hword])])
    simp only [List.append_nil, hnone]
  | cons b rest' =>
    simp only [cut?_append h.solid (show isBlank b by simpa using hrest'.ends)]

/-- The first word of a line is its first command, unless there is a bar in it. -/
theorem head_parseLine {line : String} (hline : trimmed line ≠ "")
    (hbar : '|' ∉ ((wordsOf (trimmed line)).headD "").toList) :
    (parseLine line).head?.map (·.command) = some ((wordsOf (trimmed line)).headD "") := by
  have hsolid : Solid (trim line.toList) := by
    refine ⟨fun hnil => hline ?_, tight_trim _⟩
    rw [trimmed, hnil]
  obtain ⟨word, rest, hword, h⟩ := exists_leads hsolid
  have hfirst : (wordsOf (trimmed line)).headD "" = .ofList word := by
    rw [wordsOf, trimmed, String.toList_ofList, hword, List.headD_eq_head?_getD, List.head?_map,
      h.head_words]
    rfl
  rw [hfirst, String.toList_ofList] at hbar
  have hfree : ∀ c ∈ word, (c == '|') = false := fun c hc => beq_false_of_ne fun hcbar => hbar (hcbar ▸ hc)
  -- the first segment is the word and what comes before the first bar
  obtain ⟨piece, more, hpieces⟩ := List.exists_cons_of_ne_nil (pieces_ne_nil (· == '|') rest)
  have hlead : Leads word piece := by
    refine ⟨h.ne, h.solid, ?_⟩
    cases rest with
    | nil =>
      obtain ⟨rfl, -⟩ : [] = piece ∧ [] = more := by simpa [pieces] using hpieces
      rfl
    | cons b rest =>
      have hb : isBlank b := by simpa using h.ends
      have hnobar : (b == '|') = false := beq_false_of_ne fun hbbar => absurd (hbbar ▸ hb) (by decide)
      obtain ⟨next, others, hnext⟩ := List.exists_cons_of_ne_nil (pieces_ne_nil (· == '|') rest)
      rw [pieces_cons (p := (· == '|')) hnobar hnext] at hpieces
      obtain rfl := (List.cons.inj hpieces).1
      simpa using hb
  rw [parseLine, hword, pieces_append hfree hpieces, List.map_cons, List.head?_cons, Option.map_some,
    command_ofSegment hlead, hfirst]

end Stage

end Pipework
