import Mathlib.Data.List.Basic
import Mathlib.Data.Option.Basic
import Pipework.Toml.Printer

/-!
# Strings and keys of TOML read back

Whatever characters a string holds, one of the forms in which it may be written holds them, and the
reader of that form makes the same characters of it (`readString_stringText`). So it is with keys
(`readKey_keyText`).

Escapes and other characters are read one by one (`Spells`). Between tripled quotes a quote may stand
for itself as long as no third one comes next to it: `Spelled` counts the quotes just before, as the
writer does, and `Spelled.read` reads the text up to the quotes that end it.
-/

namespace Pipework.Toml

/-! ## Characters -/

/-- What a reader of strings makes of a text that begins with `written`: the character, in front of
what it makes of the rest. -/
def Spells (read : List Char → Option (List Char × List Char)) (written : List Char) (c : Char) :
    Prop :=
  ∀ rest, read (written ++ rest) = consTo c (read rest)

/-- A control character is written by the four digits of its code point. -/
theorem codePoint?_control :
    ∀ n < 0x80, n < 0x20 ∨ n = 0x7F →
      ((Moment.filled 4 (Nat.toDigits 16 n)).map upperHex).length = 4 ∧
      codePoint? ((Moment.filled 4 (Nat.toDigits 16 n)).map upperHex) = some (Char.ofNat n) := by
  decide

theorem toNat_of_isControl {c : Char} (h : isControl c) :
    c.toNat < 0x80 ∧ (c.toNat < 0x20 ∨ c.toNat = 0x7F) := by
  simp only [isControl, Bool.or_eq_true, Bool.and_eq_true, decide_eq_true_eq, beq_iff_eq] at h
  rcases h with ⟨hlow, -⟩ | rfl
  · omega
  · decide

/-- The escape of a control character holds the digits of its code point. -/
theorem hexDigits_control {c : Char} (h : isControl c) : ∃ d₁ d₂ d₃ d₄,
    (Moment.filled 4 (Nat.toDigits 16 c.toNat)).map upperHex = [d₁, d₂, d₃, d₄] ∧
      codePoint? [d₁, d₂, d₃, d₄] = some c := by
  obtain ⟨hsmall, hcontrol⟩ := toNat_of_isControl h
  obtain ⟨hlength, hread⟩ := codePoint?_control c.toNat hsmall hcontrol
  obtain ⟨d₁, d₂, d₃, d₄, hdigits⟩ := List.length_eq_four.mp hlength
  rw [hdigits, Char.ofNat_toNat] at hread
  exact ⟨d₁, d₂, d₃, d₄, hdigits, hread⟩

/-- Whatever is written for a character in a basic string is read as the character. -/
theorem spells_escapedChar (c : Char) : Spells readBasic (escapedChar c) c := by
  intro rest
  unfold escapedChar
  split
  iterate 7 · simp [readBasic, shortEscape?]
  · split
    · rename_i hcontrol
      obtain ⟨d₁, d₂, d₃, d₄, hdigits, hread⟩ := hexDigits_control hcontrol
      rw [hdigits, ← hread]
      simp [readBasic]
    · rw [List.singleton_append, readBasic.eq_def]
      split <;> simp_all

/-- So is it in a basic string of several lines. -/
theorem spells_escapedChar_long (c : Char) : Spells (readLongBasic false) (escapedChar c) c := by
  intro rest
  unfold escapedChar
  split
  iterate 7 · simp [readLongBasic, shortEscape?, breaksLine, isGap, lineBreak?]
  · split
    · rename_i hcontrol
      obtain ⟨d₁, d₂, d₃, d₄, hdigits, hread⟩ := hexDigits_control hcontrol
      rw [hdigits, ← hread]
      simp [readLongBasic]
    · rw [List.singleton_append, readLongBasic.eq_def]
      split <;> simp_all

theorem spells_newline_long : Spells (readLongBasic false) ['\n'] '\n' := by
  intro rest
  simp [readLongBasic]

/-- Of a character that needs no escape only a tab is escaped. -/
theorem escapedChar_plain {c : Char} (hcontrol : isControl c = false) (hquote : c ≠ '"')
    (hslash : c ≠ '\\') : escapedChar c = tabEscaped c := by
  unfold escapedChar
  split
  case h_2 => rfl
  case h_8 _ htab _ _ _ _ _ => simpa [tabEscaped, hcontrol] using htab
  all_goals contradiction

theorem spells_tabEscaped_long {c : Char} (hcontrol : needsEscape c = false) (hquote : c ≠ '"')
    (hslash : c ≠ '\\') : Spells (readLongBasic false) (tabEscaped c) c := by
  by_cases hbreak : c = '\n'
  · exact hbreak ▸ spells_newline_long
  · have hplain : isControl c = false := by simpa [needsEscape, hbreak] using hcontrol
    rw [← escapedChar_plain hplain hquote hslash]
    exact spells_escapedChar_long c

theorem spells_literal {c : Char} (hcontrol : isControl c = false) (hquote : c ≠ '\'') :
    Spells readLiteral [c] c := by
  intro rest
  rw [List.singleton_append, readLiteral]
  · rw [hcontrol]
    cases readLiteral rest <;> rfl
  · exact hquote

theorem spells_longLiteral {c : Char} (hcontrol : needsEscape c = false) (hquote : c ≠ '\'') :
    Spells readLongLiteral [c] c := by
  intro rest
  have hkept : ¬ (isControl c && c != '\n') = true := by
    rw [Bool.and_comm]
    simpa [needsEscape] using hcontrol
  rw [List.singleton_append, readLongLiteral, if_neg hkept]
  · rintro tail rfl
    exact absurd hcontrol (by decide)
  · exact hquote

/-! ## Texts on one line -/

variable {reader : List Char → Option (List Char × List Char)} {cs rest : List Char}

/-- A text whose characters are read one by one is read in front of what follows. -/
theorem read_flatMap {write : Char → List Char} (h : ∀ c ∈ cs, Spells reader (write c) c) :
    reader (cs.flatMap write ++ rest) = (reader rest).map fun (body, left) => (cs ++ body, left) := by
  induction cs with
  | nil => simp
  | cons c cs ih =>
    have htail := ih fun d hd => h d (List.mem_cons_of_mem _ hd)
    rw [List.flatMap_cons, List.append_assoc, h c List.mem_cons_self, htail]
    cases reader rest <;> rfl

theorem readBasic_flatMap {write : Char → List Char} (h : ∀ c ∈ cs, Spells readBasic (write c) c) :
    readBasic (cs.flatMap write ++ '"' :: rest) = some (cs, rest) := by
  rw [read_flatMap h, readBasic]
  simp

theorem readLiteral_append (h : ∀ c ∈ cs, isControl c = false ∧ c ≠ '\'') :
    readLiteral (cs ++ '\'' :: rest) = some (cs, rest) := by
  have hspells : ∀ c ∈ cs, Spells readLiteral [c] c := fun c hc => spells_literal (h c hc).1 (h c hc).2
  rw [← List.flatMap_singleton' cs, read_flatMap hspells, readLiteral]
  simp

/-! ## Texts of several lines -/

/-- What may stand between tripled quotes for a text, after so many quotes that stand for themselves:
there are never more than two of them beside each other, and a reader makes the other characters of
what is written for them. -/
inductive Spelled (quote : Char) (reader : List Char → Option (List Char × List Char)) :
    Nat → List Char → List Char → Prop
  /-- The end of the text. -/
  | nil (quotes : Nat) : Spelled quote reader quotes [] []
  /-- A quote. -/
  | quote {quotes : Nat} {written cs : List Char} (hfew : quotes < 2)
    (hrest : Spelled quote reader (quotes + 1) written cs) :
    Spelled quote reader quotes (quote :: written) (quote :: cs)
  /-- Another character. -/
  | other {quotes : Nat} {first written cs : List Char} {c : Char} (hspells : Spells reader first c)
    (hne : first ≠ []) (hhead : first.head? ≠ some quote) (hrest : Spelled quote reader 0 written cs) :
    Spelled quote reader quotes (first ++ written) (c :: cs)

namespace Spelled

variable {quote : Char} {quotes : Nat} {written : List Char}

/-- There are at most two quotes where a text begins, and no third one comes after them, unless the
text is over. -/
theorem run (h : Spelled quote reader quotes written cs) (hquotes : quotes ≤ 2) :
    (∃ n, quotes + n ≤ 2 ∧ written = List.replicate n quote ∧ cs = List.replicate n quote) ∨
      ∀ more, quotes + ((written ++ more).takeWhile (· == quote)).length ≤ 2 := by
  induction h with
  | nil quotes => exact .inl ⟨0, by omega, rfl, rfl⟩
  | quote hfew hrest ih =>
    rcases ih hfew with ⟨n, hn, rfl, rfl⟩ | hshort
    · exact .inl ⟨n + 1, by omega, rfl, rfl⟩
    · refine .inr fun more => ?_
      have hmore := hshort more
      rw [List.cons_append, List.takeWhile_cons_of_pos (by simp), List.length_cons]
      omega
  | @other quotes first written cs c hspells hne hhead hrest ih =>
    -- another character ends the run, so only the quotes before it count
    obtain ⟨d, first, rfl⟩ := List.exists_cons_of_ne_nil hne
    have hd : (d == quote) = false := by simpa using hhead
    refine .inr fun more => ?_
    rw [List.cons_append, List.cons_append, List.takeWhile_cons_of_neg (by simp [hd])]
    exact hquotes

/-- Three quotes after up to two that belong to a text end it. -/
theorem closing?_replicate {n : Nat} (hn : n ≤ 2) (hrest : rest.head? ≠ some quote) :
    closing? quote (List.replicate n quote ++ (List.replicate 3 quote ++ rest)) =
      some (List.replicate n quote, rest) := by
  have htake : rest.takeWhile (· == quote) = [] := by
    cases rest with
    | nil => rfl
    | cons c rest =>
      rw [List.takeWhile_cons_of_neg]
      simpa using hrest
  have hrun : ((List.replicate n quote ++ (List.replicate 3 quote ++ rest)).takeWhile
      (· == quote)).length = n + 3 := by
    rw [← List.append_assoc, List.replicate_append_replicate, List.takeWhile_append_of_pos (by simp),
      htake, List.append_nil, List.length_replicate]
  have hfive : min (n + 3) 5 = n + 3 := by omega
  rw [closing?, hrun, hfive, if_pos (Nat.le_add_left 3 n), Nat.add_sub_cancel, ← List.append_assoc,
    List.replicate_append_replicate, List.drop_left' List.length_replicate]

theorem closing?_none (h : (cs.takeWhile (· == quote)).length ≤ 2) : closing? quote cs = none :=
  if_neg (by omega)

/-- A text of several lines is read up to the quotes that end it. -/
theorem read (h : Spelled quote reader quotes written cs) (hquotes : quotes ≤ 2)
    (hread : ∀ rest, reader (quote :: rest) =
      (closing? quote (quote :: rest)).or (consTo quote (reader rest)))
    (hrest : rest.head? ≠ some quote) :
    reader (written ++ (List.replicate 3 quote ++ rest)) = some (cs, rest) := by
  induction h with
  | nil quotes =>
    have hend : closing? quote (List.replicate 3 quote ++ rest) = some ([], rest) :=
      closing?_replicate (Nat.zero_le 2) hrest
    rw [List.replicate_succ, List.cons_append] at hend
    rw [List.nil_append, List.replicate_succ, List.cons_append, hread, hend, Option.some_or]
  | @quote quotes written cs hfew hshort ih =>
    rw [List.cons_append, hread]
    -- the quote belongs to the closing ones only if nothing but quotes is left
    rcases (Spelled.quote hfew hshort).run hquotes with ⟨n, hn, hwritten, hcs⟩ | hrun
    · rw [← List.cons_append, hwritten, hcs, closing?_replicate (by omega) hrest, Option.some_or]
    · rw [closing?_none, ih hfew, Option.none_or]
      · rfl
      · exact Nat.le_trans (Nat.le_add_left _ _) (hrun _)
  | other hspells hne hhead hshort ih =>
    rw [List.append_assoc, hspells, ih (Nat.zero_le 2)]
    rfl

end Spelled

/-! ### Runs of quotes -/

/-- How one more character changes the length of the run at the end, and the longest length. -/
def runStep (quote : Char) (run : Nat × Nat) (c : Char) : Nat × Nat :=
  if c == quote then (run.1 + 1, max run.2 (run.1 + 1)) else (0, run.2)

theorem le_foldl_runStep (quote : Char) (cs : List Char) (run : Nat × Nat) :
    run.2 ≤ (cs.foldl (runStep quote) run).2 := by
  induction cs generalizing run with
  | nil => exact Nat.le_refl _
  | cons c cs ih =>
    refine Nat.le_trans ?_ (ih (runStep quote run c))
    unfold runStep
    split
    · exact Nat.le_max_left _ _
    · exact Nat.le_refl _

/-- A text in which no more than two quotes stand beside each other may stand as it is, if its other
characters may. -/
theorem spelled_of_longestRun {quote : Char} {write : Char → List Char}
    (hquote : write quote = [quote])
    (h : ∀ c ∈ cs, c ≠ quote →
      Spells reader (write c) c ∧ write c ≠ [] ∧ (write c).head? ≠ some quote)
    (hrun : longestRun quote cs ≤ 2) : Spelled quote reader 0 (cs.flatMap write) cs := by
  suffices hfrom : ∀ run : Nat × Nat, (cs.foldl (runStep quote) run).2 ≤ 2 →
      Spelled quote reader run.1 (cs.flatMap write) cs from hfrom (0, 0) hrun
  clear hrun
  induction cs with
  | nil => exact fun run _ => .nil run.1
  | cons c cs ih =>
    intro run hrun
    have hrest := ih (fun d hd => h d (List.mem_cons_of_mem _ hd)) (runStep quote run c) hrun
    rw [List.flatMap_cons]
    by_cases hc : c = quote
    · subst hc
      have hstep : runStep c run c = (run.1 + 1, max run.2 (run.1 + 1)) := by simp [runStep]
      have hlong := le_foldl_runStep c cs (runStep c run c)
      rw [List.foldl_cons] at hrun
      rw [hstep] at hrest hlong hrun
      have hfew : run.1 < 2 := by
        have hmax := Nat.le_max_right run.2 (run.1 + 1)
        simp only at hlong
        omega
      rw [hquote]
      exact .quote hfew hrest
    · have hstep : runStep quote run c = (0, run.2) := by simp [runStep, hc]
      rw [hstep] at hrest
      obtain ⟨hspells, hne, hhead⟩ := h c List.mem_cons_self hc
      exact .other hspells hne hhead hrest

theorem escapedChar_ne_nil (c : Char) : escapedChar c ≠ [] := by
  unfold escapedChar
  split <;> simp
  split <;> simp

theorem head?_escapedChar (c : Char) : (escapedChar c).head? ≠ some '"' := by
  unfold escapedChar
  split <;> simp
  split <;> simp_all

/-- With escapes any text may stand between tripled quotes. -/
theorem spelled_escapedLines {quotes : Nat} (hquotes : quotes ≤ 2) (cs : List Char) :
    Spelled '"' (readLongBasic false) quotes (escapedLines quotes cs) cs := by
  induction cs generalizing quotes with
  | nil => exact .nil quotes
  | cons c cs ih =>
    rw [escapedLines.eq_def]
    split
    · contradiction
    · rename_i heq
      obtain ⟨rfl, rfl⟩ := List.cons.inj heq
      split
      · rename_i hfew
        exact .quote hfew (ih hfew)
      · exact .other (spells_escapedChar_long '"') (escapedChar_ne_nil _) (head?_escapedChar _)
          (ih (Nat.zero_le 2))
    · rename_i heq
      obtain ⟨rfl, rfl⟩ := List.cons.inj heq
      exact .other spells_newline_long (by simp) (by simp) (ih (Nat.zero_le 2))
    · rename_i heq
      obtain ⟨rfl, rfl⟩ := List.cons.inj heq
      exact .other (spells_escapedChar_long _) (escapedChar_ne_nil _) (head?_escapedChar _)
        (ih (Nat.zero_le 2))

/-! ## All forms -/

/-- Neither quote stands in front of the text. -/
def Unquoted (rest : List Char) : Prop := rest.head? ≠ some '"' ∧ rest.head? ≠ some '\''

/-- A string on one line begins with one quote, and has no other next to it unless it is empty. -/
theorem not_tripled {write : Char → List Char} {quote : Char}
    (hhead : ∀ c ∈ cs, write c ≠ [] ∧ (write c).head? ≠ some quote) (hrest : rest.head? ≠ some quote)
    (tail : List Char) : cs.flatMap write ++ quote :: rest ≠ quote :: quote :: tail := by
  intro heq
  cases cs with
  | nil =>
    simp only [List.flatMap_nil, List.nil_append, List.cons.injEq, true_and] at heq
    exact hrest (by rw [heq]; rfl)
  | cons c cs =>
    obtain ⟨hne, hfirst⟩ := hhead c List.mem_cons_self
    obtain ⟨d, ds, hwrite⟩ := List.exists_cons_of_ne_nil hne
    rw [hwrite] at hfirst
    rw [List.flatMap_cons, hwrite] at heq
    exact hfirst (congrArg some (List.cons.inj heq).1)

theorem not_tripled_literal {quote : Char} (hhead : quote ∉ cs) (hrest : rest.head? ≠ some quote)
    (tail : List Char) : cs ++ quote :: rest ≠ quote :: quote :: tail := by
  rw [← List.flatMap_singleton' cs]
  refine not_tripled (fun c hc => ⟨by simp, ?_⟩) hrest tail
  rintro heq
  obtain rfl := Option.some.inj heq
  exact hhead hc

/-- Nothing is lost of a text that begins with no line break. -/
theorem dropLineBreak_of_head (hbreak : cs.head? ≠ some '\n') (hreturn : cs.head? ≠ some '\r') :
    dropLineBreak cs = cs := by
  unfold dropLineBreak lineBreak?
  split <;> simp_all

theorem tabEscaped_ne_nil (c : Char) : tabEscaped c ≠ [] := by
  unfold tabEscaped
  split <;> simp

theorem head?_tabEscaped {c d : Char} (hc : c ≠ d) (hslash : d ≠ '\\') :
    (tabEscaped c).head? ≠ some d := by
  unfold tabEscaped
  split <;> simp [hc, hslash.symm]

/-- Whether or not a line break stands after the opening quotes, the text comes after it. -/
theorem dropLineBreak_body {hasBreak : Bool} {body : List Char}
    (hfirst : hasBreak = false → body.head? ≠ some '\n' ∧ body.head? ≠ some '\r') :
    dropLineBreak ((if hasBreak then ['\n'] else []) ++ body) = body := by
  cases hasBreak with
  | true => rfl
  | false => exact dropLineBreak_of_head (hfirst rfl).1 (hfirst rfl).2

theorem readString_longBasic (hasBreak : Bool) {written : List Char}
    (hwritten : Spelled '"' (readLongBasic false) 0 written cs)
    (hfirst : hasBreak = false → (written ++ (List.replicate 3 '"' ++ rest)).head? ≠ some '\n' ∧
      (written ++ (List.replicate 3 '"' ++ rest)).head? ≠ some '\r')
    (hrest : rest.head? ≠ some '"') :
    readString (List.replicate 3 '"' ++ ((if hasBreak then ['\n'] else []) ++
      (written ++ (List.replicate 3 '"' ++ rest)))) = some (cs, rest) := by
  have hread : ∀ rest, readLongBasic false ('"' :: rest) =
      (closing? '"' ('"' :: rest)).or (consTo '"' (readLongBasic false rest)) := by
    intro rest
    rw [readLongBasic]
  show readLongBasic false (dropLineBreak ((if hasBreak then ['\n'] else []) ++
    (written ++ (List.replicate 3 '"' ++ rest)))) = _
  rw [dropLineBreak_body hfirst]
  exact hwritten.read (Nat.zero_le 2) hread hrest

theorem readString_longLiteral (hasBreak : Bool) {written : List Char}
    (hwritten : Spelled '\'' readLongLiteral 0 written cs)
    (hfirst : hasBreak = false → (written ++ (List.replicate 3 '\'' ++ rest)).head? ≠ some '\n' ∧
      (written ++ (List.replicate 3 '\'' ++ rest)).head? ≠ some '\r')
    (hrest : rest.head? ≠ some '\'') :
    readString (List.replicate 3 '\'' ++ ((if hasBreak then ['\n'] else []) ++
      (written ++ (List.replicate 3 '\'' ++ rest)))) = some (cs, rest) := by
  have hread : ∀ rest, readLongLiteral ('\'' :: rest) =
      (closing? '\'' ('\'' :: rest)).or (consTo '\'' (readLongLiteral rest)) := by
    intro rest
    rw [readLongLiteral]
  show readLongLiteral (dropLineBreak ((if hasBreak then ['\n'] else []) ++
    (written ++ (List.replicate 3 '\'' ++ rest)))) = _
  rw [dropLineBreak_body hfirst]
  exact hwritten.read (Nat.zero_le 2) hread hrest

/-- Where a text without line breaks and control characters is written between tripled quotes, no line
break comes next to them. -/
theorem head?_flatMap_ne {write : Char → List Char} {c quote : Char} {more : List Char}
    (hwrite : ∀ d ∈ cs, write d ≠ [] ∧ (write d).head? ≠ some c) (hquote : quote ≠ c) :
    (cs.flatMap write ++ (List.replicate 3 quote ++ more)).head? ≠ some c := by
  cases cs with
  | nil => simpa using hquote
  | cons d cs =>
    obtain ⟨hne, hhead⟩ := hwrite d List.mem_cons_self
    obtain ⟨e, es, hes⟩ := List.exists_cons_of_ne_nil hne
    rw [hes] at hhead
    rw [List.flatMap_cons, hes]
    exact hhead

/-- A string without quotes, backslashes, line feeds and control characters is read between quotes. -/
theorem readBasic_plain (hplain : ∀ c ∈ cs, isControl c = false ∧ c ≠ '"' ∧ c ≠ '\\') :
    readBasic (cs.flatMap tabEscaped ++ '"' :: rest) = some (cs, rest) := by
  refine readBasic_flatMap fun c hc => ?_
  obtain ⟨hcontrol, hquote, hslash⟩ := hplain c hc
  rw [← escapedChar_plain hcontrol hquote hslash]
  exact spells_escapedChar c

/-- Any string is read between quotes if its characters are escaped. -/
theorem readBasic_escaped (cs : List Char) :
    readBasic (cs.flatMap escapedChar ++ '"' :: rest) = some (cs, rest) :=
  readBasic_flatMap fun c _ => spells_escapedChar c

theorem not_tripled_plain (hplain : ∀ c ∈ cs, isControl c = false ∧ c ≠ '"' ∧ c ≠ '\\')
    (hrest : rest.head? ≠ some '"') (tail : List Char) :
    cs.flatMap tabEscaped ++ '"' :: rest ≠ '"' :: '"' :: tail :=
  not_tripled (fun c hc => ⟨tabEscaped_ne_nil c, head?_tabEscaped (hplain c hc).2.1 (by decide)⟩)
    hrest tail

theorem not_tripled_escaped (cs : List Char) (hrest : rest.head? ≠ some '"') (tail : List Char) :
    cs.flatMap escapedChar ++ '"' :: rest ≠ '"' :: '"' :: tail :=
  not_tripled (fun c _ => ⟨escapedChar_ne_nil c, head?_escapedChar c⟩) hrest tail

theorem readString_basic {body : List Char} (h : ∀ tail, body ≠ '"' :: '"' :: tail) :
    readString ('"' :: body) = readBasic body := by
  rw [readString]
  exact h

theorem readString_literal {body : List Char} (h : ∀ tail, body ≠ '\'' :: '\'' :: tail) :
    readString ('\'' :: body) = readLiteral body := by
  rw [readString]
  exact h

theorem ne_return {c : Char} (h : needsEscape c = false) : c ≠ '\r' := by
  rintro rfl
  exact absurd h (by decide)

/-- Without line feeds, the characters that need no escape are the others than control characters. -/
theorem isControl_of_needsEscape {c : Char} (h : needsEscape c = false) (hbreak : c ≠ '\n') :
    isControl c = false := by
  simpa [needsEscape, hbreak] using h

theorem ne_of_not_contains {c d : Char} (h : cs.contains d = false) (hc : c ∈ cs) : c ≠ d := by
  rintro rfl
  simp [hc] at h

/-! ### Each form -/

section Forms

variable (hescape : ∀ c ∈ cs, needsEscape c = false)

/-- Between quotes, without escapes but of tabs. -/
theorem readString_plain (hplain : ∀ c ∈ cs, isControl c = false ∧ c ≠ '"' ∧ c ≠ '\\')
    (hrest : rest.head? ≠ some '"') :
    readString ('"' :: (cs.flatMap tabEscaped ++ '"' :: rest)) = some (cs, rest) := by
  rw [readString_basic (not_tripled_plain hplain hrest), readBasic_plain hplain]

/-- Between single quotes. -/
theorem readString_quoted (hplain : ∀ c ∈ cs, isControl c = false ∧ c ≠ '\'')
    (hrest : rest.head? ≠ some '\'') :
    readString ('\'' :: (cs ++ '\'' :: rest)) = some (cs, rest) := by
  have hnone : '\'' ∉ cs := fun hc => (hplain _ hc).2 rfl
  rw [readString_literal (not_tripled_literal hnone hrest), readLiteral_append hplain]

include hescape

/-- Between three quotes, with a line break in front if the string has one. -/
theorem readString_lines (hslash : cs.contains '\\' = false) (hrun : longestRun '"' cs ≤ 2)
    (hrest : rest.head? ≠ some '"') :
    readString (List.replicate 3 '"' ++ ((if cs.contains '\n' then ['\n'] else []) ++
      (cs.flatMap tabEscaped ++ (List.replicate 3 '"' ++ rest)))) = some (cs, rest) := by
  have hspelled : Spelled '"' (readLongBasic false) 0 (cs.flatMap tabEscaped) cs := by
    refine spelled_of_longestRun rfl (fun c hc hquote => ?_) hrun
    exact ⟨spells_tabEscaped_long (hescape c hc) hquote (ne_of_not_contains hslash hc),
      tabEscaped_ne_nil c, head?_tabEscaped hquote (by decide)⟩
  refine readString_longBasic _ hspelled (fun hbreak => ⟨?_, ?_⟩) hrest
  · exact head?_flatMap_ne (fun c hc => ⟨tabEscaped_ne_nil c,
      head?_tabEscaped (ne_of_not_contains hbreak hc) (by decide)⟩) (by decide)
  · exact head?_flatMap_ne (fun c hc => ⟨tabEscaped_ne_nil c,
      head?_tabEscaped (ne_return (hescape c hc)) (by decide)⟩) (by decide)

/-- Between three single quotes. -/
theorem readString_quotedLines (hrun : longestRun '\'' cs ≤ 2) (hrest : rest.head? ≠ some '\'') :
    readString (List.replicate 3 '\'' ++ ((if cs.contains '\n' then ['\n'] else []) ++
      (cs ++ (List.replicate 3 '\'' ++ rest)))) = some (cs, rest) := by
  have hspelled : Spelled '\'' readLongLiteral 0 (cs.flatMap fun c => [c]) cs := by
    refine spelled_of_longestRun rfl (fun c hc hquote => ?_) hrun
    exact ⟨spells_longLiteral (hescape c hc) hquote, by simp, by simpa using hquote⟩
  rw [List.flatMap_singleton'] at hspelled
  have hhead : ∀ d : Char, d ≠ '\'' → (∀ c ∈ cs, c ≠ d) →
      (cs ++ (List.replicate 3 '\'' ++ rest)).head? ≠ some d := by
    intro d hd hne
    rw [← List.flatMap_singleton' cs]
    exact head?_flatMap_ne (fun c hc => ⟨by simp, by simpa using hne c hc⟩) (Ne.symm hd)
  exact readString_longLiteral _ hspelled (fun hbreak =>
    ⟨hhead '\n' (by decide) fun c hc => ne_of_not_contains hbreak hc,
      hhead '\r' (by decide) fun c hc => ne_return (hescape c hc)⟩) hrest

end Forms

/-- **A written string is read back,** whatever characters it holds. -/
theorem readString_stringText (cs : List Char) {rest : List Char} (hrest : Unquoted rest) :
    readString (stringText cs ++ rest) = some (cs, rest) := by
  obtain ⟨hdouble, hsingle⟩ := hrest
  unfold stringText
  dsimp only
  -- the forms in the order in which they are tried; the last two escape whatever needs it
  split
  · rename_i h
    simp only [Bool.and_eq_true, Bool.not_eq_true', List.any_eq_false, Bool.not_eq_true] at h
    obtain ⟨⟨⟨hescape, hslash⟩, hquote⟩, hbreak⟩ := h
    simp only [List.append_assoc, List.cons_append, List.nil_append]
    exact readString_plain (fun c hc =>
      ⟨isControl_of_needsEscape (hescape c hc) (ne_of_not_contains hbreak hc),
        ne_of_not_contains hquote hc, ne_of_not_contains hslash hc⟩) hdouble
  split
  · rename_i h
    simp only [Bool.and_eq_true, Bool.not_eq_true', List.any_eq_false, Bool.not_eq_true] at h
    obtain ⟨⟨hescape, hquote⟩, hbreak⟩ := h
    simp only [List.append_assoc, List.cons_append, List.nil_append]
    exact readString_quoted (fun c hc =>
      ⟨isControl_of_needsEscape (hescape c hc) (ne_of_not_contains hbreak hc),
        ne_of_not_contains hquote hc⟩) hsingle
  split
  · rename_i h
    simp only [Bool.and_eq_true, Bool.not_eq_true', List.any_eq_false, Bool.not_eq_true,
      decide_eq_true_eq] at h
    obtain ⟨⟨hescape, hslash⟩, hrun⟩ := h
    simp only [List.append_assoc]
    exact readString_lines hescape hslash hrun hdouble
  split
  · rename_i h
    simp only [Bool.and_eq_true, Bool.not_eq_true', List.any_eq_false, Bool.not_eq_true,
      decide_eq_true_eq] at h
    simp only [List.append_assoc]
    exact readString_quotedLines h.1 h.2 hsingle
  split
  · simp only [List.append_assoc]
    exact readString_longBasic true (spelled_escapedLines (Nat.zero_le 2) cs)
      (fun h => nomatch h) hdouble
  · simp only [List.append_assoc, List.cons_append, List.nil_append]
    rw [readString_basic (not_tripled_escaped cs hdouble), readBasic_escaped]

/-! ## Keys -/

/-- What may come after a key that is written: no quote, and no character of a bare key. -/
def Unkeyed (rest : List Char) : Prop := Unquoted rest ∧ ∀ c ∈ rest.head?, isBare c = false

theorem readKeyPart_bare (hne : cs ≠ []) (hbare : cs.all isBare)
    (hrest : ∀ c ∈ rest.head?, isBare c = false) :
    readKeyPart (cs ++ rest) = some (.ofList cs, rest) := by
  have hend : rest.takeWhile isBare = [] ∧ rest.dropWhile isBare = rest := by
    cases rest with
    | nil => exact ⟨rfl, rfl⟩
    | cons c rest => simp [hrest c rfl]
  have htake : (cs ++ rest).takeWhile isBare = cs := by
    rw [List.takeWhile_append_of_pos (by simpa using hbare), hend.1, List.append_nil]
  have hdrop : (cs ++ rest).dropWhile isBare = rest := by
    rw [List.dropWhile_append_of_pos (by simpa using hbare), hend.2]
  obtain ⟨c, tail, rfl⟩ := List.exists_cons_of_ne_nil hne
  have hc : isBare c := List.all_eq_true.mp hbare c List.mem_cons_self
  rw [List.cons_append] at htake hdrop ⊢
  unfold readKeyPart
  split
  iterate 4
    · rename_i heq
      obtain ⟨rfl, -⟩ := List.cons.inj heq
      exact absurd hc (by decide)
  · simp [htake, hdrop]

theorem readKeyPart_basic {body : List Char} (h : ∀ tail, body ≠ '"' :: '"' :: tail) :
    readKeyPart ('"' :: body) = (readBasic body).map fun (body, rest) => (.ofList body, rest) := by
  rw [readKeyPart, readString_basic h]
  exact h

theorem readKeyPart_literal {body : List Char} (h : ∀ tail, body ≠ '\'' :: '\'' :: tail) :
    readKeyPart ('\'' :: body) = (readLiteral body).map fun (body, rest) => (.ofList body, rest) := by
  rw [readKeyPart, readString_literal h]
  exact h

/-- **A written key is read back.** -/
theorem readKeyPart_keyText (key : String) (hrest : Unkeyed rest) :
    readKeyPart ((keyText key).toList ++ rest) = some (key, rest) := by
  obtain ⟨⟨hdouble, hsingle⟩, hbare⟩ := hrest
  unfold keyText
  dsimp only
  rw [String.toList_ofList]
  split
  · rename_i h
    simp only [Bool.and_eq_true, Bool.not_eq_true', List.isEmpty_eq_false_iff] at h
    rw [readKeyPart_bare h.1 h.2 hbare, String.ofList_toList]
  split
  · rename_i h
    simp only [Bool.and_eq_true, Bool.not_eq_true', List.any_eq_false, Bool.not_eq_true] at h
    obtain ⟨⟨hcontrol, hslash⟩, hquote⟩ := h
    have hplain : ∀ c ∈ key.toList, isControl c = false ∧ c ≠ '"' ∧ c ≠ '\\' := fun c hc =>
      ⟨hcontrol c hc, ne_of_not_contains hquote hc, ne_of_not_contains hslash hc⟩
    simp only [List.append_assoc, List.cons_append, List.nil_append]
    rw [readKeyPart_basic (not_tripled_plain hplain hdouble), readBasic_plain hplain]
    simp
  split
  · rename_i h
    simp only [Bool.and_eq_true, Bool.not_eq_true', List.any_eq_false, Bool.not_eq_true] at h
    have hplain : ∀ c ∈ key.toList, isControl c = false ∧ c ≠ '\'' := fun c hc =>
      ⟨h.1 c hc, ne_of_not_contains h.2 hc⟩
    have hnone : '\'' ∉ key.toList := fun hc => (hplain _ hc).2 rfl
    simp only [List.append_assoc, List.cons_append, List.nil_append]
    rw [readKeyPart_literal (not_tripled_literal hnone hsingle), readLiteral_append hplain]
    simp
  · simp only [List.append_assoc, List.cons_append, List.nil_append]
    rw [readKeyPart_basic (not_tripled_escaped _ hdouble), readBasic_escaped]
    simp

/-- A written key begins with a character of a bare key or with a quote. -/
theorem keyText_eq_cons (key : String) :
    ∃ c tail, (keyText key).toList = c :: tail ∧ (isBare c ∨ c = '"' ∨ c = '\'') := by
  unfold keyText
  dsimp only
  rw [String.toList_ofList]
  split
  · rename_i h
    simp only [Bool.and_eq_true, Bool.not_eq_true', List.isEmpty_eq_false_iff] at h
    obtain ⟨c, tail, hcs⟩ := List.exists_cons_of_ne_nil h.1
    exact ⟨c, tail, hcs, .inl (List.all_eq_true.mp h.2 c (hcs ▸ List.mem_cons_self))⟩
  split
  · exact ⟨_, _, rfl, .inr (.inl rfl)⟩
  split
  · exact ⟨_, _, rfl, .inr (.inr rfl)⟩
  · exact ⟨_, _, rfl, .inr (.inl rfl)⟩

theorem isGap_of_startsKey {c : Char} (h : isBare c ∨ c = '"' ∨ c = '\'') : isGap c = false := by
  rcases h with h | rfl | rfl
  · by_contra hgap
    simp only [isGap, Bool.not_eq_false, Bool.or_eq_true, beq_iff_eq] at hgap
    rcases hgap with rfl | rfl <;> exact absurd h (by decide)
  · rfl
  · rfl

/-- A written key without points after it is a path of one part. -/
theorem readKey_keyText (key : String) (hrest : Unkeyed rest)
    (hpoint : (rest.dropWhile isGap).head? ≠ some '.') :
    readKey ((keyText key).toList ++ rest) = some ([key], rest.dropWhile isGap) := by
  obtain ⟨c, tail, hkey, hstart⟩ := keyText_eq_cons key
  have hgap : ((keyText key).toList ++ rest).dropWhile isGap = (keyText key).toList ++ rest := by
    rw [hkey, List.cons_append, List.dropWhile_cons_of_neg (by simp [isGap_of_startsKey hstart])]
  unfold readKey nestingLimit readParts
  rw [hgap, readKeyPart_keyText key hrest]
  simp only [Option.bind_eq_bind, Option.bind_some]
  split
  · rename_i heq
    exact absurd (congrArg List.head? heq) hpoint
  · rfl

end Pipework.Toml
