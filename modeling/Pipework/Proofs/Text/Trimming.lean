import Pipework.Proofs.Text.Segments

/-!
# What trimming leaves alone

A function of texts that does not see a blank in front or behind does not see trimming either
(`Text.apply_trim`). The pieces of a text are such a function, up to blanks around each piece, as
long as no blank is a separator (`Text.trim_pieces_trim`).
-/

namespace Pipework

namespace Text

/-! ## Blanks at the ends -/

section Invariant

variable {β : Type} {f : List Char → β}

theorem apply_trimLeft (hfront : ∀ c cs, isBlank c → f (c :: cs) = f cs) (cs : List Char) :
    f (trimLeft cs) = f cs := by
  induction cs with
  | nil => rfl
  | cons c cs ih =>
    rw [trimLeft, List.dropWhile_cons]
    split
    · rename_i hc
      rw [hfront c cs hc]
      exact ih
    · rfl

theorem apply_trimRight (hback : ∀ c cs, isBlank c → f (cs ++ [c]) = f cs) (cs : List Char) :
    f (trimRight cs) = f cs := by
  induction cs using List.reverseRecOn with
  | nil => rfl
  | append_singleton cs c ih =>
    rw [trimRight, List.reverse_concat, List.dropWhile_cons]
    split
    · rename_i hc
      rw [hback c cs hc]
      exact ih
    · rw [List.reverse_cons, List.reverse_reverse]

/-- What does not depend on a blank at either end does not depend on trimming. -/
theorem apply_trim (hfront : ∀ c cs, isBlank c → f (c :: cs) = f cs)
    (hback : ∀ c cs, isBlank c → f (cs ++ [c]) = f cs) (cs : List Char) : f (trim cs) = f cs := by
  rw [trim, apply_trimRight hback, apply_trimLeft hfront]

end Invariant

theorem trim_append_blanks (cs : List Char) {blanks : List Char} (h : ∀ c ∈ blanks, isBlank c) :
    trim (cs ++ blanks) = trim cs := by
  induction blanks using List.reverseRecOn with
  | nil => rw [List.append_nil]
  | append_singleton blanks c ih =>
    have hc : isBlank c := h c (List.mem_append_right _ (List.mem_singleton_self c))
    rw [← List.append_assoc, trim_append_blank _ hc]
    exact ih fun d hd => h d (List.mem_append_left _ hd)

theorem mem_of_mem_trim {c : Char} {cs : List Char} (h : c ∈ trim cs) : c ∈ cs := by
  have hleft : c ∈ trimLeft cs :=
    List.mem_reverse.mp ((List.dropWhile_suffix isBlank).subset (List.mem_reverse.mp h))
  exact (List.dropWhile_suffix isBlank).subset hleft

theorem trim_trimLeft (cs : List Char) : trim (trimLeft cs) = trim cs :=
  @apply_trimLeft _ trim (fun _ cs hc => trim_blank_cons hc cs) cs

theorem trim_part (cs : List Char) : trim cs <:+: cs := by
  have hright : trim cs <+: trimLeft cs := by
    rw [← List.reverse_suffix, trim, trimRight, List.reverse_reverse]
    exact List.dropWhile_suffix isBlank
  exact hright.isInfix.trans (List.dropWhile_suffix isBlank).isInfix

/-- Trimming keeps what is not blank. -/
theorem mem_trim_iff {c : Char} (hc : isBlank c = false) (cs : List Char) : c ∈ trim cs ↔ c ∈ cs := by
  have hne : ∀ d, isBlank d → c ≠ d := fun d hd hcd => by simp [hcd, hd] at hc
  refine iff_of_eq (@apply_trim _ (fun cs => c ∈ cs) (fun d cs hd => ?_) (fun d cs hd => ?_) cs)
  · simp [hne d hd]
  · simp [hne d hd]

/-- What follows a blank in a text that does not end with one is solid but for blanks in front. -/
theorem solid_trimLeft {before after : List Char} {blank : Char} (hblank : isBlank blank)
    (h : Tight (before ++ blank :: after)) : Solid (trimLeft after) := by
  have hsplit : after.takeWhile isBlank ++ trimLeft after = after := List.takeWhile_append_dropWhile
  have hlast := h.2
  rw [List.getLast?_append, List.getLast?_eq_some_getLast (List.cons_ne_nil blank after),
    Option.some_or, ← List.getLast?_eq_some_getLast] at hlast
  cases hrest : trimLeft after with
  | nil =>
    -- then the text ends with a blank
    have hall : ∀ c ∈ blank :: after, isBlank c := by
      intro c hc
      rcases List.mem_cons.mp hc with rfl | hc
      · exact hblank
      · rw [← hsplit, hrest, List.append_nil] at hc
        exact List.mem_takeWhile_imp hc
    rw [List.getLast?_eq_some_getLast (List.cons_ne_nil blank after)] at hlast
    have hend := hall _ (List.getLast_mem (List.cons_ne_nil blank after))
    simp [hend] at hlast
  | cons c rest =>
    refine ⟨by simp, ?_, ?_⟩
    · have hhead := List.head?_dropWhile_not isBlank after
      rw [← trimLeft, hrest] at hhead
      simpa using hhead
    · rw [← hsplit, hrest, ← List.cons_append, List.getLast?_append,
        List.getLast?_eq_some_getLast (List.cons_ne_nil c rest), Option.some_or] at hlast
      rwa [List.getLast?_eq_some_getLast (List.cons_ne_nil c rest)]

/-! ## Pieces but for blanks -/

section Pieces

variable {p : Char → Bool}

/-- The characters of a piece are those of the text that are no separators. -/
theorem forall_mem_pieces {cs piece : List Char} (h : piece ∈ pieces p cs) :
    ∀ c ∈ piece, c ∈ cs ∧ p c = false := by
  induction cs generalizing piece with
  | nil =>
    obtain rfl := List.mem_singleton.mp h
    simp
  | cons d cs ih =>
    have hlater : ∀ {c}, c ∈ cs ∧ p c = false → c ∈ d :: cs ∧ p c = false :=
      fun hc => ⟨List.mem_cons_of_mem _ hc.1, hc.2⟩
    obtain ⟨first, more, hpieces⟩ := List.exists_cons_of_ne_nil (pieces_ne_nil p cs)
    cases hd : p d with
    | true =>
      rw [pieces, if_pos hd] at h
      rcases List.mem_cons.mp h with rfl | h
      · simp
      · exact fun c hc => hlater (ih h c hc)
    | false =>
      rw [pieces_cons hd hpieces] at h
      rw [hpieces] at ih
      rcases List.mem_cons.mp h with rfl | h
      · intro c hc
        rcases List.mem_cons.mp hc with rfl | hc
        · exact ⟨List.mem_cons_self, hd⟩
        · exact hlater (ih List.mem_cons_self c hc)
      · exact fun c hc => hlater (ih (List.mem_cons_of_mem _ h) c hc)

/-- No piece has a separator in it. -/
theorem free_of_mem_pieces {cs piece : List Char} (h : piece ∈ pieces p cs) :
    ∀ c ∈ piece, p c = false := fun c hc => (forall_mem_pieces h c hc).2

theorem mem_of_mem_pieces {cs piece : List Char} (h : piece ∈ pieces p cs) {c : Char}
    (hc : c ∈ piece) : c ∈ cs := (forall_mem_pieces h c hc).1

theorem cut?_none {cs : List Char} (h : ∀ c ∈ cs, p c = false) :
    cut? p cs = none := by
  have hdrop : cs.dropWhile (fun c => !p c) = [] := by
    rw [List.dropWhile_eq_nil_iff]
    exact fun c hc => by simp [h c hc]
  rw [cut?, hdrop]

/-- A blank in front of a text changes its pieces only by a blank. -/
theorem trim_pieces_cons (hp : ∀ c, isBlank c → p c = false) {c : Char} (hc : isBlank c)
    (cs : List Char) : (pieces p (c :: cs)).map trim = (pieces p cs).map trim := by
  obtain ⟨first, more, hpieces⟩ := List.exists_cons_of_ne_nil (pieces_ne_nil p cs)
  rw [pieces_cons (hp c hc) hpieces, hpieces, List.map_cons, List.map_cons, trim_blank_cons hc]

/-- A character that is no separator goes to the end of the last piece. -/
theorem pieces_concat {c : Char} (hc : p c = false) (cs : List Char) :
    ∃ front last, pieces p cs = front ++ [last] ∧ pieces p (cs ++ [c]) = front ++ [last ++ [c]] := by
  induction cs with
  | nil => exact ⟨[], [], rfl, pieces_of_none (by simpa using hc)⟩
  | cons d cs ih =>
    obtain ⟨front, last, hpieces, hconcat⟩ := ih
    rw [List.cons_append]
    cases hd : p d with
    | true =>
      refine ⟨[] :: front, last, ?_, ?_⟩
      · rw [pieces, if_pos hd, hpieces, List.cons_append]
      · rw [pieces, if_pos hd, hconcat, List.cons_append]
    | false =>
      cases front with
      | nil => exact ⟨[], d :: last, pieces_cons hd hpieces, pieces_cons hd hconcat⟩
      | cons first front =>
        exact ⟨(d :: first) :: front, last, pieces_cons hd hpieces, pieces_cons hd hconcat⟩

/-- So does a blank behind it. -/
theorem trim_pieces_concat (hp : ∀ c, isBlank c → p c = false) {c : Char} (hc : isBlank c)
    (cs : List Char) : (pieces p (cs ++ [c])).map trim = (pieces p cs).map trim := by
  obtain ⟨front, last, hpieces, hconcat⟩ := pieces_concat (hp c hc) cs
  rw [hpieces, hconcat, List.map_append, List.map_append, List.map_singleton, List.map_singleton,
    trim_append_blank last hc]

theorem trim_pieces_append (hp : ∀ c, isBlank c → p c = false) {blanks : List Char}
    (h : ∀ c ∈ blanks, isBlank c) (cs : List Char) :
    (pieces p (blanks ++ cs)).map trim = (pieces p cs).map trim := by
  induction blanks with
  | nil => rfl
  | cons c blanks ih =>
    rw [List.cons_append, trim_pieces_cons hp (h c List.mem_cons_self)]
    exact ih fun d hd => h d (List.mem_cons_of_mem _ hd)

/-- Trimming a text changes its pieces only by blanks. -/
theorem trim_pieces_trim (hp : ∀ c, isBlank c → p c = false) (cs : List Char) :
    (pieces p (trim cs)).map trim = (pieces p cs).map trim :=
  @apply_trim _ (fun cs => (pieces p cs).map trim) (fun _ cs hc => trim_pieces_cons hp hc cs)
    (fun _ cs hc => trim_pieces_concat hp hc cs) cs

end Pieces

end Text

end Pipework
