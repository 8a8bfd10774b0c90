import Mathlib
import Pipework.Text.Blank

/-!
# Cutting texts apart and joining them

Cutting at a separator undoes joining with it, as long as no part holds the separator, and trimming
leaves a text alone that has no blank at either end.
-/

namespace Pipework.Text

variable {p : Char → Bool} {part rest : List Char}

theorem pieces_ne_nil (p : Char → Bool) (text : List Char) : pieces p text ≠ [] := by
  induction text with
  | nil => simp [pieces]
  | cons c text ih =>
    simp only [pieces]
    split
    · simp
    · split <;> simp

theorem pieces_cons {c : Char} (hc : p c = false) {piece : List Char} {more : List (List Char)}
    (h : pieces p rest = piece :: more) : pieces p (c :: rest) = (c :: piece) :: more := by
  simp [pieces, hc, h]

/-- Whatever stands before the first separator belongs to the first piece. -/
theorem pieces_append (hpart : ∀ c ∈ part, p c = false) {piece : List Char}
    {more : List (List Char)} (h : pieces p rest = piece :: more) :
    pieces p (part ++ rest) = (part ++ piece) :: more := by
  induction part with
  | nil => exact h
  | cons c part ih =>
    have htail := ih fun d hd => hpart d (List.mem_cons_of_mem _ hd)
    exact pieces_cons (hpart c List.mem_cons_self) htail

theorem pieces_of_none (hpart : ∀ c ∈ part, p c = false) : pieces p part = [part] := by
  have hend : pieces p [] = [] :: [] := rfl
  simpa using pieces_append hpart hend

theorem pieces_cut (hpart : ∀ c ∈ part, p c = false) {sep : Char} (hsep : p sep) :
    pieces p (part ++ sep :: rest) = part :: pieces p rest := by
  have hrest : pieces p (sep :: rest) = [] :: pieces p rest := by simp [pieces, hsep]
  simpa using pieces_append hpart hrest

/-- Cutting undoes joining. -/
theorem pieces_join {sep : Char} {parts : List (List Char)} (hne : parts ≠ [])
    (h : ∀ part ∈ parts, sep ∉ part) : pieces (· == sep) (join [sep] parts) = parts := by
  have hfree : ∀ part ∈ parts, ∀ c ∈ part, (c == sep) = false := by
    intro part hpart c hc
    exact beq_false_of_ne fun hcsep => h part hpart (hcsep ▸ hc)
  induction parts with
  | nil => exact absurd rfl hne
  | cons part parts ih =>
    have hpart := hfree part List.mem_cons_self
    cases parts with
    | nil => exact pieces_of_none hpart
    | cons next parts =>
      have htail := ih (by simp) (fun q hq => h q (List.mem_cons_of_mem _ hq))
        fun q hq => hfree q (List.mem_cons_of_mem _ hq)
      show pieces (· == sep) (part ++ [sep] ++ join [sep] (next :: parts)) = _
      rw [List.append_assoc, List.singleton_append, pieces_cut hpart (beq_self_eq_true sep), htail]

/-- A text is cut at the first separator. -/
theorem cut?_append (hpart : ∀ c ∈ part, p c = false) {sep : Char} (hsep : p sep) :
    cut? p (part ++ sep :: rest) = some (part, rest) := by
  have hall : ∀ c ∈ part, (!p c) = true := fun c hc => by simp [hpart c hc]
  have hdrop : (part ++ sep :: rest).dropWhile (fun c => !p c) = sep :: rest := by
    rw [List.dropWhile_append_of_pos hall]
    simp [hsep]
  have htake : (part ++ sep :: rest).takeWhile (fun c => !p c) = part := by
    rw [List.takeWhile_append_of_pos hall]
    simp [hsep]
  simp only [cut?, hdrop, htake]

/-- Where a text is cut there is a separator. -/
theorem eq_of_cut? {cs before after : List Char} (h : cut? p cs = some (before, after)) :
    ∃ sep, p sep ∧ cs = before ++ sep :: after := by
  unfold cut? at h
  split at h
  · simp at h
  · rename_i sep rest hdrop
    simp only [Option.some.injEq, Prod.mk.injEq] at h
    obtain ⟨rfl, rfl⟩ := h
    have hsep := List.head?_dropWhile_not (fun c => !p c) cs
    rw [hdrop] at hsep
    refine ⟨sep, by simpa using hsep, ?_⟩
    rw [← hdrop, List.takeWhile_append_dropWhile]

/-- A text with a separator is cut, and its first piece is what comes before the cut. -/
theorem cut?_of_mem {cs : List Char} {sep : Char} (hmem : sep ∈ cs) (hsep : p sep) :
    ∃ before after, cut? p cs = some (before, after) := by
  unfold cut?
  split
  · rename_i hnil
    have hfree := List.dropWhile_eq_nil_iff.mp hnil sep hmem
    simp [hsep] at hfree
  · exact ⟨_, _, rfl⟩

/-- Before the cut there is no separator. -/
theorem free_of_cut? {cs before after : List Char} (h : cut? p cs = some (before, after)) :
    ∀ c ∈ before, p c = false := by
  unfold cut? at h
  split at h
  · simp at h
  · simp only [Option.some.injEq, Prod.mk.injEq] at h
    intro c hc
    rw [← h.1] at hc
    simpa using List.mem_takeWhile_imp hc

theorem pieces_of_cut? {cs before after : List Char} (h : cut? p cs = some (before, after)) :
    pieces p cs = before :: pieces p after := by
  have hbefore := free_of_cut? h
  obtain ⟨sep, hsep, rfl⟩ := eq_of_cut? h
  exact pieces_cut hbefore hsep

theorem piecesAt_of_cutAt? {sep : Char} {text before after : String}
    (h : cutAt? sep text = some (before, after)) :
    piecesAt sep text = before :: piecesAt sep after := by
  obtain ⟨⟨cs, ds⟩, hcut, heq⟩ := Option.map_eq_some_iff.mp h
  simp only [Prod.mk.injEq] at heq
  obtain ⟨rfl, rfl⟩ := heq
  rw [piecesAt, pieces_of_cut? hcut, List.map_cons, piecesAt, String.toList_ofList]

theorem eq_of_cutAt? {sep : Char} {text before after : String}
    (h : cutAt? sep text = some (before, after)) : text = before ++ String.singleton sep ++ after := by
  obtain ⟨⟨cs, ds⟩, hcut, heq⟩ := Option.map_eq_some_iff.mp h
  obtain ⟨c, hc, hchars⟩ := Text.eq_of_cut? hcut
  obtain rfl : c = sep := by simpa using hc
  simp only [Prod.mk.injEq] at heq
  obtain ⟨rfl, rfl⟩ := heq
  apply String.toList_inj.mp
  simp [hchars]

theorem join_ne_nil {sep : List Char} {parts : List (List Char)} {part : List Char}
    (hpart : part ∈ parts) (hne : part ≠ []) : join sep parts ≠ [] := by
  induction parts with
  | nil => simp at hpart
  | cons first parts ih =>
    cases parts with
    | nil =>
      rw [List.mem_singleton] at hpart
      subst hpart
      exact hne
    | cons next parts =>
      show first ++ sep ++ join sep (next :: parts) ≠ []
      rcases List.mem_cons.mp hpart with rfl | hpart
      · simp [hne]
      · simp [ih hpart]

/-! ## Trimming -/

/-- The text neither begins nor ends with a blank. -/
def Tight (cs : List Char) : Prop := cs.head?.all (!isBlank ·) ∧ cs.getLast?.all (!isBlank ·)

theorem trim_tight {cs : List Char} (h : Tight cs) : trim cs = cs := by
  obtain ⟨hhead, hlast⟩ := h
  have hleft : trimLeft cs = cs := by
    cases cs with
    | nil => rfl
    | cons c cs =>
      have hc : isBlank c = false := by simpa using hhead
      rw [trimLeft, List.dropWhile_cons, hc, if_neg Bool.false_ne_true]
  have hright : trimRight cs = cs := by
    rw [trimRight]
    rw [← List.head?_reverse] at hlast
    cases hcs : cs.reverse with
    | nil => simpa using hcs.symm
    | cons c rest =>
      rw [hcs] at hlast
      have hc : isBlank c = false := by simpa using hlast
      rw [List.dropWhile_cons, hc, if_neg Bool.false_ne_true, ← hcs, List.reverse_reverse]
  rw [trim, hleft, hright]

/-- Two tight texts around a character that is no blank are a tight text. -/
theorem Tight.append {cs ds : List Char} (hcs : Tight cs) (hds : Tight ds) {c : Char}
    (hc : isBlank c = false) : Tight (cs ++ c :: ds) := by
  constructor
  · cases cs with
    | nil => simp [hc]
    | cons d cs => simpa using hcs.1
  · cases hlast : ds.getLast? with
    | none => simp [List.getLast?_append, List.getLast?_cons, hlast, hc]
    | some d =>
      have hd := hds.2
      rw [hlast] at hd
      simpa [List.getLast?_append, List.getLast?_cons, hlast] using hd

end Pipework.Text
