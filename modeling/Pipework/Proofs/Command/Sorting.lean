import Pipework.Proofs.Command.Feeding

/-!
# Duplicates and order

`uniq` and `sort` look at items as they are shown, and different items may be shown alike. For a text,
`uniq` keeps the first of the items that are shown so (`filter_firsts`), and `sort` leaves them in their
order (`filter_sorted`). A list in order is known when it is known which items it has for each text
(`eq_of_filter_eq`), so it makes no difference which of the two commands comes first
(`firsts_sorted`).
-/

namespace Pipework

namespace Command

variable {items items' seen : List Value} {text : String}

/-! ## Without duplicates -/

/-- The places of the items that are shown as none before is. -/
def firstPlaces (items : List Value) : List (Fin items.length) :=
  (List.finRange items.length).filter fun i => ∀ j < i, (items.get j).display ≠ (items.get i).display

/-- The items that are left are those that are shown neither as one that has been seen nor as one
before. -/
theorem firsts_eq (seen : List String) (items : List Value) :
    firsts seen items = ((List.finRange items.length).filter fun i =>
      (items.get i).display ∉ seen ∧ ∀ j < i, (items.get j).display ≠ (items.get i).display).map
        items.get := by
  induction items generalizing seen with
  | nil => rfl
  | cons v items ih =>
    -- the first place, and those after it
    have hplaces : ∀ p : Fin (v :: items).length → Bool,
        ((List.finRange (v :: items).length).filter p).map (v :: items).get =
          (if p 0 then [v] else []) ++
            ((List.finRange items.length).filter (p ∘ Fin.succ)).map items.get := by
      intro p
      rw [show List.finRange (v :: items).length = _ from List.finRange_succ, List.filter_cons,
        List.filter_map]
      split <;> simp [Function.comp_def]
    have hlater : ∀ i : Fin items.length,
        (((v :: items).get i.succ).display ∉ seen ∧
          ∀ j < i.succ, ((v :: items).get j).display ≠ ((v :: items).get i.succ).display) ↔
        (items.get i).display ∉ v.display :: seen ∧
          ∀ j < i, (items.get j).display ≠ (items.get i).display := by
      intro i
      rw [Fin.forall_fin_succ, List.mem_cons, not_or]
      constructor
      · rintro ⟨hseen, hfirst, hrest⟩
        exact ⟨⟨fun h => hfirst i.succ_pos h.symm, hseen⟩,
          fun j hj => hrest j (Fin.succ_lt_succ_iff.mpr hj)⟩
      · rintro ⟨⟨hfirst, hseen⟩, hrest⟩
        exact ⟨hseen, fun _ h => hfirst h.symm, fun j hj => hrest j (Fin.succ_lt_succ_iff.mp hj)⟩
    have htail : (fun i => decide (((v :: items).get i).display ∉ seen ∧
          ∀ j < i, ((v :: items).get j).display ≠ ((v :: items).get i).display)) ∘ Fin.succ =
        fun i => decide ((items.get i).display ∉ v.display :: seen ∧
          ∀ j < i, (items.get j).display ≠ (items.get i).display) :=
      funext fun i => decide_eq_decide.mpr (hlater i)
    rw [hplaces, htail, ← ih, firsts]
    by_cases hseen : v.display ∈ seen
    · -- it is seen already that something is shown like the first item
      have hsame : firsts (v.display :: seen) items = firsts seen items := by
        rw [ih, ih]
        refine congrArg _ (List.filter_congr fun i _ => decide_eq_decide.mpr ?_)
        refine and_congr_left fun _ => not_congr ?_
        rw [List.mem_cons, or_iff_right_of_imp]
        rintro hshown
        rwa [hshown]
      simp [hseen, hsame]
    · simp [hseen]

theorem firsts_firstPlaces (items : List Value) :
    firsts [] items = (firstPlaces items).map items.get := by
  rw [firsts_eq, firstPlaces]
  simp only [List.not_mem_nil, not_false_eq_true, true_and]

theorem sublist_firsts (seen : List String) (items : List Value) : (firsts seen items).Sublist items := by
  induction items generalizing seen with
  | nil => exact .slnil
  | cons v items ih =>
    rw [firsts]
    split
    · exact (ih seen).cons v
    · exact (ih (v.display :: seen)).cons_cons v

/-- Of the items that are shown as a text the first is left. -/
theorem filter_firsts (seen : List String) (items : List Value) (text : String) :
    (firsts seen items).filter (·.display == text) =
      if text ∈ seen then [] else (items.find? (·.display == text)).toList := by
  induction items generalizing seen with
  | nil => simp [firsts]
  | cons v items ih =>
    rw [firsts]
    by_cases hseen : v.display ∈ seen <;> by_cases htext : v.display = text
    · subst htext
      simp [hseen, ih]
    · simp [hseen, ih, htext]
    · subst htext
      simp [hseen, ih]
    · simp [hseen, ih, htext, Ne.symm htext]

/-! ## In order -/

section Sorted

/-- An item beside the text it is shown as stands before another if its text does. -/
def byText (a b : String × Value) : Bool := a.1 ≤ b.1

theorem byText_trans (a b c : String × Value) (hab : byText a b = true) (hbc : byText b c = true) :
    byText a c = true :=
  decide_eq_true (String.le_trans (of_decide_eq_true hab) (of_decide_eq_true hbc))

theorem byText_total (a b : String × Value) : (byText a b || byText b a) = true := by
  simpa [byText] using String.le_total a.1 b.1

theorem perm_sorted (items : List Value) : (sorted items).Perm items := by
  have hperm := (List.mergeSort_perm (items.map fun v => (v.display, v)) byText).map (·.2)
  rwa [List.map_map, List.map_id''] at hperm
  exact fun _ => rfl

theorem pairwise_sorted (items : List Value) :
    (sorted items).Pairwise fun v w => v.display ≤ w.display := by
  -- each item stands beside the text it is shown as
  have hbeside : ∀ pair ∈ (items.map fun v => (v.display, v)).mergeSort byText,
      pair.1 = pair.2.display := by
    intro pair hpair
    obtain ⟨v, -, rfl⟩ := List.mem_map.mp (List.mem_mergeSort.mp hpair)
    rfl
  have hpairs := List.pairwise_mergeSort byText_trans byText_total
    (items.map fun v => (v.display, v))
  refine List.pairwise_map.mpr (hpairs.imp_of_mem fun {a b} ha hb hab => ?_)
  rw [← hbeside a ha, ← hbeside b hb]
  exact of_decide_eq_true hab

/-- Items that are shown alike stay in their order. -/
theorem filter_sorted (items : List Value) (text : String) :
    (sorted items).filter (·.display == text) = items.filter (·.display == text) := by
  set alike := items.filter (·.display == text) with halike
  have hordered : (alike.map fun v => (v.display, v)).Pairwise fun a b => byText a b = true := by
    refine List.pairwise_map.mpr (List.pairwise_of_forall_mem_list fun v hv w hw => ?_)
    have hv := beq_iff_eq.mp (List.mem_filter.mp hv).2
    have hw := beq_iff_eq.mp (List.mem_filter.mp hw).2
    exact decide_eq_true (hv.trans hw.symm).le
  -- those that are in order already are not moved
  have hkept : alike.Sublist (sorted items) := by
    have hpairs : (alike.map fun v => (v.display, v)).Sublist (items.map fun v => (v.display, v)) :=
      List.filter_sublist.map _
    have hsub := (List.sublist_mergeSort byText_trans byText_total hordered hpairs).map (·.2)
    rwa [List.map_map, List.map_id''] at hsub
    exact fun _ => rfl
  have hfiltered := hkept.filter (·.display == text)
  rw [halike, List.filter_filter] at hfiltered
  simp only [Bool.and_self] at hfiltered
  refine (hfiltered.eq_of_length ?_).symm
  exact ((perm_sorted items).filter _).length_eq.symm

end Sorted

/-! ## Both -/

/-- A list in order is known when it is known which items it has for each text. -/
theorem eq_of_filter_eq (hitems : items.Pairwise fun v w => v.display ≤ w.display)
    (hitems' : items'.Pairwise fun v w => v.display ≤ w.display)
    (hsame : ∀ text, items.filter (·.display == text) = items'.filter (·.display == text)) :
    items = items' := by
  induction items generalizing items' with
  | nil =>
    cases items' with
    | nil => rfl
    | cons w items' => simpa using hsame w.display
  | cons v items ih =>
    cases items' with
    | nil => simpa using hsame v.display
    | cons w items' =>
      obtain ⟨hfirst, hrest⟩ := List.pairwise_cons.mp hitems
      obtain ⟨hfirst', hrest'⟩ := List.pairwise_cons.mp hitems'
      -- the first items are shown alike, since each of the texts occurs in both lists
      have hmem : ∃ u ∈ w :: items', u.display = v.display := by
        have hin : v ∈ (w :: items').filter (·.display == v.display) := by
          rw [← hsame]
          simp
        exact ⟨v, (List.mem_filter.mp hin).1, rfl⟩
      have hmem' : ∃ u ∈ v :: items, u.display = w.display := by
        have hin : w ∈ (v :: items).filter (·.display == w.display) := by
          rw [hsame]
          simp
        exact ⟨w, (List.mem_filter.mp hin).1, rfl⟩
      have hle : w.display ≤ v.display := by
        obtain ⟨u, hu, hshown⟩ := hmem
        rcases List.mem_cons.mp hu with rfl | hu
        · exact hshown.le
        · exact hshown ▸ hfirst' u hu
      have hge : v.display ≤ w.display := by
        obtain ⟨u, hu, hshown⟩ := hmem'
        rcases List.mem_cons.mp hu with rfl | hu
        · exact hshown.le
        · exact hshown ▸ hfirst u hu
      have hshown : v.display = w.display := String.le_antisymm hge hle
      have hheads := hsame v.display
      rw [List.filter_cons_of_pos (by simp), List.filter_cons_of_pos (by simp [hshown])] at hheads
      obtain ⟨rfl, -⟩ := List.cons.inj hheads
      refine congrArg _ (ih hrest hrest' fun text => ?_)
      have htails := hsame text
      by_cases htext : v.display = text
      · rw [List.filter_cons_of_pos (by simpa using htext),
          List.filter_cons_of_pos (by simpa using htext)] at htails
        exact (List.cons.inj htails).2
      · rwa [List.filter_cons_of_neg (by simpa using htext),
          List.filter_cons_of_neg (by simpa using htext)] at htails

/-- **Duplicates may be dropped before or after sorting.** -/
theorem firsts_sorted (items : List Value) : firsts [] (sorted items) = sorted (firsts [] items) := by
  refine eq_of_filter_eq ((pairwise_sorted items).sublist (sublist_firsts [] _)) (pairwise_sorted _)
    fun text => ?_
  have hfirst : (sorted items).find? (·.display == text) = items.find? (·.display == text) := by
    rw [← List.head?_filter, filter_sorted, List.head?_filter]
  rw [filter_sorted, filter_firsts, filter_firsts, hfirst]

/-! ## Lines -/

section Lines

variable {m : Machine} {front : List Stage} {xs : List Value} {uniq sort : String}

/-- **`uniq` and `sort` agree.** Whatever stands before them in their lines, `uniq` writes the first of
the items that are shown alike, `sort` writes all items in the order of the texts they are shown as and
leaves those that are shown alike in their order, and `sort | uniq` and `uniq | sort` write the same. -/
theorem uniq_agrees_with_sort (hm : m.Prompt) (hfront : m.Supplies front xs) (huniq : m.Calls uniq "uniq")
    (hsort : m.Calls sort "sort") (args : Option String) :
    let items := wordItems args ++ xs
    (∀ line, Stage.parseLine line = front ++ [⟨uniq, args⟩] → ∃ out, m.Outputs line out ∧
      out = (firstPlaces items).map items.get ∧
      ∀ text, out.filter (·.display == text) = (items.find? (·.display == text)).toList) ∧
    (∀ line, Stage.parseLine line = front ++ [⟨sort, args⟩] → ∃ out, m.Outputs line out ∧
      out.Perm items ∧ out.Pairwise (fun v w => v.display ≤ w.display) ∧
      ∀ text, out.filter (·.display == text) = items.filter (·.display == text)) ∧
    ∀ line line', Stage.parseLine line = front ++ [⟨sort, args⟩, ⟨uniq, none⟩] →
      Stage.parseLine line' = front ++ [⟨uniq, args⟩, ⟨sort, none⟩] →
      ∃ out, m.Outputs line out ∧ m.Outputs line' out := by
  intro items
  have hdrops : ∀ args, m.Maps ⟨uniq, args⟩ fun xs => firsts [] (wordItems args ++ xs) :=
    fun args => huniq.maps rfl (computes_uniq args)
  have hsorts : ∀ args, m.Maps ⟨sort, args⟩ fun xs => sorted (wordItems args ++ xs) :=
    fun args => hsort.maps rfl (computes_sort args)
  refine ⟨fun line hline => ⟨firsts [] items, ?_, firsts_firstPlaces items, fun text => ?_⟩,
    fun line hline => ⟨sorted items, ?_, perm_sorted items, pairwise_sorted items,
      filter_sorted items⟩, fun line line' hline hline' => ⟨sorted (firsts [] items), ?_, ?_⟩⟩
  · exact hfront.outputs hm (.cons (hdrops args) .nil) hline
  · rw [filter_firsts, if_neg List.not_mem_nil]
  · exact hfront.outputs hm (.cons (hsorts args) .nil) hline
  · rw [← firsts_sorted]
    exact hfront.outputs hm (.cons (hsorts args) (.cons (hdrops none) .nil)) hline
  · exact hfront.outputs hm (.cons (hdrops args) (.cons (hsorts none) .nil)) hline'

/-- A text and a list that is shown like it. -/
theorem uniq_agrees_with_sort_alike :
    let m := Machine.ofShell {}
    m.Outputs "echo a | collect | uniq b a" [.text "b", .text "a"] ∧
      (∃ out, m.Outputs "echo a | collect | sort b a" out ∧
        out.filter (·.display == "a") = [.text "a", .list [.text "a"]]) ∧
      ∃ out, m.Outputs "echo a | collect | sort b a | uniq" out ∧
        m.Outputs "echo a | collect | uniq b a | sort" out := by
  intro m
  have hcalls : ∀ name, (Registry.builtin.lookup? name).map (·.name) = some name → m.Calls name name :=
    fun name hname => Machine.calls_builtin rfl rfl hname
  have hfront : m.Supplies [⟨"echo", some "a"⟩, ⟨"collect", none⟩] [.list [.text "a"]] :=
    (Machine.supplies_nil.concat ((hcalls "echo" (by decide +kernel)).maps rfl (computes_echo _))).concat
      ((hcalls "collect" (by decide +kernel)).maps rfl (computes_collect none))
  have hwords : wordItems (some "b a") = [.text "b", .text "a"] := by rfl
  have hlist : (Value.list [.text "a"]).display = "a" := by decide +kernel
  have htext : ∀ s, (Value.text s).display = s := fun s => by rw [Value.display]
  obtain ⟨huniq, hsort, hboth⟩ := uniq_agrees_with_sort (Machine.prompt_ofShell Registry.named_builtin)
    hfront (hcalls "uniq" (by decide +kernel)) (hcalls "sort" (by decide +kernel)) (some "b a")
  refine ⟨?_, ?_, hboth _ _ (by decide +kernel) (by decide +kernel)⟩
  · obtain ⟨out, hout, rfl, -⟩ := huniq "echo a | collect | uniq b a" (by decide +kernel)
    rw [← firsts_firstPlaces, hwords] at hout
    simpa [firsts, hlist, htext] using hout
  · obtain ⟨out, hout, -, -, hfilter⟩ := hsort "echo a | collect | sort b a" (by decide +kernel)
    refine ⟨out, hout, ?_⟩
    rw [hfilter, hwords]
    simp [hlist, htext]

end Lines

end Command

end Pipework
