import Pipework.Proofs.Text.Keyed
import Pipework.Proofs.Text.Segments
import Pipework.Proofs.Toml.Strings
import Pipework.Toml.Reader

/-!
# TOML documents read back

What `Toml.document` writes is read by `Toml.read?` as the same sections with the same entries
(`read?_document`), for the values that a configuration is written with (`Plain`): strings, natural
numbers and arrays of strings.

A line, or the lines of an array, lead from one state of the document to another (`Advances`), and the
states are followed from line to line. The readers count their steps: three for each character of what
is left are enough, which is the allowance that a document is read with.
-/

namespace Pipework.Toml

variable {rest : List Char}

/-! ## Numbers -/

section Numbers

open Number

theorem guard_bind {α : Type} {p : Prop} [Decidable p] (h : p) (x : Option α) :
    ((guard p : Option Unit).bind fun _ => x) = x := by
  rw [guard, if_pos h]
  rfl

theorem decimalDigits?_toDigits (n : Nat) :
    decimalDigits? (Nat.toDigits 10 n) = some (Nat.toDigits 10 n) := by
  have hpieces : Text.pieces (· == '_') (Nat.toDigits 10 n) = [Nat.toDigits 10 n] :=
    Text.pieces_of_none fun c hc => beq_false_of_ne fun h => Nat.underscore_not_in_toDigits (h ▸ hc)
  have hall : (Nat.toDigits 10 n).all isDigit := List.all_eq_true.mpr fun _ => isDigit_of_mem_toDigits
  have hread : digits? isDigit (Nat.toDigits 10 n) = some (Nat.toDigits 10 n) := by
    simp [digits?, hpieces, hall, Nat.toDigits_ne_nil]
  have hzero : ((Nat.toDigits 10 n).length == 1 || (Nat.toDigits 10 n).head? != some '0') := by
    obtain rfl | hn := Nat.eq_zero_or_pos n
    · rfl
    · simp [head?_toDigits hn]
  rw [decimalDigits?, hread, Option.bind_eq_bind, Option.bind_some]
  exact guard_bind hzero _

/-- An integer without sign and base is read by its digits. -/
theorem integer?_toDigits {n : Nat} (hn : n ≤ maxInteger) :
    integer? (Nat.toDigits 10 n) = some (n : Int) := by
  have hdigits : ∀ c ∈ Nat.toDigits 10 n, isDigit c = true := fun _ => isDigit_of_mem_toDigits
  have hvalue := digitsValue_toDigits n
  have hread := decimalDigits?_toDigits n
  have hmin : -(Int.pow 2 127) ≤ 0 := by decide
  have hmax : (maxInteger : Int) < Int.pow 2 128 := by decide
  have hlow : -(Int.pow 2 127) ≤ (n : Int) := hmin.trans (Int.natCast_nonneg n)
  have hhigh : (n : Int) < Int.pow 2 128 := Int.lt_of_le_of_lt (Int.ofNat_le.mpr hn) hmax
  have hin : (decide (-(Int.pow 2 127) ≤ (n : Int)) && decide ((n : Int) < Int.pow 2 128)) = true := by
    rw [decide_eq_true hlow, decide_eq_true hhigh, Bool.and_self]
  generalize Nat.toDigits 10 n = cs at hdigits hvalue hread ⊢
  -- neither a sign nor the letter of a base is a digit, so the last equation applies
  have hfirst : ∀ {c : Char} {rest : List Char}, cs = c :: rest → isDigit c = true := by
    rintro c rest rfl
    exact hdigits c List.mem_cons_self
  have hsecond : ∀ {c d : Char} {rest : List Char}, cs = c :: d :: rest → isDigit d = true := by
    rintro c d rest rfl
    exact hdigits d (List.mem_cons_of_mem _ List.mem_cons_self)
  rw [integer?, hread, Option.map_some, hvalue, Option.bind_eq_bind, Option.bind_some]
  · exact guard_bind hin _
  iterate 3 · exact fun _ h => absurd (hsecond h) (by decide)
  iterate 2 · exact fun _ h => absurd (hfirst h) (by decide)

theorem endsScalar_digit {c : Char} (hc : isDigit c = true) : endsScalar c = false := by
  by_contra hend
  simp only [endsScalar, isGap, Bool.not_eq_false, Bool.or_eq_true, beq_iff_eq,
    List.contains_eq_mem, List.mem_cons, List.not_mem_nil, or_false, decide_eq_true_eq] at hend
  rcases hend with (rfl | rfl) | rfl | rfl | rfl | rfl | rfl | rfl | rfl | rfl | rfl | rfl | rfl <;>
    exact absurd hc (by decide)

/-- A number at the end of a line is read by its digits. -/
theorem readValue_natural {fuel depth n : Nat} (hn : n ≤ maxInteger) :
    readValue (fuel + 1) depth ((toString n).toList ++ '\n' :: rest) =
      some (.integer n, '\n' :: rest) := by
  have hdigits : ∀ c ∈ Nat.toDigits 10 n, isDigit c = true := fun _ => isDigit_of_mem_toDigits
  have hread := integer?_toDigits hn
  rw [Nat.toString_eq_repr, Nat.toList_repr]
  obtain ⟨c, cs, hcs⟩ := List.exists_cons_of_ne_nil (Nat.toDigits_ne_nil (n := n) (b := 10))
  rw [hcs] at hdigits hread ⊢
  have hbare : bareText (c :: cs ++ '\n' :: rest) = (c :: cs, '\n' :: rest) := by
    have hkept : ∀ d ∈ c :: cs, (!endsScalar d) = true := fun d hd => by
      rw [endsScalar_digit (hdigits d hd), Bool.not_false]
    have hend : endsScalar '\n' = true := by decide
    unfold bareText
    rw [List.takeWhile_append_of_pos hkept, List.dropWhile_append_of_pos hkept]
    simp [hend]
  have hother : ∀ {d : Char} {ds : List Char}, isDigit d = false → c :: cs ≠ d :: ds := by
    intro d ds hd heq
    obtain ⟨rfl, -⟩ := List.cons.inj heq
    exact absurd (hdigits c List.mem_cons_self) (by simp [hd])
  have hvalue : bareValue? (c :: cs) = some (.integer n) := by
    rw [bareValue?, beq_false_of_ne (hother (by decide)), beq_false_of_ne (hother (by decide)), hread]
    rfl
  have hfirst : ∀ {d : Char} {ds : List Char}, isDigit d = false → c :: (cs ++ '\n' :: rest) ≠ d :: ds := by
    intro d ds hd heq
    obtain ⟨rfl, -⟩ := List.cons.inj heq
    exact absurd (hdigits c List.mem_cons_self) (by simp [hd])
  rw [List.cons_append] at hbare ⊢
  rw [readValue, hbare]
  · simp only [hvalue, Option.map_some]
  all_goals exact fun _ => hfirst (by decide)

end Numbers

/-! ## Values -/

theorem stringText_eq_cons (cs : List Char) :
    ∃ tail, stringText cs = '"' :: tail ∨ stringText cs = '\'' :: tail := by
  unfold stringText
  dsimp only
  split
  · exact ⟨_, .inl rfl⟩
  split
  · exact ⟨_, .inr rfl⟩
  split
  · exact ⟨_, .inl rfl⟩
  split
  · exact ⟨_, .inr rfl⟩
  split <;> exact ⟨_, .inl rfl⟩

theorem readValue_string {fuel depth : Nat} (s : String) (hrest : Unquoted rest) :
    readValue (fuel + 1) depth (stringText s.toList ++ rest) = some (.string s, rest) := by
  have hread := readString_stringText s.toList hrest
  obtain ⟨tail, htext | htext⟩ := stringText_eq_cons s.toList
  all_goals
    rw [htext, List.cons_append] at hread ⊢
    simp only [readValue, hread, Option.map_some, String.ofList_toList]

theorem skipLayout_string (cs : List Char) :
    skipLayout false (stringText cs ++ rest) = some (stringText cs ++ rest) := by
  obtain ⟨tail, htext | htext⟩ := stringText_eq_cons cs
  all_goals
    rw [htext, List.cons_append, skipLayout]
    · rfl
    · simp
    · simp

/-- A string in an array is read, and the array ends after it or goes on. -/
theorem readItems_string {fuel depth : Nat} {cs : List Char} {s : String} (hrest : Unquoted rest)
    (hskip : skipLayout false cs = some (stringText s.toList ++ rest)) :
    (∀ tail, skipLayout false rest = some (']' :: tail) →
      readItems (fuel + 2) depth cs = some ([.string s], tail)) ∧
    ∀ tail, skipLayout false rest = some (',' :: tail) →
      readItems (fuel + 2) depth cs =
        (readItems (fuel + 1) depth tail).map fun (items, rest) => (.string s :: items, rest) := by
  have hvalue : readValue (fuel + 1) depth (stringText s.toList ++ rest) = some (.string s, rest) :=
    readValue_string s hrest
  have hfirst : ∀ tail, stringText s.toList ++ rest ≠ ']' :: tail := by
    intro tail heq
    obtain ⟨text, htext | htext⟩ := stringText_eq_cons s.toList
    all_goals
      rw [htext] at heq
      exact absurd (List.cons.inj heq).1 (by decide)
  rw [readItems, hskip]
  split
  · rename_i heq
    exact absurd (Option.some.inj heq) (hfirst _)
  · rename_i heq
    rw [← Option.some.inj heq, hvalue]
    simp only [Option.bind_eq_bind, Option.bind_some]
    refine ⟨fun tail hend => by simp only [hend], fun tail hmore => ?_⟩
    simp only [hmore]
    cases readItems (fuel + 1) depth tail <;> rfl
  · rename_i heq
    cases heq

/-- An element of an array on a line of its own. -/
def itemLine (s : String) : List Char := ' ' :: ' ' :: ' ' :: ' ' :: (stringText s.toList ++ [',', '\n'])

/-- The elements of an array, each on a line of its own, are read up to the closing bracket. -/
theorem readItems_lines {depth : Nat} (items : List String) {fuel : Nat}
    (hfuel : (items.flatMap itemLine).length < fuel) :
    readItems fuel depth ('\n' :: (items.flatMap itemLine ++ ']' :: rest)) =
      some (items.map .string, rest) := by
  induction items generalizing fuel with
  | nil =>
    obtain ⟨fuel, rfl⟩ := Nat.exists_eq_add_of_lt hfuel
    rfl
  | cons s items ih =>
    rw [List.flatMap_cons, List.length_append] at hfuel
    have hlength : 6 ≤ (itemLine s).length := by simp [itemLine]
    obtain ⟨fuel, rfl⟩ : ∃ n, fuel = n + 2 := ⟨fuel - 2, by omega⟩
    have hrest : Unquoted (',' :: '\n' :: (items.flatMap itemLine ++ ']' :: rest)) := by
      constructor <;> simp
    have hskip : skipLayout false ('\n' :: ((s :: items).flatMap itemLine ++ ']' :: rest)) =
        some (stringText s.toList ++ ',' :: '\n' :: (items.flatMap itemLine ++ ']' :: rest)) := by
      simp only [List.flatMap_cons, itemLine, List.cons_append, List.append_assoc, List.nil_append]
      exact skipLayout_string s.toList
    rw [(readItems_string hrest hskip).2 _ rfl, ih (by omega)]
    rfl

/-- The values that a configuration is written with. -/
inductive Plain : Toml → Prop
  /-- A string. -/
  | string (s : String) : Plain (.string s)
  /-- A natural number that has a TOML form. -/
  | natural {n : Nat} (h : n ≤ maxInteger) : Plain (.integer n)
  /-- An array of strings. -/
  | texts (items : List String) : Plain (.array (items.map .string))

theorem inlineItems_strings (items : List String) :
    inlineItems (items.map .string) = items.map fun s => .ofList (stringText s.toList) := by
  induction items with
  | nil => rfl
  | cons s items ih => rw [List.map_cons, inlineItems, ih, List.map_cons, inline]

/-- How an array of two or more strings is written. -/
theorem toList_pretty_texts (a b : String) (items : List String) :
    (pretty (.array ((a :: b :: items).map .string))).toList =
      '[' :: '\n' :: ((a :: b :: items).flatMap itemLine ++ [']']) := by
  have hlines : ((inlineItems ((a :: b :: items).map .string)).map fun s => "    " ++ s ++ ",\n").flatMap
      String.toList = (a :: b :: items).flatMap itemLine := by
    rw [inlineItems_strings, List.flatMap_map, List.flatMap_map]
    refine List.flatMap_congr fun s _ => ?_
    simp [itemLine]
  rw [List.map_cons, List.map_cons, pretty, ← List.map_cons, ← List.map_cons]
  simp only [String.toList_append, String.toList_join, hlines]
  rfl

/-- **A written value is read back** where its line ends. -/
theorem Plain.readValue {v : Toml} (h : v.Plain) {fuel depth : Nat}
    (hfuel : v.pretty.toList.length + 2 ≤ fuel) :
    readValue fuel (depth + 1) (v.pretty.toList ++ '\n' :: rest) = some (v, '\n' :: rest) := by
  have hrest : Unquoted ('\n' :: rest) := by constructor <;> simp
  obtain ⟨fuel, rfl⟩ : ∃ n, fuel = n + 1 := ⟨fuel - 1, by omega⟩
  cases h with
  | string s =>
    simp only [pretty, inline, String.toList_ofList]
    exact readValue_string s hrest
  | @natural n hn =>
    have htext : (pretty (.integer (n : Int))).toList = (toString n).toList := rfl
    rw [htext]
    exact readValue_natural hn
  | texts items =>
    cases items with
    | nil =>
      obtain ⟨fuel, rfl⟩ : ∃ n, fuel = n + 1 := ⟨fuel - 1, by omega⟩
      rfl
    | cons a items =>
      cases items with
      | nil =>
        have htext : (pretty (.array ([a].map .string))).toList =
            '[' :: (stringText a.toList ++ [']']) := by
          simp [pretty, inline, inlineItems, joined, Text.join]
        have hclose : Unquoted (']' :: '\n' :: rest) := by constructor <;> simp
        rw [htext] at hfuel ⊢
        simp only [List.length_cons, List.length_append] at hfuel
        obtain ⟨fuel, rfl⟩ : ∃ n, fuel = n + 2 := ⟨fuel - 2, by omega⟩
        simp only [List.cons_append, List.append_assoc, List.nil_append]
        rw [Toml.readValue, if_neg (Nat.succ_ne_zero depth),
          (readItems_string hclose (skipLayout_string a.toList)).1 _ rfl]
        rfl
      | cons b items =>
        rw [toList_pretty_texts] at hfuel ⊢
        simp only [List.length_cons, List.length_append] at hfuel
        simp only [List.cons_append, List.append_assoc, List.nil_append]
        have hitems := @readItems_lines ('\n' :: rest) depth (a :: b :: items) fuel (by omega)
        rw [Toml.readValue, if_neg (Nat.succ_ne_zero depth), Nat.add_sub_cancel, hitems]
        rfl

/-! ## Tables under construction -/

namespace Part

theorem finishEntries_insert (key : String) (p : Part) (entries : Keyed Part) :
    finishEntries (entries.insert key p) = Keyed.insert key p.finish (finishEntries entries) := by
  induction entries with
  | nil => rfl
  | cons first entries ih =>
    obtain ⟨k, q⟩ := first
    simp only [Keyed.insert, finishEntries]
    split
    · rfl
    · split
      · rfl
      · rw [finishEntries, ih]

theorem finishEntries_foldl {α : Type} (part : α → Part) (entries : List (String × α))
    (table : Keyed Part) :
    finishEntries (entries.foldl (fun table e => Keyed.insert e.1 (part e.2) table) table) =
      entries.foldl (fun table e => Keyed.insert e.1 (part e.2).finish table) (finishEntries table) := by
  induction entries generalizing table with
  | nil => rfl
  | cons e entries ih => rw [List.foldl_cons, ih, finishEntries_insert, List.foldl_cons]

theorem openTable_fresh {name : String} {root : Keyed Part} (h : root.find? name = none) :
    openTable [name] root = some (root.insert name (.table .header [])) := by
  simp [openTable, change, h]

/-- A key that is not in the table of the last header is entered there. -/
theorem enter_fresh {name key : String} {v : Toml} {root inner : Keyed Part}
    (hkey : inner.find? key = none) :
    change .implied (enter [key] v) [name] .header (root.insert name (.table .header inner)) =
      some (root.insert name (.table .header (inner.insert key (.value v)))) := by
  have hname : (root.insert name (.table .header inner)).find? name = some (.table .header inner) := by
    rw [Keyed.find?_insert, if_pos rfl]
  simp [change, hname, enter, hkey, Keyed.insert_insert, guard]

end Part

/-! ## Lines -/

/-- Reading a text from the beginning of a line leads from one state of the document to another, and
leaves steps enough for what follows. -/
def Advances (text : List Char) (doc doc' : Document) : Prop :=
  ∀ fuel rest, 3 * (text ++ rest).length + 3 ≤ fuel →
    ∃ left, 3 * rest.length + 3 ≤ left ∧ readLines fuel doc (text ++ rest) = readLines left doc' rest

namespace Advances

variable {text text' : List Char} {doc doc' doc'' : Document}

theorem nil (doc : Document) : Advances [] doc doc := fun fuel _ hfuel => ⟨fuel, hfuel, rfl⟩

theorem trans (h : Advances text doc doc') (h' : Advances text' doc' doc'') :
    Advances (text ++ text') doc doc'' := by
  intro fuel rest hfuel
  rw [List.append_assoc] at hfuel ⊢
  obtain ⟨left, hleft, heq⟩ := h _ _ hfuel
  obtain ⟨left', hleft', heq'⟩ := h' _ _ hleft
  exact ⟨left', hleft', heq.trans heq'⟩

/-- One line that is read ends at its line feed. -/
theorem of_readLine (hskip : ∀ rest, skipLayout false (text ++ '\n' :: rest) = some (text ++ '\n' :: rest))
    (hne : text ≠ [])
    (h : ∀ fuel rest, text.length + 2 ≤ fuel →
      readLine fuel doc (text ++ '\n' :: rest) = some (doc', '\n' :: rest)) :
    Advances (text ++ ['\n']) doc doc' := by
  intro fuel rest hfuel
  simp only [List.append_assoc, List.singleton_append, List.length_append, List.length_cons] at hfuel ⊢
  obtain ⟨fuel, rfl⟩ : ∃ n, fuel = n + 1 := ⟨fuel - 1, by omega⟩
  obtain ⟨c, tail, rfl⟩ := List.exists_cons_of_ne_nil hne
  refine ⟨fuel, by omega, ?_⟩
  have hline := h fuel rest (by omega)
  have hskip := hskip rest
  rw [List.cons_append] at hskip hline ⊢
  rw [readLines, hskip]
  simp only [hline, Option.bind_eq_bind, Option.bind_some, endLine]

/-- An empty line is passed over. -/
theorem blank (doc : Document) : Advances ['\n'] doc doc := by
  intro fuel rest hfuel
  obtain ⟨fuel, rfl⟩ : ∃ n, fuel = n + 1 := ⟨fuel - 1, by omega⟩
  refine ⟨fuel + 1, ?_, ?_⟩
  · simp only [List.singleton_append, List.length_cons] at hfuel
    omega
  · rw [List.singleton_append, readLines, readLines, skipLayout]

end Advances

theorem startsKey_cases {c : Char} (h : isBare c ∨ c = '"' ∨ c = '\'') :
    c ≠ '[' ∧ c ≠ '#' ∧ c ≠ '\n' ∧ c ≠ '\r' := by
  refine ⟨?_, ?_, ?_, ?_⟩ <;> rintro rfl <;> exact absurd h (by decide)

theorem skipLayout_keyText (key : String) :
    skipLayout false ((keyText key).toList ++ rest) = some ((keyText key).toList ++ rest) := by
  obtain ⟨c, tail, hkey, hstart⟩ := keyText_eq_cons key
  obtain ⟨-, hcomment, hfeed, hreturn⟩ := startsKey_cases hstart
  rw [hkey, List.cons_append, skipLayout]
  · simp [isGap_of_startsKey hstart, hcomment]
  · exact fun _ h => (hreturn h).elim
  · exact hfeed

/-- The line of a header. -/
def headerLine (name : String) : List Char := '[' :: ((keyText name).toList ++ [']', '\n'])

/-- The line, or the lines, of an entry. -/
def entryLine (e : String × Toml) : List Char :=
  (keyText e.1).toList ++ ' ' :: '=' :: ' ' :: (e.2.pretty.toList ++ ['\n'])

/-- A header opens a table of its own. -/
theorem advances_headerLine {name : String} {doc : Document} (hname : doc.root.find? name = none) :
    Advances (headerLine name) doc
      { root := doc.root.insert name (.table .header []), header := [name] } := by
  have hline : headerLine name = '[' :: ((keyText name).toList ++ [']']) ++ ['\n'] := by
    simp [headerLine]
  rw [hline]
  refine .of_readLine (fun rest => rfl) (List.cons_ne_nil _ _) fun fuel rest _ => ?_
  obtain ⟨c, tail, hkey, hstart⟩ := keyText_eq_cons name
  have hread := @readKey_keyText (']' :: '\n' :: rest) name
    ⟨⟨by simp, by simp⟩, fun c hc => by cases hc; decide⟩ (by simp [isGap])
  have hend : (']' :: '\n' :: rest).dropWhile isGap = ']' :: '\n' :: rest := rfl
  rw [hend] at hread
  simp only [List.cons_append, List.append_assoc, List.nil_append]
  rw [readLine]
  · simp only [hread, Part.openTable_fresh hname, Option.bind_eq_bind, Option.bind_some]
  · rw [hkey, List.cons_append]
    exact fun _ heq => (startsKey_cases hstart).1 (List.cons.inj heq).1

/-- What is written of a value begins with no blank. -/
theorem Plain.dropWhile_isGap {v : Toml} (h : v.Plain) :
    (v.pretty.toList ++ rest).dropWhile isGap = v.pretty.toList ++ rest := by
  suffices hhead : ∃ c tail, v.pretty.toList = c :: tail ∧ isGap c = false by
    obtain ⟨c, tail, htext, hc⟩ := hhead
    rw [htext, List.cons_append, List.dropWhile_cons_of_neg (by simp [hc])]
  cases h with
  | string s =>
    obtain ⟨tail, htext⟩ := stringText_eq_cons s.toList
    simp only [pretty, inline, String.toList_ofList]
    exact htext.elim (fun h => ⟨_, _, h, rfl⟩) fun h => ⟨_, _, h, rfl⟩
  | @natural n hn =>
    obtain ⟨c, tail, htext⟩ := List.exists_cons_of_ne_nil (Number.toString_ne_nil n)
    have hdigit := Number.isDigit_of_mem_toString (htext ▸ List.mem_cons_self : c ∈ (toString n).toList)
    refine ⟨c, tail, htext, ?_⟩
    by_contra hgap
    simp only [isGap, Bool.not_eq_false, Bool.or_eq_true, beq_iff_eq] at hgap
    rcases hgap with rfl | rfl <;> exact absurd hdigit (by decide)
  | texts items =>
    cases items with
    | nil => exact ⟨_, _, rfl, rfl⟩
    | cons a items =>
      cases items with
      | nil => exact ⟨'[', stringText a.toList ++ [']'], by
          simp [pretty, inline, inlineItems, joined, Text.join], rfl⟩
      | cons b items => exact ⟨_, _, toList_pretty_texts a b items, rfl⟩

/-- An entry under a key that is not taken goes into the table of the last header. -/
theorem advances_entryLine {name : String} {root inner : Keyed Part} {e : String × Toml}
    (hkey : inner.find? e.1 = none) (hplain : e.2.Plain) :
    Advances (entryLine e)
      { root := root.insert name (.table .header inner), header := [name] }
      { root := root.insert name (.table .header (inner.insert e.1 (.value e.2))), header := [name] } := by
  have hline : entryLine e =
      (keyText e.1).toList ++ ' ' :: '=' :: ' ' :: e.2.pretty.toList ++ ['\n'] := by
    simp [entryLine]
  obtain ⟨c, tail, hcons, hstart⟩ := keyText_eq_cons e.1
  rw [hline]
  refine .of_readLine (fun rest => ?_) ?_ fun fuel rest hfuel => ?_
  · rw [List.append_assoc]
    exact skipLayout_keyText e.1
  · simp
  · have hread := @readKey_keyText (' ' :: '=' :: ' ' :: (e.2.pretty.toList ++ '\n' :: rest)) e.1
      ⟨⟨by simp, by simp⟩, fun c hc => by cases hc; decide⟩ (by simp [isGap])
    have hequals : (' ' :: '=' :: ' ' :: (e.2.pretty.toList ++ '\n' :: rest)).dropWhile isGap =
      '=' :: ' ' :: (e.2.pretty.toList ++ '\n' :: rest) := rfl
    have hblank : (' ' :: (e.2.pretty.toList ++ '\n' :: rest)).dropWhile isGap =
        e.2.pretty.toList ++ '\n' :: rest := hplain.dropWhile_isGap
    rw [hequals] at hread
    have hvalue : Toml.readValue fuel (79 + 1) (e.2.pretty.toList ++ '\n' :: rest) =
        some (e.2, '\n' :: rest) := hplain.readValue (by
      simp at hfuel
      omega)
    simp only [List.cons_append, List.append_assoc]
    rw [readLine]
    · simp only [hread, hblank, Option.bind_eq_bind, Option.bind_some, nestingLimit, hvalue,
        Part.enter_fresh hkey]
    all_goals
      rw [hcons, List.cons_append]
      intros
      rename_i heq
      exact (startsKey_cases hstart).1 (List.cons.inj heq).1

/-! ## Documents -/

/-- The entries of a section as they stand in a document under construction. -/
def entered (table : Keyed Part) (entries : List (String × Toml)) : Keyed Part :=
  entries.foldl (fun table e => table.insert e.1 (.value e.2)) table

/-- The sections of a document under construction. -/
def opened (root : Keyed Part) (sections : List (String × List (String × Toml))) : Keyed Part :=
  sections.foldl (fun root e => root.insert e.1 (.table .header (entered [] e.2))) root

theorem advances_entries {name : String} {root inner : Keyed Part} {entries : List (String × Toml)}
    (hfree : ∀ e ∈ entries, inner.find? e.1 = none) (hnodup : (entries.map (·.1)).Nodup)
    (hplain : ∀ e ∈ entries, e.2.Plain) :
    Advances (entries.flatMap entryLine)
      { root := root.insert name (.table .header inner), header := [name] }
      { root := root.insert name (.table .header (entered inner entries)), header := [name] } := by
  induction entries generalizing inner with
  | nil => exact .nil _
  | cons e entries ih =>
    obtain ⟨hother, hnodup⟩ := List.nodup_cons.mp hnodup
    rw [List.flatMap_cons]
    refine (advances_entryLine (hfree e List.mem_cons_self) (hplain e List.mem_cons_self)).trans ?_
    refine ih (fun f hf => ?_) hnodup fun f hf => hplain f (List.mem_cons_of_mem _ hf)
    have hne : e.1 ≠ f.1 := fun heq => hother (List.mem_map.mpr ⟨f, hf, heq.symm⟩)
    rw [Keyed.find?_insert, if_neg hne]
    exact hfree f (List.mem_cons_of_mem _ hf)

/-- The lines of a section. -/
def sectionLines (e : String × List (String × Toml)) : List Char :=
  headerLine e.1 ++ e.2.flatMap entryLine

theorem advances_section {doc : Document} {e : String × List (String × Toml)}
    (hfree : doc.root.find? e.1 = none) (hnodup : (e.2.map (·.1)).Nodup)
    (hplain : ∀ f ∈ e.2, f.2.Plain) :
    Advances (sectionLines e) doc
      { root := doc.root.insert e.1 (.table .header (entered [] e.2)), header := [e.1] } := by
  have hentries := @advances_entries e.1 doc.root [] e.2 (fun _ _ => rfl) hnodup hplain
  exact (advances_headerLine hfree).trans hentries

/-- The sections of a document are read one after another. -/
theorem advances_sections {sections : List (String × List (String × Toml))} {doc : Document}
    (hfree : ∀ e ∈ sections, doc.root.find? e.1 = none) (hnames : (sections.map (·.1)).Nodup)
    (hkeys : ∀ e ∈ sections, (e.2.map (·.1)).Nodup) (hplain : ∀ e ∈ sections, ∀ f ∈ e.2, f.2.Plain) :
    ∃ header, Advances (Text.join ['\n'] (sections.map sectionLines)) doc
      { root := opened doc.root sections, header := header } := by
  induction sections generalizing doc with
  | nil => exact ⟨doc.header, .nil _⟩
  | cons e sections ih =>
    obtain ⟨hother, hnames⟩ := List.nodup_cons.mp hnames
    have hfirst := advances_section (hfree e List.mem_cons_self) (hkeys e List.mem_cons_self)
      (hplain e List.mem_cons_self)
    have hlater : ∀ f ∈ sections,
        (doc.root.insert e.1 (.table .header (entered [] e.2))).find? f.1 = none := by
      intro f hf
      have hne : e.1 ≠ f.1 := fun heq => hother (List.mem_map.mpr ⟨f, hf, heq.symm⟩)
      rw [Keyed.find?_insert, if_neg hne]
      exact hfree f (List.mem_cons_of_mem _ hf)
    obtain ⟨header, hrest⟩ := @ih { root := _, header := [e.1] } hlater hnames
      (fun f hf => hkeys f (List.mem_cons_of_mem _ hf))
      fun f hf => hplain f (List.mem_cons_of_mem _ hf)
    cases sections with
    | nil => exact ⟨[e.1], hfirst⟩
    | cons f sections =>
      refine ⟨header, ?_⟩
      show Advances (sectionLines e ++ ['\n'] ++ Text.join ['\n'] ((f :: sections).map sectionLines)) doc _
      exact (hfirst.trans (.blank _)).trans hrest

theorem toList_document (sections : List (String × List (String × Toml))) :
    (document sections).toList = Text.join ['\n'] (sections.map sectionLines) := by
  rw [document, joined, String.toList_ofList, List.map_map]
  refine congrArg _ (List.map_congr_left fun e _ => ?_)
  have hentry : ∀ f : String × Toml,
      (keyText f.1 ++ " = " ++ f.2.pretty ++ "\n").toList = entryLine f := by
    simp [entryLine]
  simp [sectionLines, headerLine, hentry, String.toList_join, List.flatMap_map]

theorem finishEntries_opened (sections : List (String × List (String × Toml))) :
    Part.finishEntries (opened [] sections) =
      Keyed.ofList (sections.map fun e => (e.1, .table (Keyed.ofList e.2))) := by
  have hentered : ∀ entries, Part.finish (.table .header (entered [] entries)) =
      .table (Keyed.ofList entries) := by
    intro entries
    rw [Part.finish, entered, Part.finishEntries_foldl Part.value]
    rfl
  rw [opened, Part.finishEntries_foldl fun entries => .table .header (entered [] entries), Keyed.ofList,
    List.foldl_map]
  simp only [hentered]
  rfl

/-- No mark of the byte order stands in front, as a document begins with a bracket. -/
theorem document_ne_mark (sections : List (String × List (String × Toml))) (rest : List Char) :
    Text.join ['\n'] (sections.map sectionLines) ≠ '\ufeff' :: rest := by
  intro heq
  match sections with
  | [] => cases heq
  | [e] => exact absurd (List.cons.inj heq).1 (by decide)
  | e :: f :: sections => exact absurd (List.cons.inj heq).1 (by decide)

/-- **A written document is read back:** its sections as tables of their entries, as long as no section
and no entry of a section stands twice. -/
theorem read?_document {sections : List (String × List (String × Toml))}
    (hnames : (sections.map (·.1)).Nodup) (hkeys : ∀ e ∈ sections, (e.2.map (·.1)).Nodup)
    (hplain : ∀ e ∈ sections, ∀ f ∈ e.2, f.2.Plain) :
    read? (document sections) =
      some (Keyed.ofList (sections.map fun e => (e.1, .table (Keyed.ofList e.2)))) := by
  obtain ⟨header, hlines⟩ := @advances_sections sections {} (fun _ _ => rfl) hnames hkeys hplain
  -- the allowance for the whole document, with no text after it
  obtain ⟨left, hleft, hread⟩ := hlines _ [] (Nat.le_refl _)
  obtain ⟨left, rfl⟩ : ∃ n, left = n + 1 := ⟨left - 1, by omega⟩
  rw [List.append_nil] at hread
  rw [read?, toList_document]
  split
  · rename_i rest heq
    exact absurd heq (document_ne_mark sections rest)
  · rw [hread, ← finishEntries_opened]
    rfl

end Pipework.Toml
