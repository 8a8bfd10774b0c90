import Pipework.Proofs.Json.Numbers
import Pipework.Proofs.Text.Keyed

/-!
# Compact texts read back

Of a value as it is stored (`Stored`) the reader makes `reread`, whatever follows the value's compact
text: the same value with every number scaled as the reader does it, and nothing at all for a value
that nests too deep (`readValue_compactText`). So a value reads back as itself exactly when it nests
less deep than the limit and all numbers in it survive: **`reread_eq_self_iff`**.
-/

namespace Pipework.Json

open Number

/-! ## Values and what is in them -/

mutual

/-- The levels of arrays and objects in a value. -/
def nesting : Json → Nat
  | .array items => nestingOfItems items + 1
  | .object fields => nestingOfFields fields + 1
  | _ => 0

/-- The greatest nesting of an element. -/
def nestingOfItems : List Json → Nat
  | [] => 0
  | j :: rest => max (nesting j) (nestingOfItems rest)

/-- The greatest nesting of a field's value. -/
def nestingOfFields : List (String × Json) → Nat
  | [] => 0
  | (_, j) :: rest => max (nesting j) (nestingOfFields rest)

end

mutual

/-- The value and all values inside it. -/
def parts : Json → List Json
  | .array items => .array items :: partsOfItems items
  | .object fields => .object fields :: partsOfFields fields
  | scalar => [scalar]

/-- The parts of all elements. -/
def partsOfItems : List Json → List Json
  | [] => []
  | j :: rest => parts j ++ partsOfItems rest

/-- The parts of all fields' values. -/
def partsOfFields : List (String × Json) → List Json
  | [] => []
  | (_, j) :: rest => parts j ++ partsOfFields rest

end

/-- The integer has 64 bits, with a sign or without. -/
def IsWord (n : Int) : Prop := -2 ^ 63 ≤ n ∧ n ≤ maxWord

instance (n : Int) : Decidable (IsWord n) := inferInstanceAs (Decidable (_ ∧ _))

/-- A stored value is an integer of 64 bits, has its fields in order of their keys, each key once, or is
of another kind. -/
def Held : Json → Prop
  | .integer n => IsWord n
  | .object fields => Keyed.Ordered fields
  | _ => True

instance : DecidablePred Held
  | .integer n => inferInstanceAs (Decidable (IsWord n))
  | .object fields => inferInstanceAs (Decidable (Keyed.Ordered fields))
  | .null | .bool _ | .number _ | .text _ | .array _ => inferInstanceAs (Decidable True)

/-- The value is as values are stored, in all its parts. -/
def Stored (j : Json) : Prop := ∀ part ∈ j.parts, part.Held

instance (j : Json) : Decidable j.Stored := inferInstanceAs (Decidable (∀ part ∈ j.parts, part.Held))

/-! ## What the reader makes of a value -/

mutual

/-- What is read of a value's compact text where `depth` bounds the nesting. -/
def reread (depth : Nat) : Json → Option Json
  | .number x =>
    match Parts.of x with
    | .finite .. => (rescaled? x).map .number
    | _ => some .null
  | .array items => if depth ≤ 1 then none else (rereadItems (depth - 1) items).map .array
  | .object fields => if depth ≤ 1 then none else (rereadFields (depth - 1) fields).map .object
  | scalar => some scalar

/-- `reread` on each element. -/
def rereadItems (depth : Nat) : List Json → Option (List Json)
  | [] => some []
  | j :: rest => (reread depth j).bind fun j => (rereadItems depth rest).map (j :: ·)

/-- `reread` on each field's value. -/
def rereadFields (depth : Nat) : List (String × Json) → Option (List (String × Json))
  | [] => some []
  | (k, j) :: rest => (reread depth j).bind fun j => (rereadFields depth rest).map ((k, j) :: ·)

end

/-! ## Reading compact texts -/

theorem endsNumber_nil : EndsNumber [] := fun _ hc => absurd hc (Option.not_mem_none _)

theorem endsNumber_of_mem {c : Char} (hc : c ∈ [',', ']', '\x7d']) (rest : List Char) :
    EndsNumber (c :: rest) := by
  intro d hd
  obtain rfl : c = d := Option.some.inj hd
  revert hc
  revert c
  simp [isDigit]

/-- What a text of a value begins with: no blank and no closing bracket. -/
theorem compactText_head (j : Json) :
    ∃ c tail, compactText j = c :: tail ∧ isSpace c = false ∧ c ≠ ']' := by
  have hnumber : ∀ cs, BeginsNumber cs → ∃ c tail, cs = c :: tail ∧ isSpace c = false ∧ c ≠ ']' := by
    rintro _ ⟨c, tail, rfl, hc⟩
    exact ⟨c, tail, rfl, isSpace_of_begins hc, ne_of_begins hc ']' (by simp)⟩
  cases j with
  | integer n => exact hnumber _ (beginsNumber_integer n)
  | number x =>
    cases hx : Parts.of x with
    | finite negative m q => exact hnumber _ (beginsNumber_number hx)
    | nan | infinite =>
      exact ⟨'n', ['u', 'l', 'l'], by simp [compactText, scalarText, jsonNumber?, hx], rfl, by decide⟩
  | null => exact ⟨'n', _, rfl, rfl, by decide⟩
  | bool b => cases b <;> exact ⟨_, _, rfl, rfl, by decide⟩
  | text s => exact ⟨'"', _, rfl, rfl, by decide⟩
  | array items => exact ⟨'[', _, by rw [compactText]; rfl, rfl, by decide⟩
  | object fields => exact ⟨'\x7b', _, by rw [compactText]; rfl, rfl, by decide⟩

theorem readValue_scalar_number (x : Float) {rest : List Char} (hrest : EndsNumber rest)
    (fuel depth : Nat) :
    readValue (fuel + 1) depth (scalarText (.number x) ++ rest) =
      (reread depth (.number x)).map (·, rest) := by
  cases hx : Parts.of x with
  | finite negative m q =>
    rw [readValue_number hx hrest]
    simp only [reread, hx, Option.map_map]
    rfl
  | nan | infinite => simp [reread, hx, scalarText, jsonNumber?, readValue, skipSpace, isSpace]

theorem compactText_array (items : List Json) (rest : List Char) :
    compactText (.array items) ++ rest =
      '[' :: (Text.join [','] (compactItems items) ++ ']' :: rest) := by
  simp [compactText]

theorem compactText_object (fields : List (String × Json)) (rest : List Char) :
    compactText (.object fields) ++ rest =
      '\x7b' :: (Text.join [','] (compactFields fields) ++ '\x7d' :: rest) := by
  simp [compactText]

theorem join_items_head (j : Json) (items : List Json) (rest : List Char) :
    ∃ c tail, Text.join [','] (compactItems (j :: items)) ++ rest = c :: tail ∧
      isSpace c = false ∧ c ≠ ']' := by
  obtain ⟨c, tail, hj, hc⟩ := compactText_head j
  cases items with
  | nil => exact ⟨c, tail ++ rest, by simp [compactItems, Text.join, hj], hc⟩
  | cons next items => exact ⟨c, _, by simp only [compactItems, join_cons_cons, hj]; rfl, hc⟩

theorem join_fields_head (field : String × Json) (fields : List (String × Json)) (rest : List Char) :
    ∃ tail, Text.join [','] (compactFields (field :: fields)) ++ rest = '"' :: tail := by
  cases fields with
  | nil => exact ⟨_, rfl⟩
  | cons next fields => exact ⟨_, by simp only [compactFields, join_cons_cons]; rfl⟩

/-! One step of a reader, given what the readers make of what comes next. An element or a field that is
not read ends the whole, so both sides are nothing at once. -/

section Steps

variable {fuel depth : Nat} {cs tail rest : List Char} {key : String} {j : Json} {items : List Json}
  {fields : List (String × Json)}

theorem readItems_last
    (hvalue : readValue fuel depth (cs ++ ']' :: rest) = (reread depth j).map (·, ']' :: rest)) :
    readItems (fuel + 1) depth (cs ++ ']' :: rest) = (rereadItems depth [j]).map (·, rest) := by
  rw [readItems, hvalue, rereadItems]
  cases reread depth j with
  | none => rfl
  | some j => rfl

theorem readItems_more
    (hvalue : readValue fuel depth (cs ++ ',' :: tail) = (reread depth j).map (·, ',' :: tail))
    (htail : readItems fuel depth tail = (rereadItems depth items).map (·, rest)) :
    readItems (fuel + 1) depth (cs ++ ',' :: tail) =
      (rereadItems depth (j :: items)).map (·, rest) := by
  have hcomma : isSpace ',' = false := rfl
  rw [readItems, hvalue, rereadItems]
  cases reread depth j with
  | none => rfl
  | some j =>
    simp only [Option.map_some, skipSpace_cons hcomma, htail, Option.map_map, Option.bind_some]
    rfl

theorem readFields_last
    (hvalue : readValue fuel depth (cs ++ '\x7d' :: rest) = (reread depth j).map (·, '\x7d' :: rest)) :
    readFields (fuel + 1) depth (stringText key ++ ':' :: (cs ++ '\x7d' :: rest)) =
      (rereadFields depth [(key, j)]).map (·, rest) := by
  have hquote : isSpace '"' = false := rfl
  have hcolon : isSpace ':' = false := rfl
  rw [stringText_append, readFields, skipSpace_cons hquote, rereadFields]
  simp only [readString_escaped, skipSpace_cons hcolon, hvalue, String.ofList_toList]
  cases reread depth j with
  | none => rfl
  | some j => rfl

theorem readFields_more
    (hvalue : readValue fuel depth (cs ++ ',' :: tail) = (reread depth j).map (·, ',' :: tail))
    (htail : readFields fuel depth tail = (rereadFields depth fields).map (·, rest)) :
    readFields (fuel + 1) depth (stringText key ++ ':' :: (cs ++ ',' :: tail)) =
      (rereadFields depth ((key, j) :: fields)).map (·, rest) := by
  have hquote : isSpace '"' = false := rfl
  have hcolon : isSpace ':' = false := rfl
  have hcomma : isSpace ',' = false := rfl
  rw [stringText_append, readFields, skipSpace_cons hquote, rereadFields]
  simp only [readString_escaped, skipSpace_cons hcolon, hvalue, String.ofList_toList]
  cases reread depth j with
  | none => rfl
  | some j =>
    simp only [Option.map_some, skipSpace_cons hcomma, htail, Option.map_map, Option.bind_some]
    rfl

theorem readValue_array
    (hitems : readItems fuel (depth - 1) (Text.join [','] (compactItems (j :: items)) ++ ']' :: rest) =
      (rereadItems (depth - 1) (j :: items)).map (·, rest)) :
    readValue (fuel + 1) depth (compactText (.array (j :: items)) ++ rest) =
      (reread depth (.array (j :: items))).map (·, rest) := by
  have hopen : isSpace '[' = false := rfl
  obtain ⟨c, tail, hhead, hc, hclose⟩ := join_items_head j items (']' :: rest)
  rw [compactText_array, readValue, skipSpace_cons hopen, reread]
  rw [hhead] at hitems ⊢
  by_cases hdepth : depth ≤ 1
  · simp [hdepth]
  · simp [hdepth, hc, hclose, hitems, Function.comp_def]

theorem readValue_object {field : String × Json}
    (hfields : readFields fuel (depth - 1)
        (Text.join [','] (compactFields (field :: fields)) ++ '\x7d' :: rest) =
      (rereadFields (depth - 1) (field :: fields)).map (·, rest)) :
    readValue (fuel + 1) depth (compactText (.object (field :: fields)) ++ rest) =
      (reread depth (.object (field :: fields))).map (·, rest) := by
  have hopen : isSpace '\x7b' = false := rfl
  have hquote : isSpace '"' = false := rfl
  obtain ⟨tail, hhead⟩ := join_fields_head field fields ('\x7d' :: rest)
  rw [compactText_object, readValue, skipSpace_cons hopen, reread]
  rw [hhead] at hfields ⊢
  by_cases hdepth : depth ≤ 1
  · simp [hdepth]
  · simp [hdepth, hquote, hfields, Function.comp_def]

theorem readValue_empty :
    readValue (fuel + 1) depth (compactText (.array []) ++ rest) =
        (reread depth (.array [])).map (·, rest) ∧
      readValue (fuel + 1) depth (compactText (.object []) ++ rest) =
        (reread depth (.object [])).map (·, rest) := by
  have hbracket : isSpace '[' = false ∧ isSpace ']' = false := ⟨rfl, rfl⟩
  have hbrace : isSpace '\x7b' = false ∧ isSpace '\x7d' = false := ⟨rfl, rfl⟩
  constructor
  · rw [compactText_array, readValue, reread]
    simp only [compactItems, Text.join, List.nil_append, skipSpace_cons, hbracket]
    split <;> rfl
  · rw [compactText_object, readValue, reread]
    simp only [compactFields, Text.join, List.nil_append, skipSpace_cons, hbrace]
    split <;> rfl

end Steps

-- The induction is on the value; its elements and fields are read with the allowance that is left when
-- the bracket has been taken. A list needs one step more than its characters pay for.
mutual

/-- What is written of a value is read as `reread` says, whatever text follows. -/
theorem readValue_compactText (j : Json) (hj : ∀ n, .integer n ∈ j.parts → IsWord n) (fuel depth : Nat)
    (rest : List Char) (hrest : EndsNumber rest) (hfuel : 2 * (compactText j).length ≤ fuel) :
    readValue fuel depth (compactText j ++ rest) = (reread depth j).map (·, rest) := by
  obtain ⟨c, tail, hhead, -, -⟩ := compactText_head j
  obtain ⟨fuel, rfl⟩ : ∃ n, fuel = n + 1 :=
    ⟨fuel - 1, by rw [hhead, List.length_cons] at hfuel; omega⟩
  match j with
  | .null => rfl
  | .bool true => rfl
  | .bool false => rfl
  | .integer n =>
    obtain ⟨hlow, hhigh⟩ := hj n (by simp [parts])
    exact readValue_integer hlow hhigh hrest fuel depth
  | .number x => exact readValue_scalar_number x hrest fuel depth
  | .text s => exact readValue_stringText fuel depth s rest
  | .array items =>
    simp only [parts, List.mem_cons, reduceCtorEq, false_or] at hj
    simp only [compactText, List.length_cons, List.length_append] at hfuel
    have hitems := readItems_compactItems items hj fuel (depth - 1) rest
    match items with
    | [] => exact readValue_empty.1
    | j :: items => exact readValue_array (hitems (List.cons_ne_nil _ _) (by omega))
  | .object fields =>
    simp only [parts, List.mem_cons, reduceCtorEq, false_or] at hj
    simp only [compactText, List.length_cons, List.length_append] at hfuel
    have hfields := readFields_compactFields fields hj fuel (depth - 1) rest
    match fields with
    | [] => exact readValue_empty.2
    | field :: fields => exact readValue_object (hfields (List.cons_ne_nil _ _) (by omega))

/-- The elements of an array are read one after another up to the bracket that closes it. -/
theorem readItems_compactItems (items : List Json)
    (hitems : ∀ n, .integer n ∈ partsOfItems items → IsWord n) (fuel depth : Nat) (rest : List Char)
    (hne : items ≠ []) (hfuel : 2 * (Text.join [','] (compactItems items)).length + 1 ≤ fuel) :
    readItems fuel depth (Text.join [','] (compactItems items) ++ ']' :: rest) =
      (rereadItems depth items).map (·, rest) := by
  obtain ⟨fuel, rfl⟩ : ∃ n, fuel = n + 1 := ⟨fuel - 1, by omega⟩
  match items with
  | j :: items =>
    simp only [partsOfItems, List.mem_append, or_imp, forall_and] at hitems
    have hvalue := readValue_compactText j hitems.1 fuel depth
    have htail := readItems_compactItems items hitems.2 fuel depth rest
    match items with
    | [] =>
      simp only [compactItems, Text.join] at hfuel ⊢
      exact readItems_last (hvalue _ (endsNumber_of_mem (by simp) rest) (by omega))
    | next :: items =>
      -- the element and the comma pay for the step that takes them
      obtain ⟨c, tail, hhead, -, -⟩ := compactText_head j
      have hlength : 1 ≤ (compactText j).length := by rw [hhead]; exact Nat.succ_pos _
      rw [compactItems] at hfuel ⊢
      have hjoin : Text.join [','] (compactText j :: compactItems (next :: items)) =
          compactText j ++ ',' :: Text.join [','] (compactItems (next :: items)) :=
        join_cons_cons _ _ _ _
      rw [hjoin, List.length_append, List.length_cons] at hfuel
      rw [hjoin, List.append_assoc]
      exact readItems_more (hvalue _ (endsNumber_of_mem (by simp) _) (by omega))
        (htail (List.cons_ne_nil _ _) (by omega))

/-- The fields of an object are read one after another up to the brace that closes it. -/
theorem readFields_compactFields (fields : List (String × Json))
    (hfields : ∀ n, .integer n ∈ partsOfFields fields → IsWord n) (fuel depth : Nat) (rest : List Char)
    (hne : fields ≠ []) (hfuel : 2 * (Text.join [','] (compactFields fields)).length + 1 ≤ fuel) :
    readFields fuel depth (Text.join [','] (compactFields fields) ++ '\x7d' :: rest) =
      (rereadFields depth fields).map (·, rest) := by
  obtain ⟨fuel, rfl⟩ : ∃ n, fuel = n + 1 := ⟨fuel - 1, by omega⟩
  match fields with
  | (key, j) :: fields =>
    simp only [partsOfFields, List.mem_append, or_imp, forall_and] at hfields
    have hkey := length_stringText key
    have hvalue := readValue_compactText j hfields.1 fuel depth
    have htail := readFields_compactFields fields hfields.2 fuel depth rest
    match fields with
    | [] =>
      simp only [compactFields, Text.join, List.length_append, List.length_cons] at hfuel
      simp only [compactFields, Text.join, List.append_assoc, List.cons_append]
      exact readFields_last (hvalue _ (endsNumber_of_mem (by simp) rest) (by omega))
    | next :: fields =>
      rw [compactFields] at hfuel ⊢
      have hjoin : Text.join [','] ((stringText key ++ ':' :: compactText j) ::
          compactFields (next :: fields)) = stringText key ++ ':' ::
            (compactText j ++ ',' :: Text.join [','] (compactFields (next :: fields))) := by
        rw [← List.cons_append, ← List.append_assoc]
        exact join_cons_cons _ _ _ _
      rw [hjoin, List.length_append, List.length_cons, List.length_append, List.length_cons] at hfuel
      rw [hjoin, List.append_assoc, List.cons_append, List.append_assoc]
      exact readFields_more (hvalue _ (endsNumber_of_mem (by simp) _) (by omega))
        (htail (List.cons_ne_nil _ _) (by omega))

end

/-- **What a compact text holds.** -/
theorem read?_compact {j : Json} (hj : ∀ n, .integer n ∈ j.parts → IsWord n) :
    read? j.compact = reread nestingLimit j := by
  have hread := readValue_compactText j hj (2 * (compactText j).length + 2) nestingLimit []
    endsNumber_nil (by omega)
  rw [List.append_nil] at hread
  rw [read?, compact, String.toList_ofList]
  simp only [hread]
  cases reread nestingLimit j with
  | none => rfl
  | some j => rfl

/-! ## Values that read back -/

theorem reread_number_eq_self_iff (depth : Nat) (x : Float) :
    reread depth (.number x) = some (.number x) ↔ Survives x := by
  cases hx : Parts.of x with
  | finite negative m q => simp [reread, hx, Survives]
  | nan | infinite => simp [reread, hx, Survives, rescaled?]

mutual

/-- **A value is read as itself** exactly when it nests less deep than the limit and every number in it
survives. -/
theorem reread_eq_self_iff (j : Json) {depth : Nat} (hdepth : 0 < depth) :
    reread depth j = some j ↔
      j.nesting < depth ∧ ∀ x, .number x ∈ j.parts → Survives x := by
  match j with
  | .null => simp [reread, nesting, parts, hdepth]
  | .bool b => simp [reread, nesting, parts, hdepth]
  | .integer n => simp [reread, nesting, parts, hdepth]
  | .text s => simp [reread, nesting, parts, hdepth]
  | .number x => simp [reread_number_eq_self_iff, nesting, parts, hdepth]
  | .array items =>
    have hparts : ∀ x, number x ∈ parts (.array items) ↔ number x ∈ partsOfItems items := by
      simp [parts]
    simp only [hparts, nesting]
    by_cases hone : depth ≤ 1
    · simp only [reread, hone, if_true]
      exact iff_of_false (by simp) (by omega)
    · have hdeep : nestingOfItems items + 1 < depth ↔ nestingOfItems items < depth - 1 := by omega
      rw [hdeep, ← rereadItems_eq_self_iff items (by omega)]
      simp [reread, hone]
  | .object fields =>
    have hparts : ∀ x, number x ∈ parts (.object fields) ↔ number x ∈ partsOfFields fields := by
      simp [parts]
    simp only [hparts, nesting]
    by_cases hone : depth ≤ 1
    · simp only [reread, hone, if_true]
      exact iff_of_false (by simp) (by omega)
    · have hdeep : nestingOfFields fields + 1 < depth ↔ nestingOfFields fields < depth - 1 := by omega
      rw [hdeep, ← rereadFields_eq_self_iff fields (by omega)]
      simp [reread, hone]

theorem rereadItems_eq_self_iff (items : List Json) {depth : Nat} (hdepth : 0 < depth) :
    rereadItems depth items = some items ↔
      nestingOfItems items < depth ∧ ∀ x, .number x ∈ partsOfItems items → Survives x := by
  match items with
  | [] => simp [rereadItems, nestingOfItems, partsOfItems, hdepth]
  | j :: items =>
    have hcons : rereadItems depth (j :: items) = some (j :: items) ↔
        reread depth j = some j ∧ rereadItems depth items = some items := by
      rw [rereadItems]
      cases reread depth j <;> cases rereadItems depth items <;> simp
    rw [hcons, reread_eq_self_iff j hdepth, rereadItems_eq_self_iff items hdepth]
    simp only [nestingOfItems, partsOfItems, List.mem_append, or_imp, forall_and, max_lt_iff]
    exact and_and_and_comm

theorem rereadFields_eq_self_iff (fields : List (String × Json)) {depth : Nat} (hdepth : 0 < depth) :
    rereadFields depth fields = some fields ↔
      nestingOfFields fields < depth ∧ ∀ x, .number x ∈ partsOfFields fields → Survives x := by
  match fields with
  | [] => simp [rereadFields, nestingOfFields, partsOfFields, hdepth]
  | (k, j) :: fields =>
    have hcons : rereadFields depth ((k, j) :: fields) = some ((k, j) :: fields) ↔
        reread depth j = some j ∧ rereadFields depth fields = some fields := by
      rw [rereadFields]
      cases reread depth j <;> cases rereadFields depth fields <;> simp
    rw [hcons, reread_eq_self_iff j hdepth, rereadFields_eq_self_iff fields hdepth]
    simp only [nestingOfFields, partsOfFields, List.mem_append, or_imp, forall_and, max_lt_iff]
    exact and_and_and_comm

end

/-! ## The order of the fields -/

mutual

/-- The reader keeps the fields of a stored value in order, so that nothing is left to sort. -/
theorem canonical_of_reread (j : Json) {depth : Nat} {j' : Json}
    (hj : ∀ fields, .object fields ∈ j.parts → Keyed.Ordered fields) (h : reread depth j = some j') :
    canonical j' = j' := by
  match j with
  | .null | .bool _ | .integer _ | .text _ => cases h; rfl
  | .number x =>
    rw [reread] at h
    split at h
    · obtain ⟨y, -, rfl⟩ := Option.map_eq_some_iff.mp h
      rfl
    · cases h
      rfl
  | .array items =>
    simp only [parts, List.mem_cons, reduceCtorEq, false_or] at hj
    rw [reread] at h
    split at h
    · cases h
    · obtain ⟨items', hitems, rfl⟩ := Option.map_eq_some_iff.mp h
      rw [canonical, canonicalItems_of_reread items hj hitems]
  | .object fields =>
    simp only [parts, List.mem_cons] at hj
    rw [reread] at h
    split at h
    · cases h
    · obtain ⟨fields', hfields, rfl⟩ := Option.map_eq_some_iff.mp h
      obtain ⟨hcanonical, hkeys⟩ :=
        canonicalFields_of_reread fields (fun inner hinner => hj inner (.inr hinner)) hfields
      have hordered : Keyed.Ordered fields' := Keyed.ordered_of_keys hkeys (hj fields (.inl rfl))
      rw [canonical, hcanonical, Keyed.ofList_of_ordered hordered]

theorem canonicalItems_of_reread (items : List Json) {depth : Nat} {items' : List Json}
    (hitems : ∀ fields, .object fields ∈ partsOfItems items → Keyed.Ordered fields)
    (h : rereadItems depth items = some items') : canonicalItems items' = items' := by
  match items with
  | [] => cases h; rfl
  | j :: items =>
    simp only [partsOfItems, List.mem_append, or_imp, forall_and] at hitems
    obtain ⟨j', hj, h⟩ := Option.bind_eq_some_iff.mp h
    obtain ⟨items', hrest, rfl⟩ := Option.map_eq_some_iff.mp h
    rw [canonicalItems, canonical_of_reread j hitems.1 hj, canonicalItems_of_reread items hitems.2 hrest]

theorem canonicalFields_of_reread (fields : List (String × Json)) {depth : Nat}
    {fields' : List (String × Json)}
    (hfields : ∀ inner, .object inner ∈ partsOfFields fields → Keyed.Ordered inner)
    (h : rereadFields depth fields = some fields') :
    canonicalFields fields' = fields' ∧ fields'.map (·.1) = fields.map (·.1) := by
  match fields with
  | [] => cases h; exact ⟨rfl, rfl⟩
  | (k, j) :: fields =>
    simp only [partsOfFields, List.mem_append, or_imp, forall_and] at hfields
    obtain ⟨j', hj, h⟩ := Option.bind_eq_some_iff.mp h
    obtain ⟨fields', hrest, rfl⟩ := Option.map_eq_some_iff.mp h
    obtain ⟨hcanonical, hkeys⟩ := canonicalFields_of_reread fields hfields.2 hrest
    rw [canonicalFields, canonical_of_reread j hfields.1 hj, hcanonical, List.map_cons, hkeys]
    exact ⟨rfl, rfl⟩

end

end Pipework.Json
