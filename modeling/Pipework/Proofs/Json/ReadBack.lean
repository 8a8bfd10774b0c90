import Mathlib.Data.List.Basic
import Pipework.Json.Printer
import Pipework.Json.Record

/-!
# Written JSON reads back

What `Json.pretty` writes of a string or of an array of strings is read by `Json.readValue` as the
same value, whatever text follows it (`readsBack_text`, `readsBack_texts`), and an array of records
with such fields by `Json.records?` (`records?_pretty`). No string is excepted: every escape that is
written reads as the character it was written for (`readString_escapedChar`).

The readers count their steps. Two for each character of the text are enough, so the allowance is
always stated by the length of what is to be read.
-/

namespace Pipework.Json

/-! ## Strings -/

/-- The escape of a control character names its code point. -/
theorem hexWord?_control :
    ∀ n < 0x20, hexWord? '0' '0' (hexDigit (n / 16)) (hexDigit (n % 16)) = some n := by
  decide

/-- What is written for a character is read as that character. -/
theorem readString_escapedChar (c : Char) (rest : List Char) :
    readString (escapedChar c ++ rest) = consTo c (readString rest) := by
  unfold escapedChar
  split
  iterate 7 · simp [readString, shortEscape?]
  · rename_i hquote hslash _ _ _ _ _
    split
    · -- a control character without a short escape stands as four digits
      rename_i hcontrol
      have hword := hexWord?_control c.toNat hcontrol
      have hlow : (decide (0xDC00 ≤ c.toNat) && decide (c.toNat ≤ 0xDFFF)) = false := by simp; omega
      have hhigh : (decide (0xD800 ≤ c.toNat) && decide (c.toNat ≤ 0xDBFF)) = false := by simp; omega
      simp only [List.cons_append, List.nil_append]
      rw [readString]
      simp only [hword, hlow, hhigh, Char.ofNat_toNat]
      rfl
    · rename_i hplain
      have hkept : ¬ (c.toNat < 0x20 || c == '\\') := by
        simpa using ⟨Nat.le_of_not_lt hplain, hslash⟩
      simp only [List.singleton_append]
      rw [readString.eq_def]
      split
      · simp_all
      · simp_all
      · simp_all
      · simp_all
      · rename_i heq
        obtain ⟨rfl, rfl⟩ := List.cons.inj heq
        rw [if_neg hkept]

/-- A string is read up to the quote that closes it. -/
theorem readString_escaped (cs rest : List Char) :
    readString (cs.flatMap escapedChar ++ '"' :: rest) = some (cs, rest) := by
  induction cs with
  | nil => simp [readString]
  | cons c cs ih =>
    rw [List.flatMap_cons, List.append_assoc, readString_escapedChar, ih]
    rfl

/-! ## Blanks -/

@[simp] theorem skipSpace_cons {c : Char} (hc : isSpace c = false) (cs : List Char) :
    skipSpace (c :: cs) = c :: cs := by
  simp [skipSpace, hc]

@[simp] theorem skipSpace_blank (cs : List Char) : skipSpace (' ' :: cs) = skipSpace cs := rfl

@[simp] theorem skipSpace_newLine (level : Nat) (cs : List Char) :
    skipSpace (newLine level ++ cs) = skipSpace cs := by
  have hblanks : ∀ n, skipSpace (List.replicate n ' ' ++ cs) = skipSpace cs := by
    intro n
    induction n with
    | zero => rfl
    | succ n ih => exact ih
  exact hblanks (2 * level)

/-- A value may be read with the blanks in front of it or without them. -/
theorem readValue_congr {cs ds : List Char} (h : skipSpace cs = skipSpace ds) (fuel depth : Nat) :
    readValue fuel depth cs = readValue fuel depth ds := by
  cases fuel with
  | zero => simp [readValue]
  | succ fuel => simp only [readValue, h]

/-! ## Values -/

/-- What is written of the value at a level is read as the value. -/
def ReadsBack (depth level : Nat) (j : Json) : Prop :=
  ∀ (fuel : Nat) (rest : List Char), 2 * (prettyText level j).length ≤ fuel →
    readValue fuel depth (prettyText level j ++ rest) = some (j, rest)

theorem stringText_append (s : String) (rest : List Char) :
    stringText s ++ rest = '"' :: (s.toList.flatMap escapedChar ++ '"' :: rest) := by
  simp [stringText]

theorem length_stringText (s : String) : 2 ≤ (stringText s).length := by
  simp [stringText]

theorem readValue_stringText (fuel depth : Nat) (s : String) (rest : List Char) :
    readValue (fuel + 1) depth (stringText s ++ rest) = some (.text s, rest) := by
  have hquote : isSpace '"' = false := rfl
  rw [stringText_append, readValue, skipSpace_cons hquote]
  simp [readString_escaped]

theorem readsBack_text (depth level : Nat) (s : String) : ReadsBack depth level (.text s) := by
  intro fuel rest hfuel
  have htext : prettyText level (.text s) = stringText s := by simp [prettyText, scalarText]
  rw [htext] at hfuel ⊢
  have hlength := length_stringText s
  obtain ⟨fuel, rfl⟩ : ∃ n, fuel = n + 1 := ⟨fuel - 1, by omega⟩
  exact readValue_stringText fuel depth s rest

/-! ## Arrays of strings -/

theorem mapM_map_some {α β : Type*} {f : α → β} {g : β → Option α} (h : ∀ x, g (f x) = some x)
    (xs : List α) : (xs.map f).mapM g = some xs := by
  induction xs with
  | nil => rfl
  | cons x xs ih => simp [h, ih]

theorem texts?_array (texts : List String) : (Json.array (texts.map .text)).texts? = some texts :=
  mapM_map_some (g := text?) (fun _ => rfl) texts

theorem join_cons_cons (sep part next : List Char) (parts : List (List Char)) :
    Text.join sep (part :: next :: parts) = part ++ (sep ++ Text.join sep (next :: parts)) := by
  rw [← List.append_assoc]
  rfl

theorem prettyItems_texts (level : Nat) (texts : List String) :
    prettyItems level (texts.map .text) = texts.map stringText := by
  induction texts with
  | nil => rfl
  | cons s texts ih => simp [prettyItems, prettyText, scalarText, ih]

/-- The strings of an array are read one after another up to the bracket that closes it. -/
theorem readItems_texts (depth level close : Nat) {texts : List String} (hne : texts ≠ [])
    (fuel : Nat) (rest : List Char)
    (hfuel : 2 * (Text.join (',' :: newLine level) (texts.map stringText)).length ≤ fuel) :
    readItems fuel depth (Text.join (',' :: newLine level) (texts.map stringText) ++
      (newLine close ++ ']' :: rest)) = some (texts.map .text, rest) := by
  have hbracket : isSpace ']' = false := rfl
  have hcomma : isSpace ',' = false := rfl
  induction texts generalizing fuel with
  | nil => exact absurd rfl hne
  | cons s texts ih =>
    have hlength := length_stringText s
    cases texts with
    | nil =>
      have hjoin : Text.join (',' :: newLine level) ([s].map stringText) = stringText s := rfl
      rw [hjoin] at hfuel ⊢
      obtain ⟨fuel, rfl⟩ : ∃ n, fuel = n + 2 := ⟨fuel - 2, by omega⟩
      rw [readItems, readValue_stringText]
      simp [hbracket]
    | cons next texts =>
      rw [List.map_cons, List.map_cons, join_cons_cons, ← List.map_cons] at hfuel ⊢
      simp only [List.length_append, List.length_cons] at hfuel
      obtain ⟨fuel, rfl⟩ : ∃ n, fuel = n + 2 := ⟨fuel - 2, by omega⟩
      have hrest := ih (by simp) (fuel + 1) (by omega)
      have hhead : ∀ cs, readItems (fuel + 1) depth (newLine level ++ cs) =
          readItems (fuel + 1) depth cs := fun cs => by
        simp only [readItems, readValue_congr (skipSpace_newLine level cs)]
      simp only [List.append_assoc, List.cons_append]
      rw [readItems, readValue_stringText]
      simp only [skipSpace_cons hcomma, hhead, hrest]
      rfl

theorem prettyText_array (level : Nat) {items : List Json} (hne : items ≠ []) :
    prettyText level (.array items) =
      '[' :: (newLine (level + 1) ++
        (Text.join (',' :: newLine (level + 1)) (prettyItems (level + 1) items) ++
          (newLine level ++ [']']))) := by
  cases items with
  | nil => exact absurd rfl hne
  | cons j items => simp [prettyText]

theorem join_texts_quote (sep : List Char) (s : String) (texts : List String) :
    ∃ tail, Text.join sep ((s :: texts).map stringText) = '"' :: tail := by
  cases texts with
  | nil => exact ⟨_, rfl⟩
  | cons next texts => exact ⟨_, rfl⟩

theorem readsBack_texts {depth : Nat} (hdepth : 1 < depth) (level : Nat) (texts : List String) :
    ReadsBack depth level (.array (texts.map .text)) := by
  have hopen : isSpace '[' = false := rfl
  have hclose : isSpace ']' = false := rfl
  have hquote : isSpace '"' = false := rfl
  have hdeep : ¬ depth ≤ 1 := Nat.not_le.mpr hdepth
  intro fuel rest hfuel
  cases texts with
  | nil =>
    have hfuel : 4 ≤ fuel := hfuel
    obtain ⟨fuel, rfl⟩ : ∃ n, fuel = n + 1 := ⟨fuel - 1, by omega⟩
    have htext : prettyText level (.array ([].map .text)) = ['[', ']'] := by
      simp [prettyText]
    rw [htext, List.cons_append, readValue, skipSpace_cons hopen]
    simp [hclose, hdeep]
  | cons s texts =>
    have htext : (s :: texts).map text ≠ [] := by simp
    rw [prettyText_array level htext, prettyItems_texts] at hfuel ⊢
    simp only [List.length_append, List.length_cons] at hfuel
    obtain ⟨fuel, rfl⟩ : ∃ n, fuel = n + 1 := ⟨fuel - 1, by omega⟩
    have hitems := readItems_texts (depth - 1) (level + 1) level (List.cons_ne_nil s texts) fuel rest
      (by omega)
    obtain ⟨tail, htail⟩ := join_texts_quote (',' :: newLine (level + 1)) s texts
    simp only [List.append_assoc, List.cons_append, List.nil_append]
    rw [readValue, skipSpace_cons hopen]
    simp only [if_neg hdeep, skipSpace_newLine]
    rw [htail] at hitems ⊢
    rw [List.cons_append, skipSpace_cons hquote]
    rw [List.cons_append] at hitems
    simp [hitems]

/-! ## Records -/

variable {names : List String}

/-- The fields have names that count and values that read back. -/
def FieldsReadBack (names : List String) (level : Nat) (fields : List (String × Json)) : Prop :=
  ∀ field ∈ fields, field.1 ∈ names ∧ field.2.ReadsBack nestingLimit level

theorem join_fields_quote (sep : List Char) (level : Nat) (field : String × Json)
    (fields : List (String × Json)) :
    ∃ tail, Text.join sep (prettyFields level (field :: fields)) = '"' :: tail := by
  cases fields with
  | nil => exact ⟨_, rfl⟩
  | cons next fields => exact ⟨_, rfl⟩

/-- One step of reading a record: a field whose name counts, and what follows it. -/
theorem readRecord_field {fuel level : Nat} {key : String} {j : Json} (hkey : key ∈ names)
    (hj : j.ReadsBack nestingLimit level) (hfuel : 2 * (prettyText level j).length ≤ fuel)
    (rest : List Char) :
    readRecord names (fuel + 1) (stringText key ++ ':' :: ' ' :: (prettyText level j ++ rest)) =
      match skipSpace rest with
      | '\x7d' :: rest => some ([(key, j)], rest)
      | ',' :: rest =>
        (readRecord names fuel rest).map fun (fields, rest) => ((key, j) :: fields, rest)
      | _ => none := by
  have hquote : isSpace '"' = false := rfl
  have hcolon : isSpace ':' = false := rfl
  have hvalue : readValue fuel nestingLimit (' ' :: (prettyText level j ++ rest)) =
      some (j, rest) := by
    rw [readValue_congr (skipSpace_blank _)]
    exact hj fuel rest hfuel
  rw [stringText_append, readRecord, skipSpace_cons hquote]
  simp only [readString_escaped, Option.bind_eq_bind, Option.bind_some, skipSpace_cons hcolon,
    String.ofList_toList, List.contains_iff_mem, hkey, if_true, hvalue, Option.map_some]
  rfl

/-- The fields of a record are read one after another up to the brace that closes it. -/
theorem readRecord_fields (level close : Nat) {fields : List (String × Json)} (hne : fields ≠ [])
    (hfields : FieldsReadBack names level fields) (fuel : Nat) (rest : List Char)
    (hfuel : 2 * (Text.join (',' :: newLine level) (prettyFields level fields)).length ≤ fuel) :
    readRecord names fuel (Text.join (',' :: newLine level) (prettyFields level fields) ++
      (newLine close ++ '\x7d' :: rest)) = some (fields, rest) := by
  have hbrace : isSpace '\x7d' = false := rfl
  have hcomma : isSpace ',' = false := rfl
  induction fields generalizing fuel with
  | nil => exact absurd rfl hne
  | cons field fields ih =>
    obtain ⟨key, j⟩ := field
    obtain ⟨hkey, hj⟩ : key ∈ names ∧ j.ReadsBack nestingLimit level :=
      hfields _ List.mem_cons_self
    cases fields with
    | nil =>
      have hjoin : Text.join (',' :: newLine level) (prettyFields level [(key, j)]) =
          stringText key ++ ':' :: ' ' :: prettyText level j := rfl
      rw [hjoin] at hfuel ⊢
      simp only [List.length_append, List.length_cons] at hfuel
      obtain ⟨fuel, rfl⟩ : ∃ n, fuel = n + 1 := ⟨fuel - 1, by omega⟩
      simp only [List.append_assoc, List.cons_append]
      rw [readRecord_field hkey hj (by omega)]
      simp [hbrace]
    | cons next fields =>
      have hjoin : Text.join (',' :: newLine level) (prettyFields level ((key, j) :: next :: fields)) =
          stringText key ++ ':' :: ' ' :: prettyText level j ++ (',' :: newLine level ++
            Text.join (',' :: newLine level) (prettyFields level (next :: fields))) := by
        simp only [prettyFields, join_cons_cons]
      rw [hjoin] at hfuel ⊢
      simp only [List.length_append, List.length_cons] at hfuel
      obtain ⟨fuel, rfl⟩ : ∃ n, fuel = n + 1 := ⟨fuel - 1, by omega⟩
      have hrest := ih (List.cons_ne_nil next fields)
        (fun field hfield => hfields field (List.mem_cons_of_mem _ hfield)) fuel (by omega)
      have hhead : ∀ cs, readRecord names fuel (newLine level ++ cs) = readRecord names fuel cs := by
        intro cs
        cases fuel with
        | zero => rfl
        | succ fuel => simp only [readRecord, skipSpace_newLine]
      simp only [List.append_assoc, List.cons_append]
      rw [readRecord_field hkey hj (by omega)]
      simp only [skipSpace_cons hcomma, hhead, hrest, Option.map_some]

theorem prettyText_object (level : Nat) {fields : List (String × Json)} (hne : fields ≠ []) :
    prettyText level (.object fields) =
      '\x7b' :: (newLine (level + 1) ++
        (Text.join (',' :: newLine (level + 1)) (prettyFields (level + 1) fields) ++
          (newLine level ++ ['\x7d']))) := by
  cases fields with
  | nil => exact absurd rfl hne
  | cons field fields => simp [prettyText]

theorem readElement_object (level : Nat) {fields : List (String × Json)} (hne : fields ≠ [])
    (hfields : FieldsReadBack names (level + 1) fields) {fuel : Nat} (rest : List Char)
    (hfuel : 2 * (prettyText level (.object fields)).length ≤ fuel + 1) :
    readElement names fuel (prettyText level (.object fields) ++ rest) =
      some (.object fields, rest) := by
  have hopen : isSpace '\x7b' = false := rfl
  have hquote : isSpace '"' = false := rfl
  rw [prettyText_object level hne] at hfuel ⊢
  simp only [List.length_append, List.length_cons] at hfuel
  have hrecord := readRecord_fields (level + 1) level hne hfields fuel rest (by omega)
  obtain ⟨field, fields, rfl⟩ := List.exists_cons_of_ne_nil hne
  obtain ⟨tail, htail⟩ := join_fields_quote (',' :: newLine (level + 1)) (level + 1) field fields
  simp only [List.append_assoc, List.cons_append, List.nil_append]
  rw [readElement, skipSpace_cons hopen]
  rw [htail] at hrecord ⊢
  rw [List.cons_append] at hrecord
  simp [hquote, hrecord]

/-- The records of an array are read one after another up to the bracket that closes it. -/
theorem readElements_objects (level close : Nat) {records : List (List (String × Json))}
    (hne : records ≠ [])
    (hrecords : ∀ fields ∈ records, fields ≠ [] ∧ FieldsReadBack names (level + 1) fields)
    (fuel : Nat) (rest : List Char)
    (hfuel : 2 * (Text.join (',' :: newLine level)
      (prettyItems level (records.map .object))).length ≤ fuel) :
    readElements names fuel (Text.join (',' :: newLine level)
      (prettyItems level (records.map .object)) ++ (newLine close ++ ']' :: rest)) =
        some (records.map .object, rest) := by
  have hbracket : isSpace ']' = false := rfl
  have hcomma : isSpace ',' = false := rfl
  induction records generalizing fuel with
  | nil => exact absurd rfl hne
  | cons fields records ih =>
    obtain ⟨hfirst, hfields⟩ := hrecords _ List.mem_cons_self
    have hlength : 0 < (prettyText level (.object fields)).length := by
      rw [prettyText_object level hfirst]
      exact Nat.succ_pos _
    cases records with
    | nil =>
      have hjoin : Text.join (',' :: newLine level) (prettyItems level ([fields].map .object)) =
          prettyText level (.object fields) := rfl
      rw [hjoin] at hfuel ⊢
      obtain ⟨fuel, rfl⟩ : ∃ n, fuel = n + 1 := ⟨fuel - 1, by omega⟩
      rw [readElements, readElement_object level hfirst hfields _ hfuel]
      simp [hbracket]
    | cons next records =>
      have hjoin : Text.join (',' :: newLine level)
          (prettyItems level ((fields :: next :: records).map .object)) =
            prettyText level (.object fields) ++ (',' :: newLine level ++
              Text.join (',' :: newLine level)
                (prettyItems level ((next :: records).map .object))) := by
        simp only [List.map_cons, prettyItems, join_cons_cons]
      rw [hjoin] at hfuel ⊢
      simp only [List.length_append, List.length_cons] at hfuel
      obtain ⟨fuel, rfl⟩ : ∃ n, fuel = n + 1 := ⟨fuel - 1, by omega⟩
      have hrest := ih (List.cons_ne_nil next records)
        (fun fields hmem => hrecords fields (List.mem_cons_of_mem _ hmem)) fuel (by omega)
      have hhead : ∀ cs, readElements names fuel (newLine level ++ cs) =
          readElements names fuel cs := by
        intro cs
        cases fuel with
        | zero => rfl
        | succ fuel => simp only [readElements, readElement, skipSpace_newLine]
      simp only [List.append_assoc, List.cons_append]
      rw [readElements, readElement_object level hfirst hfields _ (by omega)]
      simp only [Option.bind_eq_bind, Option.bind_some, skipSpace_cons hcomma, hhead, hrest]
      rfl

theorem join_objects_brace (sep : List Char) (level : Nat) {fields : List (String × Json)}
    (hne : fields ≠ []) (records : List (List (String × Json))) :
    ∃ tail, Text.join sep (prettyItems level ((fields :: records).map .object)) = '\x7b' :: tail := by
  cases records with
  | nil => exact ⟨_, prettyText_object level hne⟩
  | cons next records =>
    simp only [List.map_cons, prettyItems, join_cons_cons, prettyText_object level hne]
    exact ⟨_, rfl⟩

/-- A list whose first element is an object is read by `readElements`. -/
theorem records?_of_elements {s : String} {rest tail : List Char} {js : List Json}
    (hs : skipSpace s.toList = '[' :: rest) (hrest : skipSpace rest = '\x7b' :: tail)
    (hread : readElements names (4 * s.toList.length + 4) ('\x7b' :: tail) = some (js, [])) :
    records? names s = some js := by
  rw [records?]
  simp only [hs, hrest]
  change (readElements names _ ('\x7b' :: tail)).bind _ = some js
  rw [hread]
  rfl

/-- A list of records is read from what is written of it. -/
theorem records?_pretty {records : List (List (String × Json))}
    (hrecords : ∀ fields ∈ records, fields ≠ [] ∧ FieldsReadBack names 2 fields) :
    records? names (pretty (.array (records.map .object))) = some (records.map .object) := by
  have hopen : isSpace '[' = false := rfl
  have hbrace : isSpace '\x7b' = false := rfl
  cases records with
  | nil => rfl
  | cons fields records =>
    have hne : (fields :: records).map object ≠ [] := List.cons_ne_nil _ _
    obtain ⟨tail, htail⟩ := join_objects_brace (',' :: newLine 1) 1
      (hrecords _ List.mem_cons_self).1 records
    have hread := readElements_objects 1 0 (List.cons_ne_nil fields records) hrecords
    set items := Text.join (',' :: newLine 1) (prettyItems 1 ((fields :: records).map object))
    have htext : (pretty (.array ((fields :: records).map object))).toList =
        '[' :: (newLine 1 ++ (items ++ (newLine 0 ++ [']']))) := by
      rw [pretty, String.toList_ofList, prettyText_array 0 hne]
    have hitems : items ++ (newLine 0 ++ [']']) = '\x7b' :: (tail ++ (newLine 0 ++ [']'])) := by
      rw [htail, List.cons_append]
    have hopened := congrArg skipSpace htext
    have hfirst := congrArg skipSpace hitems
    rw [skipSpace_cons hopen] at hopened
    rw [skipSpace_cons hbrace] at hfirst
    refine records?_of_elements hopened ((skipSpace_newLine 1 _).trans hfirst) ?_
    rw [← hitems, htext]
    refine hread _ [] ?_
    simp only [List.length_cons, List.length_append]
    omega

end Pipework.Json
