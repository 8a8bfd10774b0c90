import Pipework.Host
import Pipework.Proofs.Json.Compact

/-!
# Answers read back

The text of a response is one object, its errors before its fields of data, and the field `errors` is
the only one that tells them apart. Of a response whose data has no field of that name the text is read
as the same errors beside what the reader makes of the data (`ofText?_text`), so that it reads back as
the response itself exactly when the data does (`ofText?_text_eq_self_iff`). No response that is read
from a text has a field `errors` in its data (`errors_not_mem_of_ofText?`), so none that has one ever
reads back.
-/

namespace Pipework.HostResponse

open Json

/-- The response as the line of text that stands for it. -/
def text (r : HostResponse) : String := r.toJson.compact

/-- The response that a text stands for. -/
def ofText? (s : String) : Option HostResponse := (Json.read? s).bind ofJson?

/-- The errors as a field, if there are any. -/
def errorFields (errors : List String) : List (String × Json) :=
  if errors.isEmpty then [] else [("errors", .array (errors.map .text))]

theorem toJson_eq (r : HostResponse) : r.toJson = .object (errorFields r.errors ++ r.data) := rfl

/-! ## The texts of the errors -/

theorem nestingOfItems_texts (texts : List String) : nestingOfItems (texts.map .text) = 0 := by
  induction texts with
  | nil => rfl
  | cons s texts ih => simp [nestingOfItems, nesting, ih]

theorem partsOfItems_texts (texts : List String) : partsOfItems (texts.map .text) = texts.map .text := by
  induction texts with
  | nil => rfl
  | cons s texts ih => simp [partsOfItems, parts, ih]

theorem reread_texts {depth : Nat} (hdepth : 1 < depth) (texts : List String) :
    reread depth (.array (texts.map .text)) = some (.array (texts.map .text)) := by
  refine (reread_eq_self_iff _ (by omega)).mpr ⟨?_, fun x hx => ?_⟩
  · rw [nesting, nestingOfItems_texts]
    omega
  · simp [parts, partsOfItems_texts] at hx

/-! ## Responses -/

theorem rereadFields_errorFields {depth : Nat} (hdepth : 1 < depth) (errors : List String)
    (data : List (String × Json)) :
    rereadFields depth (errorFields errors ++ data) =
      (rereadFields depth data).map (errorFields errors ++ ·) := by
  unfold errorFields
  split
  · simp
  · rw [List.singleton_append, rereadFields, reread_texts hdepth]
    rfl

theorem isWord_of_mem_parts_toJson {r : HostResponse} (hr : (Json.object r.data).Stored) {n : Int}
    (hn : .integer n ∈ r.toJson.parts) : IsWord n := by
  have hdata : ∀ n, .integer n ∈ partsOfFields r.data → IsWord n := fun n hn =>
    hr (.integer n) (by simp [parts, hn])
  rw [toJson_eq] at hn
  unfold errorFields at hn
  split at hn
  · exact hdata n (by simpa [parts] using hn)
  · exact hdata n (by simpa [parts, partsOfFields, partsOfItems_texts] using hn)

/-- What the object of errors and data stands for. -/
theorem ofJson?_errorFields (errors : List String) {data : Keyed Json} (herrors : "errors" ∉ data.keys)
    (hcanonical : (Json.object data).canonical = .object data) :
    ofJson? (.object (errorFields errors ++ data)) = some { errors := errors, data := data } := by
  have hne : ∀ field ∈ data, field.1 ≠ "errors" := fun field hfield heq =>
    herrors (heq ▸ List.mem_map_of_mem hfield)
  have hdata : data.filter (·.1 != "errors") = data :=
    List.filter_eq_self.mpr fun field hfield => by simpa using hne field hfield
  have hnone : data.filter (·.1 == "errors") = [] :=
    List.filter_eq_nil_iff.mpr fun field hfield => by simpa using hne field hfield
  cases errors with
  | nil =>
    simp only [errorFields, List.isEmpty_nil, if_true, List.nil_append, ofJson?, hdata, hnone, hcanonical]
  | cons e errors =>
    have hfirst : ("errors" != "errors") = false ∧ ("errors" == "errors") = true := by decide
    simp only [errorFields, List.isEmpty_cons, Bool.false_eq_true, if_false, List.singleton_append,
      ofJson?, List.filter_cons, hfirst, if_true, hdata, hnone, hcanonical, texts?_array, Option.map_some]

/-- **What the text of a response stands for**: its errors, and of its data what the reader makes. -/
theorem ofText?_text {r : HostResponse} (hr : (Json.object r.data).Stored)
    (herrors : "errors" ∉ r.data.keys) :
    ofText? r.text = (rereadFields (nestingLimit - 1) r.data).map fun data =>
      { errors := r.errors, data := data } := by
  have hread : Json.read? r.text = reread nestingLimit r.toJson :=
    read?_compact fun n => isWord_of_mem_parts_toJson hr
  have hordered : ∀ fields, .object fields ∈ (Json.object r.data).parts → Keyed.Ordered fields :=
    fun fields hfields => hr (.object fields) hfields
  rw [ofText?, hread, toJson_eq, reread, if_neg (by decide), rereadFields_errorFields (by decide)]
  -- the reader changes no key, so the errors are still told from the data, which is still in order
  cases hdata : rereadFields (nestingLimit - 1) r.data with
  | none => rfl
  | some data =>
    have hobject : reread nestingLimit (.object r.data) = some (.object data) := by
      rw [reread, if_neg (by decide), hdata]
      rfl
    obtain ⟨-, hkeys⟩ := canonicalFields_of_reread r.data
      (fun fields hfields => hordered fields (by simp [parts, hfields])) hdata
    have habsent : "errors" ∉ Keyed.keys data := by rwa [Keyed.keys, hkeys]
    exact ofJson?_errorFields r.errors habsent (canonical_of_reread _ hordered hobject)

/-- **A response reads back as itself** exactly when its data nests less deep than the limit and every
number in it survives. -/
theorem ofText?_text_eq_self_iff {r : HostResponse} (hr : (Json.object r.data).Stored)
    (herrors : "errors" ∉ r.data.keys) :
    ofText? r.text = some r ↔ (Json.object r.data).nesting < nestingLimit ∧
      ∀ x, .number x ∈ (Json.object r.data).parts → Survives x := by
  rw [← reread_eq_self_iff _ (by decide), ofText?_text hr herrors, reread, if_neg (by decide)]
  cases rereadFields (nestingLimit - 1) r.data with
  | none => simp
  | some data =>
    obtain ⟨errors, fields⟩ := r
    simp

/-- The errors are not lost or added to, whatever becomes of the data. -/
theorem errors_of_ofText?_text {r r' : HostResponse} (hr : (Json.object r.data).Stored)
    (herrors : "errors" ∉ r.data.keys) (h : ofText? r.text = some r') : r'.errors = r.errors := by
  rw [ofText?_text hr herrors] at h
  obtain ⟨data, -, rfl⟩ := Option.map_eq_some_iff.mp h
  rfl

/-- A response that is read from a text has no field of data where the errors stand. -/
theorem errors_not_mem_of_ofText? {s : String} {r : HostResponse} (h : ofText? s = some r) :
    "errors" ∉ r.data.keys := by
  have hkeys : ∀ fields : List (String × Json),
      (canonicalFields fields).map (·.1) = fields.map (·.1) := by
    intro fields
    induction fields with
    | nil => rfl
    | cons field fields ih => simp [canonicalFields, ih]
  have hdata : ∀ fields : List (String × Json),
      "errors" ∉ Keyed.keys (Keyed.ofList (canonicalFields (fields.filter (·.1 != "errors")))) := by
    intro fields hmem
    obtain ⟨field, hfield, hname⟩ := List.mem_map.mp hmem
    have hkept : field.1 ∈ (canonicalFields (fields.filter (·.1 != "errors"))).map (·.1) :=
      List.mem_map_of_mem (Keyed.mem_ofList hfield)
    rw [hkeys, hname] at hkept
    obtain ⟨field, hfield, hname⟩ := List.mem_map.mp hkept
    simp [hname] at hfield
  obtain ⟨j, -, h⟩ := Option.bind_eq_some_iff.mp h
  cases j with
  | object fields =>
    rw [ofJson?, canonical] at h
    dsimp only at h
    split at h
    · cases h
      exact hdata fields
    · obtain ⟨errors, -, rfl⟩ := Option.map_eq_some_iff.mp h
      exact hdata fields
    · cases h
  | null | bool | integer | number | text | array => cases h

end Pipework.HostResponse
