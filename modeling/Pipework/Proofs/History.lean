import Mathlib.Data.List.DropRight
import Pipework.History
import Pipework.Proofs.Json.ReadBack
import Pipework.Proofs.Text.Segments

/-!
# Histories kept in files

A history that is kept in a file answers after any changes with the newest of the entries recorded
since it was last emptied, and so does one that is opened from the file later, whatever its own
maximum (`History.persistent`):

* dropping the oldest entry after each record amounts to keeping the newest of all
  (`rtake_append_rtake`);
* what is written to the file reads back, in every field (`History.entriesOf?_fileText`);
* so after each change the entries in memory and those in the file are the same (`History.Kept`).
-/

namespace Pipework

/-! ## The end of a list -/

theorem length_rtake_le {α : Type*} (n : Nat) (xs : List α) : (xs.rtake n).length ≤ n := by
  unfold List.rtake
  rw [List.length_drop]
  omega

theorem rtake_append_rtake {α : Type*} (n : Nat) (xs ys : List α) :
    (xs.rtake n ++ ys).rtake n = (xs ++ ys).rtake n := by
  have hdrop : xs.drop (xs.length - n) ++ ys = (xs ++ ys).drop (xs.length - n) :=
    (List.drop_append_of_le_length (Nat.sub_le _ _)).symm
  unfold List.rtake
  rw [hdrop, List.drop_drop]
  congr 1
  simp only [List.length_drop, List.length_append]
  omega

/-! ## Entries in a file -/

namespace HistoryEntry

/-- The fields that are written of an entry. -/
def fields (e : HistoryEntry) : List (String × Json) :=
  [("command", .text e.command), ("output", .array (e.output.map .text)),
    ("timestamp", .text e.timestamp)]

theorem ofJson?_fields (e : HistoryEntry) : ofJson? (.object e.fields) = some e := by
  simp [ofJson?, fields, only?, Json.text?, Json.texts?_array]

theorem fieldsReadBack (e : HistoryEntry) (level : Nat) :
    Json.FieldsReadBack fieldNames level e.fields := by
  have hdeep : 1 < Json.nestingLimit := by decide
  intro field hfield
  simp only [fields, List.mem_cons, List.not_mem_nil, or_false] at hfield
  rcases hfield with rfl | rfl | rfl
  · exact ⟨by simp [fieldNames], Json.readsBack_text _ level _⟩
  · exact ⟨by simp [fieldNames], Json.readsBack_texts hdeep level _⟩
  · exact ⟨by simp [fieldNames], Json.readsBack_text _ level _⟩

end HistoryEntry

namespace History

theorem trim_ne_nil {c : Char} (hc : Text.isBlank c = false) (cs : List Char) :
    Text.trim (c :: cs) ≠ [] := by
  intro h
  rw [Text.trim, Text.trimLeft, List.dropWhile_cons, hc, if_neg Bool.false_ne_true, Text.trimRight,
    List.reverse_eq_nil_iff, List.dropWhile_eq_nil_iff] at h
  have hblank := h c (by simp)
  rw [hc] at hblank
  exact Bool.false_ne_true hblank

/-- What is written of entries is read as those entries. -/
theorem entriesOf?_fileText (entries : List HistoryEntry) :
    entriesOf? (fileText entries) = some entries := by
  have hobjects : entries.map HistoryEntry.toJson =
      (entries.map HistoryEntry.fields).map Json.object := by
    rw [List.map_map]
    rfl
  have hfields : ∀ fields ∈ entries.map HistoryEntry.fields,
      fields ≠ [] ∧ Json.FieldsReadBack HistoryEntry.fieldNames 2 fields := by
    intro fields hfields
    obtain ⟨e, -, rfl⟩ := List.mem_map.mp hfields
    exact ⟨List.cons_ne_nil _ _, e.fieldsReadBack 2⟩
  have hrecords := Json.records?_pretty hfields
  -- the text begins with a bracket, so it is not blank
  have hstart : ∃ cs, (fileText entries).toList = '[' :: cs := by
    rw [fileText, Json.pretty, String.toList_ofList]
    cases entries with
    | nil => exact ⟨_, rfl⟩
    | cons e entries => exact ⟨_, Json.prettyText_array 0 (by simp)⟩
  obtain ⟨cs, hcs⟩ := hstart
  have hne := trim_ne_nil (c := '[') (by decide) cs
  rw [entriesOf?, hcs, if_neg (by simpa using hne), fileText, hobjects, hrecords, Option.bind_eq_bind,
    Option.bind_some, List.map_map]
  exact Json.mapM_map_some HistoryEntry.ofJson?_fields entries

/-! ## Saving -/

theorem entries_save (h : History) : h.save.2.entries = h.entries := by
  unfold save
  split
  · rfl
  · split <;> rfl

theorem maxSize_save (h : History) : h.save.2.maxSize = h.maxSize := by
  unfold save
  split
  · rfl
  · split <;> rfl

/-! ## Changes -/

/-- A change to a history. -/
inductive Change where
  /-- An entry is recorded. -/
  | record (e : HistoryEntry)
  /-- Every entry is forgotten. -/
  | forget
  deriving Repr, DecidableEq

/-- The entry that a change records. -/
def Change.added? : Change → Option HistoryEntry
  | .record e => some e
  | .forget => none

/-- The history after a change; the error of a change that could not be saved. -/
def changed (h : History) (c : Change) : Except ShellError History :=
  match (match c with | .record e => h.push e | .forget => h.clear) with
  | (.ok (), h) => .ok h
  | (.error e, _) => .error e

/-- The history after some changes, one after another. -/
def changes (h : History) (cs : List Change) : Except ShellError History := cs.foldlM changed h

/-- The entries recorded since the history was last emptied. -/
def recorded (cs : List Change) : List HistoryEntry :=
  (cs.rtakeWhile (·.added?.isSome)).filterMap Change.added?

theorem recorded_record (cs : List Change) (e : HistoryEntry) :
    recorded (cs ++ [.record e]) = recorded cs ++ [e] := by
  rw [recorded, List.rtakeWhile_concat_pos _ _ _ rfl, List.filterMap_append]
  rfl

theorem recorded_forget (cs : List Change) : recorded (cs ++ [.forget]) = [] := by
  rw [recorded, List.rtakeWhile_concat_neg _ _ _ (by simp [Change.added?])]
  rfl

/-- A history kept in a file to which all writes succeed, after the given entries: it has the newest
of them, and so has the file. -/
structure Kept (h : History) (maxSize : Nat) (entries : List HistoryEntry) : Prop where
  maxSize_eq : h.maxSize = maxSize
  entries_eq : h.entries = entries.rtake maxSize
  in_file : ∃ file, h.file = some file ∧ file.writable ∧
    entriesOf? (file.content.getD "") = some h.entries

theorem kept_save {h : History} {maxSize : Nat} {entries : List HistoryEntry}
    (hsize : h.maxSize = maxSize) (hentries : h.entries = entries.rtake maxSize) {file : HistoryFile}
    (hfile : h.file = some file) (hwrites : file.writable) :
    ∃ saved, h.save = (.ok (), saved) ∧ saved.Kept maxSize entries := by
  refine ⟨{ h with file := some { file with content := some (fileText h.entries) } }, ?_,
    hsize, hentries, _, rfl, hwrites, ?_⟩
  · rw [save, hfile]
    simp [hwrites]
  · exact entriesOf?_fileText h.entries

theorem Kept.record {h : History} {maxSize : Nat} {entries : List HistoryEntry}
    (hkept : h.Kept maxSize entries) (e : HistoryEntry) :
    ∃ after, h.changed (.record e) = .ok after ∧ after.Kept maxSize (entries ++ [e]) := by
  obtain ⟨hsize, hentries, file, hfile, hwrites, -⟩ := hkept
  have hnewest : newest h.maxSize (h.entries ++ [e]) = (entries ++ [e]).rtake maxSize := by
    rw [hsize, hentries]
    exact rtake_append_rtake maxSize entries [e]
  obtain ⟨after, hsave, hafter⟩ := kept_save (h := { h with entries := newest h.maxSize (h.entries ++ [e]) })
    hsize hnewest hfile hwrites
  exact ⟨after, by simp only [changed, push, hsave], hafter⟩

theorem Kept.forget {h : History} {maxSize : Nat} {entries : List HistoryEntry}
    (hkept : h.Kept maxSize entries) : ∃ after, h.changed .forget = .ok after ∧ after.Kept maxSize [] := by
  obtain ⟨hsize, -, file, hfile, hwrites, -⟩ := hkept
  have hnone : [] = ([] : List HistoryEntry).rtake maxSize := by simp
  obtain ⟨after, hsave, hafter⟩ := kept_save (h := { h with entries := [] }) hsize hnone hfile hwrites
  exact ⟨after, by simp only [changed, clear, hsave], hafter⟩

/-- Every sequence of changes is carried out. -/
theorem Kept.changes {h : History} {maxSize : Nat} (hkept : h.Kept maxSize []) (cs : List Change) :
    ∃ after, h.changes cs = .ok after ∧ after.Kept maxSize (recorded cs) := by
  -- by induction from the last change, since `recorded` looks back from there
  induction cs using List.reverseRecOn with
  | nil => exact ⟨h, rfl, hkept⟩
  | append_singleton cs c ih =>
    obtain ⟨before, hbefore, hcs⟩ := ih
    have hlast : h.changes (cs ++ [c]) = before.changed c := by
      rw [History.changes, List.foldlM_append, ← History.changes, hbefore]
      exact bind_pure (before.changed c)
    rw [hlast]
    cases c with
    | record e =>
      rw [recorded_record]
      exact hcs.record e
    | forget =>
      rw [recorded_forget]
      exact hcs.forget

end History

/-! ## Opening -/

/-- There is no such file, or nothing but blanks in it. -/
def HistoryFile.Blank (file : HistoryFile) : Prop :=
  ∀ text ∈ file.content, ∀ c ∈ text.toList, Text.isBlank c

namespace History

theorem entriesOf?_blank {file : HistoryFile} (h : file.Blank) :
    entriesOf? (file.content.getD "") = some [] := by
  have htrim : ∀ cs : List Char, (∀ c ∈ cs, Text.isBlank c) → Text.trim cs = [] := by
    intro cs hcs
    induction cs with
    | nil => rfl
    | cons c cs ih =>
      rw [Text.trim_blank_cons (hcs c List.mem_cons_self)]
      exact ih fun d hd => hcs d (List.mem_cons_of_mem _ hd)
  have hblank : Text.trim (file.content.getD "").toList = [] := by
    refine htrim _ fun c hc => ?_
    cases hcontent : file.content with
    | none => simp [hcontent] at hc
    | some text =>
      rw [hcontent] at hc
      exact h text (by simp [hcontent]) c hc
  simp [entriesOf?, hblank]

theorem openFile_eq {file : HistoryFile} {entries : List HistoryEntry}
    (h : entriesOf? (file.content.getD "") = some entries) (maxSize : Nat) :
    openFile maxSize file =
      .ok { entries := entries.rtake maxSize, maxSize := maxSize, file := some file } := by
  rw [openFile, h]
  rfl

/-- A file is opened when its text can be read, whether or not it can be written. -/
theorem openFile_eq_ok {file : HistoryFile} {maxSize : Nat} {opened : History}
    (hopen : openFile maxSize file = .ok opened) :
    ∃ all, entriesOf? (file.content.getD "") = some all ∧
      opened = { entries := newest maxSize all, maxSize := maxSize, file := some file } := by
  unfold openFile at hopen
  split at hopen
  · next all hread => exact ⟨all, hread, (Except.ok.inj hopen).symm⟩
  · cases hopen

/-- A blank file is an empty history. -/
theorem kept_openFile {file : HistoryFile} (hblank : file.Blank) (hwrites : file.writable)
    (maxSize : Nat) : ∃ opened, openFile maxSize file = .ok opened ∧ opened.Kept maxSize [] := by
  have hempty := entriesOf?_blank hblank
  refine ⟨_, openFile_eq hempty maxSize, rfl, rfl, file, rfl, hwrites, ?_⟩
  simpa using hempty

/-- **Entries outlive the history they were recorded in.** Open a history on a missing or blank file
to which all writes succeed, and record entries and empty it in any order. Every change is carried
out; the history has the newest of the entries recorded since it was last emptied, as many as its
maximum allows, oldest first; and a history opened on the file afterwards, with whatever maximum, has
the newest of those, unchanged. -/
theorem persistent {file : HistoryFile} (hblank : file.Blank) (hwrites : file.writable)
    (maxSize : Nat) (cs : List Change) :
    ∃ opened after left, openFile maxSize file = .ok opened ∧ opened.changes cs = .ok after ∧
      after.entries = (recorded cs).rtake maxSize ∧ after.file = some left ∧
      ∀ maxSize', ∃ again, openFile maxSize' left = .ok again ∧
        again.entries = after.entries.rtake maxSize' := by
  obtain ⟨opened, hopened, hkept⟩ := kept_openFile hblank hwrites maxSize
  obtain ⟨after, hafter, hsize, hentries, left, hleft, -, hread⟩ := hkept.changes cs
  exact ⟨opened, after, left, hopened, hafter, hentries, hleft,
    fun maxSize' => ⟨_, openFile_eq hread maxSize', rfl⟩⟩

/-- On a file that holds a line break, an entry that is forgotten and three that are not, the last
with a quote, a line break and a control character in it. -/
theorem persistent_three :
    let file : HistoryFile := { content := some "\n" }
    let last : HistoryEntry := ⟨"echo \"ü\"", ["a\nb", "\x01"], "2024-05-01T00:00:00+00:00"⟩
    let cs : List Change := [.record ⟨"clear", [], "t₀"⟩, .forget, .record ⟨"a", [], "t₁"⟩,
      .record ⟨"b", [""], "t₂"⟩, .record last]
    file.Blank ∧ file.writable ∧
      ∃ opened after left, openFile 2 file = .ok opened ∧ opened.changes cs = .ok after ∧
        after.entries = [⟨"b", [""], "t₂"⟩, last] ∧ after.file = some left ∧
        ∃ again, openFile 1 left = .ok again ∧ again.entries = [last] := by
  intro file last cs
  have hblank : file.Blank := by
    intro text htext
    obtain rfl : "\n" = text := by simpa [file] using htext
    have hchars : "\n".toList = ['\n'] := by simp
    intro c hc
    rw [hchars, List.mem_singleton] at hc
    subst hc
    rfl
  obtain ⟨opened, after, left, hopened, hafter, hentries, hleft, hagain⟩ :=
    persistent hblank (rfl : file.writable) 2 cs
  obtain ⟨again, hopen, heq⟩ := hagain 1
  have hentries : after.entries = [⟨"b", [""], "t₂"⟩, last] := hentries
  rw [hentries] at heq
  exact ⟨hblank, rfl, opened, after, left, hopened, hafter, hentries, hleft, again, hopen, heq⟩

end History

end Pipework
