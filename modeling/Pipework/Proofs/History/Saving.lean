import Pipework.Proofs.History

/-!
# Changes that cannot be saved

A change to a history is made in memory first and written to its file then, so the two part when the
file cannot be written. After any changes, some of which could be saved and some not, the file stands
for the entries as of the last change that was saved (`History.unsaved_changes`):

* what is in memory does not depend on what could be saved (`History.entries_attempt`);
* a change that cannot be saved leaves the file as it was (`History.content_attempt_unsaved`);
* a change that is saved puts into the file all that is in memory, earlier changes included
  (`History.HoldsEntries.attempt`).

So the file lags behind the memory until the next change that can be saved (`History.lagging_file`).
-/

namespace Pipework

namespace History

variable {h opened : History} {file : HistoryFile} {maxSize : Nat} {entries : List HistoryEntry}

/-! ## Attempts -/

/-- A change, and whether the history's file can be written when it is made. -/
structure Attempt where
  /-- The change. -/
  change : Change
  /-- The file can be written. -/
  saves : Bool
  deriving Repr, DecidableEq

/-- The entries after a change, as many as are kept. -/
def changeEntries (maxSize : Nat) (entries : List HistoryEntry) : Change → List HistoryEntry
  | .record e => newest maxSize (entries ++ [e])
  | .forget => []

/-- The history when its file can be written, or when it cannot. -/
def facing (h : History) (saves : Bool) : History :=
  { h with file := h.file.map ({ · with writable := saves }) }

/-- Make a change, and answer whether it was saved. -/
def attempt (h : History) (a : Attempt) : Except ShellError Unit × History :=
  match a.change with
  | .record e => (h.facing a.saves).push e
  | .forget => (h.facing a.saves).clear

/-- The history after some attempts, one after another. -/
def attempts (h : History) (as : List Attempt) : History := as.foldl (fun h a => (h.attempt a).2) h

/-- The attempts up to the last that was saved. -/
def upToSaved (as : List Attempt) : List Attempt := as.rdropWhile (!·.saves)

/-- What the history's file holds. -/
def content (h : History) : Option String := h.file.bind (·.content)

theorem attempts_concat (h : History) (as : List Attempt) (a : Attempt) :
    h.attempts (as ++ [a]) = ((h.attempts as).attempt a).2 := List.foldl_append ..

theorem upToSaved_concat (as : List Attempt) (a : Attempt) :
    upToSaved (as ++ [a]) = if a.saves then as ++ [a] else upToSaved as := by
  cases hsaves : a.saves with
  | true => exact List.rdropWhile_concat_neg _ _ _ (by simp [hsaves])
  | false => exact List.rdropWhile_concat_pos _ _ _ (by simp [hsaves])

/-- Nothing is left out when the last attempt was saved. -/
theorem upToSaved_eq {as : List Attempt} (hlast : ∀ a ∈ as.getLast?, a.saves) : upToSaved as = as := by
  induction as using List.reverseRecOn with
  | nil => rfl
  | append_singleton as a =>
    have hsaves : a.saves := hlast a (by simp)
    rw [upToSaved_concat, if_pos hsaves]

/-! ## One attempt -/

/-- An attempt makes its change in memory and then saves the history. -/
theorem attempt_eq (h : History) (a : Attempt) :
    h.attempt a =
      { h.facing a.saves with entries := changeEntries h.maxSize h.entries a.change }.save := by
  obtain ⟨change, saves⟩ := a
  cases change <;> rfl

/-- A change is made in memory whether or not it can be saved. -/
theorem entries_attempt (h : History) (a : Attempt) :
    (h.attempt a).2.entries = changeEntries h.maxSize h.entries a.change := by
  rw [attempt_eq, entries_save]

theorem maxSize_attempt (h : History) (a : Attempt) : (h.attempt a).2.maxSize = h.maxSize := by
  rw [attempt_eq, maxSize_save]
  rfl

/-- What can be saved is written to the file. -/
theorem attempt_saved (hfile : h.file = some file) (change : Change) :
    h.attempt ⟨change, true⟩ =
      (.ok (), { h with
        entries := changeEntries h.maxSize h.entries change
        file := some ⟨some (fileText (changeEntries h.maxSize h.entries change)), true⟩ }) := by
  rw [attempt_eq, facing, hfile]
  rfl

/-- What cannot be saved is an error. -/
theorem attempt_unsaved (hfile : h.file = some file) (change : Change) :
    h.attempt ⟨change, false⟩ =
      (.error (.history "the file cannot be written"), { h with
        entries := changeEntries h.maxSize h.entries change
        file := some { file with writable := false } }) := by
  rw [attempt_eq, facing, hfile]
  rfl

/-- What cannot be saved leaves the file as it was. -/
theorem content_attempt_unsaved (hfile : h.file = some file) (change : Change) :
    (h.attempt ⟨change, false⟩).2.content = h.content := by
  rw [attempt_unsaved hfile, content, content, hfile]
  rfl

/-! ## What the file stands for -/

/-- The history is kept in a file from which the given entries would be opened. -/
structure HoldsEntries (h : History) (maxSize : Nat) (entries : List HistoryEntry) : Prop where
  maxSize_eq : h.maxSize = maxSize
  in_file : ∃ file, h.file = some file ∧ ∃ again, openFile maxSize file = .ok again ∧
    again.entries = entries

theorem holdsEntries_openFile (hopen : openFile maxSize file = .ok opened) :
    opened.HoldsEntries maxSize opened.entries := by
  obtain ⟨all, -, rfl⟩ := openFile_eq_ok hopen
  exact ⟨rfl, file, rfl, _, hopen, rfl⟩

theorem length_changeEntries_le (maxSize : Nat) (entries : List HistoryEntry) (change : Change) :
    (changeEntries maxSize entries change).length ≤ maxSize := by
  cases change with
  | record e => exact length_rtake_le maxSize (entries ++ [e])
  | forget => exact Nat.zero_le maxSize

/-- As many entries as are kept are read back from a file that holds their text. -/
theorem openFile_fileText (hcontent : file.content = some (fileText entries))
    (hlength : entries.length ≤ maxSize) :
    ∃ again, openFile maxSize file = .ok again ∧ again.entries = entries := by
  have hread : entriesOf? (file.content.getD "") = some entries := by
    rw [hcontent]
    exact entriesOf?_fileText entries
  have hall : entries.rtake maxSize = entries := by
    rw [List.rtake, Nat.sub_eq_zero_of_le hlength, List.drop_zero]
  exact ⟨_, openFile_eq hread maxSize, hall⟩

/-- What is opened depends on what the file holds, and not on whether it can be written. -/
theorem openFile_congr {file' : HistoryFile} (hcontent : file'.content = file.content)
    (hopen : openFile maxSize file = .ok opened) :
    openFile maxSize file' = .ok { opened with file := some file' } := by
  obtain ⟨all, hread, rfl⟩ := openFile_eq_ok hopen
  rw [← hcontent] at hread
  exact openFile_eq hread maxSize

/-- After an attempt the file stands for what is in memory if the attempt was saved, and otherwise
for what it stood for before. -/
theorem HoldsEntries.attempt (hholds : h.HoldsEntries maxSize entries) (a : Attempt) :
    (h.attempt a).2.HoldsEntries maxSize
      (if a.saves then (h.attempt a).2.entries else entries) := by
  obtain ⟨hsize, file, hfile, again, hopen, hentries⟩ := hholds
  refine ⟨(maxSize_attempt h a).trans hsize, ?_⟩
  obtain ⟨change, saves⟩ := a
  cases saves with
  | true =>
    rw [attempt_saved hfile]
    have hlength := length_changeEntries_le h.maxSize h.entries change
    exact ⟨_, rfl, openFile_fileText rfl (hsize ▸ hlength)⟩
  | false =>
    rw [attempt_unsaved hfile]
    have hsame : ({ file with writable := false } : HistoryFile).content = file.content := rfl
    exact ⟨_, rfl, _, openFile_congr hsame hopen, hentries⟩

theorem HoldsEntries.attempts (hholds : h.HoldsEntries maxSize h.entries) (as : List Attempt) :
    (h.attempts as).HoldsEntries maxSize (h.attempts (upToSaved as)).entries := by
  induction as using List.reverseRecOn with
  | nil => exact hholds
  | append_singleton as a ih =>
    have hlast := ih.attempt a
    rw [upToSaved_concat, attempts_concat]
    cases hsaves : a.saves with
    | true =>
      rw [if_pos rfl, attempts_concat]
      rwa [hsaves, if_pos rfl] at hlast
    | false =>
      rw [if_neg Bool.false_ne_true]
      rwa [hsaves, if_neg Bool.false_ne_true] at hlast

/-! ## Reopening -/

/-- **What is on file of changes that could not be saved.** Open a history on a file, whatever is in
it, and record entries and empty the history in any order, the file being writable for some of the
changes and not for others. Another change that cannot be saved is answered with an error and leaves
the file as it was, and is made in memory no less than if it had been saved. A history opened on the
file then, with the same maximum, has the entries that were in memory after the last change that was
saved, or as opened if none was; so it has what is in memory if the last change was saved. -/
theorem unsaved_changes (hopen : openFile maxSize file = .ok opened) (as : List Attempt) :
    (∀ change, ∃ error after, (opened.attempts as).attempt ⟨change, false⟩ = (.error error, after) ∧
      after.content = (opened.attempts as).content ∧
      after.entries = ((opened.attempts as).attempt ⟨change, true⟩).2.entries) ∧
    ∃ left again, (opened.attempts as).file = some left ∧ openFile maxSize left = .ok again ∧
      again.entries = (opened.attempts (upToSaved as)).entries ∧
      ((∀ a ∈ as.getLast?, a.saves) → again.entries = (opened.attempts as).entries) := by
  obtain ⟨-, left, hleft, again, hagain, hentries⟩ := (holdsEntries_openFile hopen).attempts as
  refine ⟨fun change => ?_, left, again, hleft, hagain, hentries, fun hlast => ?_⟩
  · have hcontent := content_attempt_unsaved hleft change
    rw [attempt_unsaved hleft] at hcontent
    refine ⟨_, _, attempt_unsaved hleft change, hcontent, ?_⟩
    rw [entries_attempt]
  · rw [hentries, upToSaved_eq hlast]

/-- A saved entry, one that is not saved and pushes the first out of memory, and one more after them
that is saved again. -/
theorem unsaved_changes_one :
    let a : HistoryEntry := ⟨"a", [], "t₀"⟩
    let b : HistoryEntry := ⟨"b", ["x"], "t₁"⟩
    let file : HistoryFile := { content := none }
    ∃ opened left again left' again', openFile 1 file = .ok opened ∧
      (opened.attempts [⟨.record a, true⟩, ⟨.record b, false⟩]).entries = [b] ∧
      (opened.attempts [⟨.record a, true⟩, ⟨.record b, false⟩]).file = some left ∧
      openFile 1 left = .ok again ∧ again.entries = [a] ∧
      (opened.attempts [⟨.record a, true⟩, ⟨.record b, false⟩, ⟨.record b, true⟩]).file = some left' ∧
      openFile 1 left' = .ok again' ∧ again'.entries = [b] := by
  intro a b file
  have hopen : openFile 1 file = .ok { entries := [], maxSize := 1, file := some file } := rfl
  obtain ⟨left, again, hleft, hagain, hentries, -⟩ :=
    (unsaved_changes hopen [⟨.record a, true⟩, ⟨.record b, false⟩]).2
  obtain ⟨left', again', hleft', hagain', hentries', -⟩ :=
    (unsaved_changes hopen [⟨.record a, true⟩, ⟨.record b, false⟩, ⟨.record b, true⟩]).2
  exact ⟨_, left, again, left', again', hopen, rfl, hleft, hagain, hentries, hleft', hagain',
    hentries'⟩

/-- An entry that cannot be written to a new file is in memory all the same, and not in the file. -/
theorem lagging_file :
    let file : HistoryFile := { content := none, writable := false }
    let e : HistoryEntry := ⟨"echo a", ["a"], "t₀"⟩
    ∃ opened error after again, openFile 2 file = .ok opened ∧
      opened.push e = (.error error, after) ∧ after.entries ≠ opened.entries ∧
      after.file = some file ∧ openFile 2 file = .ok again ∧ again.entries ≠ after.entries :=
  ⟨_, _, _, _, rfl, rfl, by decide, rfl, rfl, by decide⟩

end History

end Pipework
