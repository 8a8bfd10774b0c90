import Pipework.Command.Programs
import Pipework.Proofs.Command.Registry
import Pipework.Proofs.Job.SoloLine

/-!
# Recalling the output of an earlier line

Seen from its end a history has its newest entry first, so the entry `n` lines back has the index
`n - 1` there (`History.get?_neg`). `_` finds this entry as long as its count fits into a signed number
of 64 bits (`Command.plays_previous_back`). The next greater count has no opposite and ends the program
(`Command.plays_previous_crash`); a count beyond that becomes a negative number, whose opposite counts
the entries from the oldest one on (`Command.plays_previous_front`).
-/

namespace Pipework

namespace History

variable (h : History)

/-- The entry so many lines back; the newest one is one line back. -/
def back? (n : Nat) : Option HistoryEntry := h.entries.reverse[n - 1]?

/-- There are not so many entries. -/
theorem back?_eq_none {n : Nat} (hn : h.entries.length < n) : h.back? n = none := by
  refine List.getElem?_eq_none ?_
  rw [List.length_reverse]
  omega

/-- Negative indices count from the end. -/
theorem get?_neg {n : Nat} (hpos : 0 < n) : h.get? (-(n : Int)) = h.back? n := by
  have hneg : -(n : Int) < 0 := by omega
  simp only [get?, hneg, if_true]
  by_cases hn : n ≤ h.entries.length
  · rw [if_pos (by omega), back?, List.getElem?_reverse (by omega)]
    congr 1
    omega
  · rw [if_neg (by omega), h.back?_eq_none (by omega)]

/-- Other indices count from the oldest entry. -/
theorem get?_natCast (n : Nat) : h.get? (n : Int) = h.entries[n]? := by
  have hnonneg : ¬ (n : Int) < 0 := by omega
  simp only [get?, hnonneg, if_false]
  rw [if_pos (by omega), Int.toNat_natCast]

end History

/-- What is read is not above the bound. -/
theorem Number.natural?_le {bound n : Nat} {cs : List Char} (h : natural? bound cs = some n) :
    n ≤ bound := by
  simp only [natural?, Option.ite_none_left_eq_some, Option.ite_none_right_eq_some,
    Option.some.injEq] at h
  obtain ⟨-, hle, rfl⟩ := h
  exact hle

/-- A count is positive, and has 64 bits. -/
theorem count?_some {args : Option String} {n : Nat} (h : count? args = some n) :
    0 < n ∧ n ≤ Number.maxWord := by
  simp only [count?, Option.bind_eq_bind, Option.bind_eq_some_iff] at h
  obtain ⟨_, _, word, _, k, hk, hpositive⟩ := h
  split at hpositive
  · obtain rfl := Option.some.inj hpositive
    exact ⟨‹_›, Number.natural?_le hk⟩
  · simp at hpositive

namespace Command

open Behavior

/-! ## Signed counts -/

theorem signedCount_of_lt {n : Nat} (h : n < 2 ^ 63) : signedCount n = n := if_pos h

theorem signedCount_of_le {n : Nat} (h : 2 ^ 63 ≤ n) : signedCount n = -((2 ^ 64 - n : Int)) := by
  have hbig : ¬ n < Nat.pow 2 63 := Nat.not_lt.mpr h
  rw [signedCount, if_neg hbig]
  change (n : Int) - 2 ^ 64 = _
  omega

/-- What an entry has written, as items. -/
def entryItems (e : Option HistoryEntry) : List Value :=
  (e.map fun e => e.output.map .text).getD []

/-! ## The program -/

section Program

variable (hasInput : Bool) {args : Option String} (r : Room)

/-- The program gives what the entry at some index has written. -/
theorem plays_previous {index : Int} (hindex : -signedCount (countOr 1 args) = index)
    (hfits : signedCount (countOr 1 args) ≠ -(Int.pow 2 63)) :
    (previous hasInput args).Plays r (entryItems (r.shell.history.get? index))
      (.done (), { r with input := none }) := by
  refine (plays_drain r).then ?_
  rw [if_neg hfits]
  refine (plays_shell _).then ?_
  rw [hindex]
  unfold entryItems
  cases r.shell.history.get? index with
  | none => exact plays_result _ ()
  | some e => exact plays_writeAll _ _

variable {n : Nat} (hcount : count? args = some n)

include hcount

/-- A count of 63 bits gives the entry so many lines back. -/
theorem plays_previous_back (hn : n < 2 ^ 63) :
    (previous hasInput args).Plays r (entryItems (r.shell.history.back? n))
      (.done (), { r with input := none }) := by
  have hsigned : signedCount (countOr 1 args) = n := by
    rw [countOr, hcount, Option.getD_some, signedCount_of_lt hn]
  rw [← r.shell.history.get?_neg (count?_some hcount).1]
  refine plays_previous hasInput r (by rw [hsigned]) ?_
  rw [hsigned]
  change (n : Int) ≠ -(2 ^ 63)
  omega

/-- The one count that has no opposite ends the program. -/
theorem plays_previous_crash (hn : n = 2 ^ 63) :
    (previous hasInput args).Plays r [] (.crashed, { r with input := none }) := by
  have hsigned : signedCount (countOr 1 args) = -(Int.pow 2 63) := by
    rw [countOr, hcount, Option.getD_some, hn]
    rfl
  refine (plays_drain r).then ?_
  rw [if_pos hsigned]
  exact plays_crash _

/-- A count beyond that is taken for a negative one, and gives an entry from the other end. -/
theorem plays_previous_front (hn : 2 ^ 63 < n) :
    (previous hasInput args).Plays r (entryItems r.shell.history.entries[2 ^ 64 - n]?)
      (.done (), { r with input := none }) := by
  have hsigned : signedCount (countOr 1 args) = -((2 ^ 64 - n : Int)) := by
    rw [countOr, hcount, Option.getD_some, signedCount_of_le hn.le]
  have hmax : n ≤ 2 ^ 64 - 1 := (count?_some hcount).2
  rw [← r.shell.history.get?_natCast]
  -- the opposite of the negative count is an index from the beginning
  refine plays_previous hasInput r ?_ ?_
  · rw [hsigned, Int.neg_neg]
    omega
  · rw [hsigned]
    change -((2 ^ 64 - n : Int)) ≠ -(2 ^ 63)
    omega

end Program

/-! ## Lines -/

section Line

variable {line : String} {m : Machine} {stage : Stage} {spec : CommandSpec} {n : Nat}
  (hnamed : m.job.shell.registry.Named) (hprograms : m.programs = Command.program?)
  (horderly : m.Orderly) (hlevel : m.job.level = 0) (hhalt : m.halt = none)
  (hline : Stage.parseLine line = [stage]) (hspec : m.job.shell.command? stage.command = some spec)
  (hname : spec.name = "_")

include hnamed hprograms horderly hlevel hhalt hline hspec hname

/-- A line of a single `_` gives what the stage writes. -/
theorem completes_previous {out : List Value}
    (hplays : (previous false stage.args).Plays ⟨{}, m.job.shell⟩ out (.done (), ⟨{}, m.job.shell⟩)) :
    m.Completes line out m.job.errors m.job.shell := by
  have hprogram : Command.program? spec.name = some previous := by rw [hname]; rfl
  have hends : (previous false stage.args).Plays ⟨{}, m.job.shell⟩ out
      (.ofExcept (.ok ()), ⟨{}, m.job.shell⟩) := hplays
  have hrun := Machine.runLine_solo hnamed hprograms horderly hlevel hhalt hline hspec hprogram hends
  rwa [Machine.reported, List.append_nil] at hrun

theorem crashes_previous
    (hplays : (previous false stage.args).Plays ⟨{}, m.job.shell⟩ [] (.crashed, ⟨{}, m.job.shell⟩)) :
    m.Crashes line := by
  have hprogram : Command.program? spec.name = some previous := by rw [hname]; rfl
  exact Machine.runLine_crashed hnamed hprograms horderly hlevel hhalt hline hspec hprogram hplays

/-- **The output of an earlier line.** A count below `2 ^ 63` gives what the entry so many lines back has
written, and nothing if there are not so many entries. The count `2 ^ 63` ends the program. A greater one
gives what the entry at the index `2 ^ 64 - n` has written, counted from the oldest entry. So does a stage
in any place, with any input, and a line that consists of the stage. -/
theorem previous_recalls (hcount : count? stage.args = some n) :
    (n < 2 ^ 63 →
      (∀ hasInput r, (previous hasInput stage.args).Plays r (entryItems (r.shell.history.back? n))
        (.done (), { r with input := none })) ∧
      m.Completes line (entryItems (m.job.shell.history.back? n)) m.job.errors m.job.shell) ∧
    (n = 2 ^ 63 →
      (∀ hasInput r, (previous hasInput stage.args).Plays r [] (.crashed, { r with input := none })) ∧
      m.Crashes line) ∧
    (2 ^ 63 < n →
      (∀ hasInput r, (previous hasInput stage.args).Plays r
        (entryItems r.shell.history.entries[2 ^ 64 - n]?) (.done (), { r with input := none })) ∧
      m.Completes line (entryItems m.job.shell.history.entries[2 ^ 64 - n]?) m.job.errors
        m.job.shell) := by
  refine ⟨fun hn => ?_, fun hn => ?_, fun hn => ?_⟩
  · have hplays := fun hasInput r => plays_previous_back hasInput r hcount hn
    exact ⟨hplays, completes_previous hnamed hprograms horderly hlevel hhalt hline hspec hname
      (hplays false _)⟩
  · have hplays := fun hasInput r => plays_previous_crash hasInput r hcount hn
    exact ⟨hplays, crashes_previous hnamed hprograms horderly hlevel hhalt hline hspec hname
      (hplays false _)⟩
  · have hplays := fun hasInput r => plays_previous_front hasInput r hcount hn
    exact ⟨hplays, completes_previous hnamed hprograms horderly hlevel hhalt hline hspec hname
      (hplays false _)⟩

end Line

/-- A machine on which two lines have been recorded. -/
def twoRecorded : Machine where
  job := { shell := { history :=
    { entries := [⟨"echo a", ["a"], "2026-01-05"⟩, ⟨"echo b", ["b"], "2026-01-06"⟩], maxSize := 10 } } }
  programs := Command.program?

theorem orderly_twoRecorded : twoRecorded.Orderly := fun _ he => absurd he List.not_mem_nil

theorem command?_twoRecorded :
    ∃ spec, twoRecorded.job.shell.command? "_" = some spec ∧ spec.name = "_" :=
  Shell.command?_builtin rfl (by decide +kernel)

/-- Two lines back, and at the beginning of the range in which counts are taken for negative ones. -/
theorem previous_recalls_two :
    twoRecorded.Completes "_ 2" [.text "a"] [] twoRecorded.job.shell ∧
      twoRecorded.Crashes "_ 9223372036854775808" ∧
      twoRecorded.Completes "_ 9223372036854775809" [] [] twoRecorded.job.shell := by
  obtain ⟨spec, hspec, hname⟩ := command?_twoRecorded
  refine ⟨?_, ?_, ?_⟩
  · exact ((@previous_recalls "_ 2" twoRecorded ⟨"_", some "2"⟩ spec 2 Registry.named_builtin rfl
      orderly_twoRecorded rfl rfl (by decide +kernel) hspec hname (by decide +kernel)).1
      (by decide)).2
  · exact ((@previous_recalls "_ 9223372036854775808" twoRecorded ⟨"_", some "9223372036854775808"⟩ spec
      9223372036854775808 Registry.named_builtin rfl orderly_twoRecorded rfl rfl (by decide +kernel) hspec
      hname (by decide +kernel)).2.1 (by decide)).2
  · exact ((@previous_recalls "_ 9223372036854775809" twoRecorded ⟨"_", some "9223372036854775809"⟩ spec
      9223372036854775809 Registry.named_builtin rfl orderly_twoRecorded rfl rfl (by decide +kernel) hspec
      hname (by decide +kernel)).2.2 (by decide)).2

/-- A count that is greater than the number of entries gives one of them, and another one ends the
program. -/
theorem previous_recalls_wrapped :
    let far := 18446744073709551615
    count? (some "18446744073709551615") = some far ∧ twoRecorded.job.shell.history.back? far = none ∧
      twoRecorded.Completes "_ 18446744073709551615" [.text "b"] [] twoRecorded.job.shell ∧
      (∀ errors shell, ¬ twoRecorded.Completes "_ 18446744073709551615"
        (entryItems (twoRecorded.job.shell.history.back? far)) errors shell) ∧
      count? (some "9223372036854775808") = some 9223372036854775808 ∧
      twoRecorded.Crashes "_ 9223372036854775808" := by
  obtain ⟨spec, hspec, hname⟩ := command?_twoRecorded
  have hfar : count? (some "18446744073709551615") = some 18446744073709551615 := by decide +kernel
  have hedge : count? (some "9223372036854775808") = some 9223372036854775808 := by decide +kernel
  have hnone : twoRecorded.job.shell.history.back? 18446744073709551615 = none := by decide
  have hcompletes : twoRecorded.Completes "_ 18446744073709551615" [.text "b"] []
      twoRecorded.job.shell :=
    completes_previous Registry.named_builtin rfl orderly_twoRecorded rfl rfl
      (show _ = [(⟨"_", some "18446744073709551615"⟩ : Stage)] from by decide +kernel) hspec hname
      (plays_previous_front false _ hfar (by decide))
  refine ⟨hfar, hnone, hcompletes, fun errors shell hnothing => ?_, hedge, ?_⟩
  · rw [hnone] at hnothing
    exact List.cons_ne_nil _ _ (hcompletes.unique hnothing).1
  · exact crashes_previous Registry.named_builtin rfl orderly_twoRecorded rfl rfl
      (show _ = [(⟨"_", some "9223372036854775808"⟩ : Stage)] from by decide +kernel) hspec hname
      (plays_previous_crash false _ hedge rfl)

end Command

end Pipework
