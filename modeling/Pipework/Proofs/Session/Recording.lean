import Pipework.Proofs.Session.Drivers

/-!
# Which lines are recorded

A session passes over a line when the list of its settings, as the line leaves it, names the first
word of the line or, if the line is valid, the canonical name of its first command
(`Session.Recorded`). The first word is the command as typed unless there is a bar in it
(`Stage.head_parseLine`): before a bar there need not be a blank. So of two lines with the same
stages both are recorded or neither is, as long as no bar touches their first commands
(`line_recorded`); otherwise the list may name one and not the other (`line_recorded_at_bar`).
-/

namespace Pipework

variable {programs : Programs} {fuel : Nat} {time line line' : String} {s s' : Session}

/-- The first word of a line. -/
def firstWord (line : String) : String := (wordsOf (trimmed line)).headD ""

/-- The names on the list are those of the line: the word typed first or, if all commands resolve,
the canonical name of the first. -/
def Shell.Lists (s : Shell) (names : List String) (typed line : String) : Prop :=
  typed ∈ names ∨
    (∀ stage ∈ Stage.parseLine line, s.resolve? stage.command ≠ none) ∧
      ∃ stage rest canonical, Stage.parseLine line = stage :: rest ∧
        s.resolve? stage.command = some canonical ∧ canonical ∈ names

namespace Session

/-! ## The end of a line -/

/-- What a line that has come to its end is recorded with. -/
structure Ending where
  /-- The canonical name of the first command, if the line is valid. -/
  head : Option String
  /-- The output. -/
  output : List String
  /-- The machine. -/
  machine : Machine

/-- Run a line to its end without recording it. -/
def ending (programs : Programs) (fuel : Nat) (line : String) (s : Session) : Ending :=
  match (s.prepared programs line).1.validate (s.prepared programs line).2 with
  | (.error errors, _, m) => ⟨none, errors.map fun e => "Error: " ++ e.message, m⟩
  | (.ok (), p, m) =>
    let (lines, m) := run fuel ((s.noted line).machine programs).1 p m
    ⟨p.line.head?, lines, m⟩

/-- Submitting a line runs it to its end and records it. -/
theorem submit_ending (hline : trimmed line ≠ "") {outcome : Outcome}
    (h : s.submit programs fuel time line = (.ok outcome, s')) :
    s' = ((s.noted line).after (s.ending programs fuel line).machine).record time (trimmed line)
      (s.ending programs fuel line).head (s.ending programs fuel line).output := by
  have hsubmits := s.submits programs fuel time line
  rw [h] at hsubmits
  cases hsubmits with
  | blank hblank => exact absurd hblank hline
  | invalid _ hvalid => simp only [ending, hvalid]
  | ended _ hvalid hrun _ => simp only [ending, hvalid, hrun]

theorem skips_iff (c : Config) (typed : String) (head : Option String) :
    skips c typed head ↔ typed ∈ c.skip ∨ ∃ canonical, head = some canonical ∧ canonical ∈ c.skip := by
  simp only [skips, List.any_eq_true, Bool.or_eq_true, beq_iff_eq]
  constructor
  · rintro ⟨name, hname, rfl | rfl⟩
    · exact .inl hname
    · exact .inr ⟨name, rfl, hname⟩
  · rintro (htyped | ⟨canonical, rfl, hname⟩)
    · exact ⟨typed, htyped, .inl rfl⟩
    · exact ⟨canonical, hname, .inr rfl⟩

/-- The name that the first command of a line stands for is told if all its commands resolve. -/
theorem head_ending (canonical : String) :
    (s.ending programs fuel line).head = some canonical ↔
      (∀ stage ∈ Stage.parseLine line, s.shell.resolve? stage.command ≠ none) ∧
        ∃ stage rest, Stage.parseLine line = stage :: rest ∧
          s.shell.resolve? stage.command = some canonical := by
  have hshell : ((s.noted line).machine programs).2.job.shell = s.shell :=
    ((s.noted line).shell_machine programs).1
  unfold ending
  rcases hvalid : (s.prepared programs line).1.validate (s.prepared programs line).2
    with ⟨errors | _, p, m⟩
  · obtain ⟨stage, hstage, hnone⟩ := Pipeline.unknown_of_error hvalid
    rw [Stage.parseLine_trimmed] at hstage
    rw [hshell] at hnone
    refine iff_of_false (by simp) fun hhead => ?_
    exact hhead.1 stage hstage hnone
  · obtain ⟨hall, first, rest, hline, hfirst⟩ := Pipeline.head_of_valid hvalid
    rw [Stage.parseLine_trimmed] at hall hline
    rw [hshell] at hall hfirst
    show p.line.head? = some canonical ↔ _
    rw [hfirst]
    constructor
    · intro hcanonical
      exact ⟨hall, first, rest, hline, hcanonical⟩
    · rintro ⟨-, stage, rest', hline', hcanonical⟩
      obtain ⟨rfl, -⟩ := List.cons.inj (hline.symm.trans hline')
      exact hcanonical

/-- A line is passed over if its names are on the list. -/
theorem skips_ending (c : Config) :
    skips c (firstWord line) (s.ending programs fuel line).head ↔
      s.shell.Lists c.skip (firstWord line) line := by
  rw [skips_iff, Shell.Lists]
  refine or_congr_right ⟨?_, ?_⟩
  · rintro ⟨canonical, hhead, hname⟩
    obtain ⟨hall, stage, rest, hline, hcanonical⟩ := (head_ending canonical).mp hhead
    exact ⟨hall, stage, rest, canonical, hline, hcanonical, hname⟩
  · rintro ⟨hall, stage, rest, canonical, hline, hcanonical, hname⟩
    exact ⟨canonical, (head_ending canonical).mpr ⟨hall, stage, rest, hline, hcanonical⟩, hname⟩

/-! ## Lines with the same stages -/

theorem alike_join (w : Watch) (pool : Nat) {a b : Machine} (h : a.Alike b) :
    (w.join pool a).Alike (w.join pool b) := by
  obtain ⟨job, hjob, rfl⟩ := h
  unfold Watch.join
  dsimp only
  split
  · exact ⟨job, hjob, rfl⟩
  · exact ⟨job, hjob, rfl⟩

/-- The log does not matter to the machine for a line. -/
theorem alike_machine (programs : Programs) (s : Session) (records : List Record) :
    (s.machine programs).2.Alike ({ s with records := records }.machine programs).2 := by
  have hjoin : ∀ (watches : List Watch) (pool : Nat) {a b : Machine}, a.Alike b →
      (watches.foldl (fun m w => w.join pool m) a).Alike
        (watches.foldl (fun m w => w.join pool m) b) := by
    intro watches pool
    induction watches with
    | nil => exact fun h => h
    | cons w watches ih => exact fun h => ih (alike_join w pool h)
  exact hjoin s.watches _ ⟨_, ⟨records, rfl⟩, rfl⟩

/-- Lines with the same stages come to the same end. -/
theorem shell_ending (h : Stage.parseLine line' = Stage.parseLine line) :
    (s.ending programs fuel line').machine.job.shell =
      (s.ending programs fuel line).machine.job.shell := by
  have hmachine : ((s.noted line).machine programs).2.Alike ((s.noted line').machine programs).2 :=
    alike_machine programs (s.noted line) (s.noted line').records
  have hstages : Stage.parseLine (trimmed line') = Stage.parseLine (trimmed line) := by
    rw [Stage.parseLine_trimmed, Stage.parseLine_trimmed, h]
  rcases hvalid : (s.prepared programs line).1.validate (s.prepared programs line).2
    with ⟨answer, p, a⟩
  obtain ⟨q, b, hvalid', hpq, halike, hstate⟩ := alike_validate hmachine hstages hvalid
  replace hvalid' : (s.prepared programs line').1.validate (s.prepared programs line').2 =
    (answer, q, b) := hvalid'
  cases answer with
  | error errors =>
    simp only [ending, hvalid, hvalid']
    exact halike.field (f := (·.shell)) fun _ _ => rfl
  | ok _ =>
    have hself : a.Alike a := ⟨_, .refl _, rfl⟩
    have hran := (alike_run hself ⟨rfl, rfl⟩ (hstate rfl) fuel 0).2
    have hran' := (alike_run halike hpq (hstate rfl) fuel 0).2
    simp only [ending, hvalid, hvalid']
    exact (hran'.field (f := (·.shell)) fun _ _ => rfl).trans
      (hran.field (f := (·.shell)) fun _ _ => rfl).symm

/-! ## Recording -/

/-- What recording makes of a line that has come to its end. -/
structure Recorded (s : Session) (time line : String) (e : Ending) (s' : Session) : Prop where
  /-- A line that the list names is passed over. -/
  skipped : s.shell.Lists s'.shell.config.skip (firstWord line) line → s'.shell = e.machine.job.shell
  /-- Any other is recorded once, with its output. -/
  pushed : ¬ s.shell.Lists s'.shell.config.skip (firstWord line) line →
    s'.shell = { e.machine.job.shell with
      history := (e.machine.job.shell.history.push ⟨trimmed line, e.output, time⟩).2 }
  /-- The list is the one that the line has left. -/
  config : s'.shell.config = e.machine.job.shell.config
  /-- The first word is the first command as typed, unless there is a bar in it. -/
  typed : '|' ∉ (firstWord line).toList →
    (Stage.parseLine line).head?.map (·.command) = some (firstWord line)

theorem recorded_submit (hline : trimmed line ≠ "") {outcome : Outcome}
    (h : s.submit programs fuel time line = (.ok outcome, s')) :
    s.Recorded time line (s.ending programs fuel line) s' := by
  have hend := submit_ending hline h
  have hskips := @skips_ending programs fuel line s
  generalize s.ending programs fuel line = e at hend hskips ⊢
  have hshell := shell_record time (trimmed line) e.head e.output ((s.noted line).after e.machine)
  rw [← hend] at hshell
  obtain ⟨history, records, hrecord⟩ := record_eq time (trimmed line) e.head e.output
    ((s.noted line).after e.machine)
  have hconfig : s'.shell.config = e.machine.job.shell.config := by
    rw [hend, hrecord]
    rfl
  refine ⟨fun hlists => ?_, fun hlists => ?_, hconfig, Stage.head_parseLine hline⟩
  · rw [hconfig] at hlists
    exact hshell.trans (if_pos ((hskips _).mpr hlists))
  · rw [hconfig] at hlists
    exact hshell.trans (if_neg fun hskipped => hlists ((hskips _).mp hskipped))

end Session

/-- **Which lines are recorded.** A line that is not blank is passed over if the settings, as it
leaves them, list the word typed first or, for a valid line, the canonical name of its first
command; otherwise it is recorded once. The word typed first is the first command unless there is a
bar in it, and where there is none, lines with the same stages are recorded or passed over alike. -/
theorem line_recorded (hline : trimmed line ≠ "") {outcome : Outcome}
    (h : s.submit programs fuel time line = (.ok outcome, s')) :
    s.Recorded time line (s.ending programs fuel line) s' ∧
    ∀ line' time' outcome' s'', trimmed line' ≠ "" →
      Stage.parseLine line' = Stage.parseLine line →
      '|' ∉ (firstWord line).toList → '|' ∉ (firstWord line').toList →
      s.submit programs fuel time' line' = (.ok outcome', s'') →
      (s.shell.Lists s''.shell.config.skip (firstWord line') line' ↔
        s.shell.Lists s'.shell.config.skip (firstWord line) line) := by
  have hrecorded := Session.recorded_submit hline h
  refine ⟨hrecorded, ?_⟩
  intro line' time' outcome' s'' hline' hstages hbar hbar' h'
  have hrecorded' := Session.recorded_submit hline' h'
  have hword : firstWord line' = firstWord line := by
    have htyped := hrecorded'.typed hbar'
    rw [hstages, hrecorded.typed hbar] at htyped
    exact (Option.some.inj htyped).symm
  have hconfig : s''.shell.config = s'.shell.config := by
    rw [hrecorded'.config, hrecorded.config, Session.shell_ending hstages]
  rw [hword, hconfig, Shell.Lists, Shell.Lists, hstages]

/-- An alias for a command on the list, typed in two ways. -/
theorem line_recorded_alias :
    let config : Config := { Config.standard with skip := ["echo"], aliases := [("e", "echo")] }
    let s : Session := { shell := { config := config } }
    let s' := (s.submit Command.program? 60 "" "e a | len").2
    let s'' := (s.submit Command.program? 60 "" " e  a|len ").2
    s.Recorded "" "e a | len" (s.ending Command.program? 60 "e a | len") s' ∧
      (s.shell.Lists s''.shell.config.skip (firstWord " e  a|len ") " e  a|len " ↔
        s.shell.Lists s'.shell.config.skip (firstWord "e a | len") "e a | len") ∧
      s'.shell.history.entries = [] ∧ s''.shell.history.entries = [] := by
  intro config s s' s''
  have hfirst : (s.submit Command.program? 60 "" "e a | len").1 =
      .ok { lines := ["1"] } := by decide +kernel
  have hsecond : (s.submit Command.program? 60 "" " e  a|len ").1 =
      .ok { lines := ["1"] } := by decide +kernel
  obtain ⟨hrecorded, hsame⟩ := @line_recorded Command.program? 60 "" "e a | len" s s'
    (by decide +kernel) { lines := ["1"] } (Prod.ext hfirst rfl)
  refine ⟨hrecorded, ?_, by decide +kernel, by decide +kernel⟩
  exact hsame " e  a|len " "" { lines := ["1"] } s'' (by decide +kernel) (by decide +kernel)
    (by decide +kernel) (by decide +kernel) (Prod.ext hsecond rfl)

/-- The list names the command that was typed first, and the line is recorded all the same; with a
blank before the bar it is passed over. -/
theorem line_recorded_at_bar :
    let s : Session := { shell := {} }
    let s' := (s.submit Command.program? 60 "" "help|frob").2
    (Stage.parseLine "help|frob").map (·.command) = ["help", "frob"] ∧
      "help" ∈ s'.shell.config.skip ∧
      s'.shell.history.entries.map (·.command) = ["help|frob"] ∧
      Stage.parseLine "help | frob" = Stage.parseLine "help|frob" ∧
      (s.submit Command.program? 60 "" "help | frob").2.shell.history.entries = [] := by
  decide +kernel

end Pipework
