import Pipework.Proofs.Command.Following
import Pipework.Proofs.Session.Submitting

/-!
# The filter over a session

Whatever lines are submitted to a session, after each of them the filter in force is the one that
its setting asks for, as long as no line asks for a change that the setting cannot follow
(`filter_follows_setting`). Every stage guards that, and so do the watches; what happens between the
lines leaves filter and settings alone.

One setting shows that the condition is needed: a filter that reads as a number is taken, and is
then refused as a value (`filter_without_setting`).
-/

namespace Pipework

namespace Session

variable {s s' : Session}

/-- No stage of the line asks for a change that the setting of the filter cannot follow. -/
def isFaithful (s : Session) (line : String) : Bool :=
  (Stage.parseLine (trimmed line)).zipIdx.all fun (stage, i) =>
    match s.shell.command? stage.command with
    | some spec => Command.isFaithful spec.name (i != 0) stage.args
    | none => true

/-- What comes of a session when faithful lines are submitted to it, each to its end. Between the
lines watches may be set up and keys pressed. -/
inductive Reaches (s₀ : Session) : Session → Prop
  | start : Reaches s₀ s₀
  | submit (fuel : Nat) (time line : String) {s s' : Session} {outcome : Outcome} : Reaches s₀ s →
      s.isFaithful line → s.submit Command.program? fuel time line = (.ok outcome, s') →
      Reaches s₀ s'
  | watch (period : Nat) {s : Session} : Reaches s₀ s → Reaches s₀ (s.watch period)
  | press (presses : Nat) {s : Session} : Reaches s₀ s → Reaches s₀ { s with presses := presses }

/-- A faithful line that is submitted leaves filter and setting in step. -/
theorem inStep_submit (h : s.shell.InStep) {fuel : Nat} {time line : String} {outcome : Outcome}
    (hfaithful : s.isFaithful line)
    (hsubmit : s.submit Command.program? fuel time line = (.ok outcome, s')) : s'.shell.InStep := by
  refine guarded_submit h.named ?_ (fun _ _ hs => hs.history _) h hsubmit
  intro i stage spec hstage hspec pool input output hinput
  have hone := List.all_eq_true.mp hfaithful (stage, i)
    (by simpa [List.mem_zipIdx_iff_getElem?] using hstage)
  simp only [hspec] at hone
  exact Pipeline.guards_stageTask fun program hprogram s hs =>
    Command.guards_program hprogram (hinput ▸ hone) hs

/-- Lines that are faithful keep filter and setting in step. -/
theorem Reaches.inStep {s₀ : Session} (h : s₀.Reaches s) (hstart : s₀.shell.InStep) :
    s.shell.InStep := by
  induction h with
  | start => exact hstart
  | submit fuel time line _ hfaithful hsubmit ih => exact inStep_submit ih hfaithful hsubmit
  | watch period _ ih => exact ih
  | press presses _ ih => exact ih

theorem inStep_start {registry : Registry} {host : Host} {c : Config} {file : HistoryFile}
    (hregistry : registry.Named) (hwritable : c.isWritable) (hplain : (Filter.start c.filter).1.Plain)
    (h : Session.start registry host c file = .ok s) : s.shell.InStep := by
  rcases hfilter : Filter.start c.filter with ⟨filter, records⟩
  have hsame : (Filter.start c.filter).1 = filter := congrArg Prod.fst hfilter
  simp only [start, hfilter, bind, Except.bind] at h
  have hmade : ∀ history, ({ shell := ⟨registry, c, filter, history, host⟩, records := records } :
      Session) = s → s.shell.InStep := by
    rintro history rfl
    exact ⟨hregistry, hwritable, hsame ▸ hplain, hsame⟩
  split at h
  · split at h
    · simp at h
    · exact hmade _ (Except.ok.inj h)
  · exact hmade _ (Except.ok.inj h)

end Session

/-- **The setting of the filter is the filter.** After any lines that have been submitted to a new
session, none of them asking for a change that the setting cannot follow, the filter in force
answers for every subsystem and level as one that is started from its setting. -/
theorem filter_follows_setting {registry : Registry} {host : Host} {c : Config} {file : HistoryFile}
    {s₀ s : Session} (hregistry : registry.Named) (hwritable : c.isWritable)
    (hplain : (Filter.start c.filter).1.Plain)
    (hstart : Session.start registry host c file = .ok s₀) (h : s₀.Reaches s) (subsystem : String)
    (level : Verbosity) :
    s.shell.filter.enabled subsystem level =
      (Filter.start s.shell.config.filter).1.enabled subsystem level := by
  have hstep := h.inStep (Session.inStep_start hregistry hwritable hplain hstart)
  rw [hstep.same]

/-- A filter that is set, and then raised for one subsystem. -/
theorem filter_follows_setting_raised :
    let s₀ : Session := { shell := {} }
    let s₁ := (s₀.submit Command.program? 60 "" "settings debug.filter:history=info | echo a").2
    let s₂ := (s₁.submit Command.program? 60 "" "debug enable pipe | collect").2
    s₂.shell.filter.enabled "pipe" .debug = true ∧
      (Filter.start s₂.shell.config.filter).1.enabled "pipe" .debug = true := by
  intro s₀ s₁ s₂
  have hfirst : (s₀.submit Command.program? 60 "" "settings debug.filter:history=info | echo a").1 =
      .ok { lines := ["a"] } := by decide +kernel
  have hsecond : (s₁.submit Command.program? 60 "" "debug enable pipe | collect").1 =
      .ok { lines := ["debug enabled for 'pipe'"] } := by decide +kernel
  have hreached : s₀.Reaches s₂ :=
    .submit 60 "" "debug enable pipe | collect"
      (.submit 60 "" "settings debug.filter:history=info | echo a" .start (by decide +kernel)
        (Prod.ext hfirst rfl))
      (by decide +kernel) (Prod.ext hsecond rfl)
  have henabled : s₂.shell.filter.enabled "pipe" .debug = true := by decide +kernel
  have hfollows := @filter_follows_setting .builtin .absent .standard ⟨none, true⟩ s₀ s₂
    Registry.named_builtin (by decide) (by decide) rfl hreached "pipe" .debug
  exact ⟨henabled, hfollows ▸ henabled⟩

/-- The filter that reads as a number: every subsystem is traced, while the setting stays. -/
theorem filter_without_setting :
    let s₀ : Session := { shell := {} }
    let s₁ := (s₀.submit Command.program? 60 "" "settings debug.filter:5").2
    s₁.shell.filter.enabled "pipe" .debug = true ∧
      (Filter.start s₁.shell.config.filter).1.enabled "pipe" .debug = false := by
  decide +kernel

end Pipework
