import Pipework.Proofs.Command.Pumping
import Pipework.Proofs.Job.Launching
import Pipework.Proofs.Text.Segments

/-!
# An endless line that is cut

`yes` never ends by itself, and a stage that passes its input on ends only when its input does. In the
line `yes TEXT | pause | .. | head COUNT | pause | ..` they all end nevertheless: `head` does after its
count, the stages behind it then see the end of data, and those before it find their pipes broken one
after another, back to `yes`. So the line goes as planned, with `head` for its cutter
(`suits_cutPlan`), and it has the run of a plan (`endless_line_is_cut`).

A count is read as a number of 64 bits, and any other text stands for the default of `head`
(`endless_line_beyond_words`).
-/

namespace Pipework

open Text Command

/-! ## The line -/

section Line

variable (text count : String) (before after : Nat)

/-- Copies of a text, stages that pass them on, a stage that passes on so many of them, and more
stages that pass them on. -/
def cutStages : List Stage :=
  ⟨"yes", some text⟩ :: (List.replicate before ⟨"pause", none⟩ ++
    ⟨"head", some count⟩ :: List.replicate after ⟨"pause", none⟩)

/-- The line of these stages. -/
def cutLine : String := joined " | " ((cutStages text count before after).map Stage.display)

/-- The command of each stage. -/
def cutCommand (before i : Nat) : String :=
  if i = 0 then "yes" else if i = before + 1 then "head" else "pause"

variable {text count before after}

theorem length_cutStages : (cutStages text count before after).length = before + after + 2 := by
  simp [cutStages]
  omega

/-- The stages one by one. -/
theorem cutStages_cases {i : Nat} {stage : Stage}
    (h : (cutStages text count before after)[i]? = some stage) :
    i = 0 ∧ stage = ⟨"yes", some text⟩ ∨ i = before + 1 ∧ stage = ⟨"head", some count⟩ ∨
      0 < i ∧ i ≠ before + 1 ∧ stage = ⟨"pause", none⟩ := by
  cases i with
  | zero => exact .inl ⟨rfl, (Option.some.inj h).symm⟩
  | succ i =>
    rw [cutStages, List.getElem?_cons_succ] at h
    obtain hi | rfl | hi := lt_trichotomy i before
    · rw [List.getElem?_append_left (by simpa using hi), List.getElem?_replicate, if_pos hi] at h
      exact .inr (.inr ⟨Nat.succ_pos i, by omega, (Option.some.inj h).symm⟩)
    · rw [List.getElem?_append_right (by simp), List.length_replicate, Nat.sub_self] at h
      exact .inr (.inl ⟨rfl, (Option.some.inj h).symm⟩)
    · obtain ⟨j, rfl⟩ : ∃ j, i = before + (j + 1) := ⟨i - before - 1, by omega⟩
      rw [List.getElem?_append_right (by simp), List.length_replicate, Nat.add_sub_cancel_left,
        List.getElem?_cons_succ] at h
      exact .inr (.inr ⟨Nat.succ_pos _, by omega, List.eq_of_mem_replicate (List.mem_of_getElem? h)⟩)

theorem command_cutStages {i : Nat} {stage : Stage}
    (h : (cutStages text count before after)[i]? = some stage) :
    stage.command = cutCommand before i := by
  obtain ⟨rfl, rfl⟩ | ⟨rfl, rfl⟩ | ⟨hpos, hcut, rfl⟩ := cutStages_cases h
  · rfl
  · simp [cutCommand]
  · simp [cutCommand, hpos.ne', hcut]

theorem parseLine_cutLine (htext : Solid text.toList) (hbar : '|' ∉ text.toList)
    (hcount : Solid count.toList) (hcountbar : '|' ∉ count.toList) :
    Stage.parseLine (cutLine text count before after) = cutStages text count before after := by
  refine Stage.parseLine_display (List.cons_ne_nil _ _) fun stage hstage => ?_
  obtain ⟨i, hi⟩ := List.mem_iff_getElem?.mp hstage
  have hplain : stage.command.toList ≠ [] ∧ stage.command.toList.all (!isBlank ·) := by
    rw [command_cutStages hi, cutCommand]
    split_ifs <;> decide
  have hne := hplain.1
  have hword : ∀ c ∈ stage.command.toList, isBlank c = false := by
    simpa using hplain.2
  obtain ⟨-, rfl⟩ | ⟨-, rfl⟩ | ⟨-, -, rfl⟩ := cutStages_cases hi
  · exact ⟨hne, hword, fun args hargs => Option.some.inj hargs ▸ htext, by simp [Stage.display, hbar]⟩
  · exact ⟨hne, hword, fun args hargs => Option.some.inj hargs ▸ hcount,
      by simp [Stage.display, hcountbar]⟩
  · exact ⟨hne, hword, fun args hargs => by simp at hargs, by simp [Stage.display]⟩

end Line

/-! ## Its commands -/

theorem command?_cutCommand {s : Shell} (h : s.registry = .builtin) (before i : Nat) :
    ∃ spec, s.command? (cutCommand before i) = some spec ∧ spec.name = cutCommand before i := by
  refine Shell.command?_builtin h ?_
  unfold cutCommand
  split_ifs <;> decide +kernel

theorem name_cutStages {s : Shell} (h : s.registry = .builtin) {text count : String}
    {before after i : Nat} {stage : Stage} {spec : CommandSpec}
    (hstage : (cutStages text count before after)[i]? = some stage)
    (hspec : s.command? stage.command = some spec) : spec.name = cutCommand before i := by
  obtain ⟨spec', hspec', hname⟩ := command?_cutCommand h before i
  rw [command_cutStages hstage, hspec'] at hspec
  rw [← Option.some.inj hspec, hname]

/-- A text whose first word is no number is what `yes` copies. -/
theorem yesArgs_text {text : String} (hsolid : Solid text.toList)
    (hword : Number.natural? Number.maxWord (text.toList.takeWhile (!isBlank ·)) = none) :
    yesArgs (some text) = (none, text) := by
  have hne : text.toList.isEmpty = false := List.isEmpty_eq_false_iff.mpr hsolid.ne
  have hwhole : text.toList.dropWhile (!isBlank ·) = [] →
      text.toList.takeWhile (!isBlank ·) = text.toList := by
    intro hdrop
    have hparts := List.takeWhile_append_dropWhile (p := (!isBlank ·)) (l := text.toList)
    rwa [hdrop, List.append_nil] at hparts
  unfold yesArgs cut?
  rw [Option.getD_some, trim_tight hsolid.tight]
  cases hdrop : text.toList.dropWhile (!isBlank ·) with
  | nil =>
    rw [hwhole hdrop] at hword
    simp only [hdrop, hword, hne, Bool.false_eq_true, if_false, String.ofList_toList]
  | cons c rest => simp only [hdrop, hword, hne, Bool.false_eq_true, if_false, String.ofList_toList]

/-! ## Its plan -/

/-- Where the stages of the line rest between two items. -/
inductive CutRests (text : String) (goal before : Nat) : Nat → Nat → Arguments → Behavior Unit → Prop
  | yes (sent : Nat) (arguments : Arguments) :
    CutRests text goal before 0 sent arguments (.loop false (yesRound text) .result)
  | head {sent left : Nat} {arguments : Arguments} (hleft : sent + left = goal)
    (hqueue : arguments.queue = []) :
    CutRests text goal before (before + 1) sent arguments (.loop left headRound .result)
  | pause {i : Nat} (sent : Nat) (arguments : Arguments) (hpos : 0 < i) (hcut : i ≠ before + 1) :
    CutRests text goal before i sent arguments (.forAll .read .write)

/-- The plan of the line. -/
def cutPlan (L : Span) (text : String) (room goal before : Nat) : Plan :=
  { L with
    item := .text text
    room := room
    name := fun i => pipeName (cutCommand before i) (L.base + i)
    cutter := before + 1
    goal := goal
    Rests := CutRests text goal before
    pace := 6 }

section Plan

variable {L : Span} {text count : String} {room goal before after : Nat}

theorem limit_cutPlan : (cutPlan L text room goal before).limit (before + 1) = some goal := if_pos rfl

theorem limit_cutPlan_none {i : Nat} (hi : i ≠ before + 1) :
    (cutPlan L text room goal before).limit i = none := if_neg hi

theorem proper_cutPlan (hgoal : 0 < goal) (hcount : before + 1 < L.count) :
    (cutPlan L text room goal before).Proper where
  goes := by
    intro i _ sent arguments b hrests
    cases hrests with
    | yes => exact goes_yes (n := 1) rfl (limit_cutPlan_none (by omega)) (.yes _ _)
    | @head _ left _ hleft hqueue =>
      refine goes_head (n := 0) (Nat.succ_pos before) rfl (hleft ▸ limit_cutPlan) hqueue fun hpos => ?_
      exact .head (by omega) hqueue
    | pause _ _ hpos hcut =>
      rw [Hand.idle, if_neg hpos.ne']
      exact goes_forward (n := 3) hpos (limit_cutPlan_none hcut) (.pause _ _ hpos hcut)
  goal_pos := hgoal
  cutter_pos := Nat.succ_pos before
  cutter_lt := hcount

theorem injective_name_cutPlan : (cutPlan L text room goal before).name.Injective := by
  intro i j heq
  have hfree : ∀ i, '.' ∉ (cutCommand before i).toList := by
    intro i
    unfold cutCommand
    split_ifs <;> decide
  have hsame := pipeName_inj (hfree i) (hfree j) heq
  omega

/-- The line goes as planned. -/
theorem suits_cutPlan {p : Pipeline} {pool : Nat} {m : Machine}
    (hregistry : m.job.shell.registry = .builtin)
    (hstages : p.line.stages = cutStages text count before after)
    (htext : yesArgs (some text) = (none, text)) :
    p.Suits pool m (cutPlan (p.span pool m) text (max m.job.shell.config.capacity 1)
      (countOr 5 (some count)) before) where
  span := rfl
  room := rfl
  name := by
    intro i stage spec hstage hspec
    rw [hstages] at hstage
    rw [name_cutStages hregistry hstage hspec]
    rfl
  goes := by
    refine ⟨9, fun i stage spec hstage hspec => ?_⟩
    rw [hstages] at hstage
    have hname := name_cutStages hregistry hstage hspec
    obtain ⟨rfl, rfl⟩ | ⟨rfl, rfl⟩ | ⟨hpos, hcut, rfl⟩ := cutStages_cases hstage
    · exact goes_stage_yes (n := 3) hname htext rfl (limit_cutPlan_none (by omega)) (.yes _ _)
    · have hhead : spec.name = "head" := by simpa [cutCommand] using hname
      have hpos := countOr_pos (some count) (by decide : 0 < 5)
      have hleft : 0 + 1 + (countOr 5 (some count) - 1) = countOr 5 (some count) := by omega
      exact goes_stage_head (n := 0) hhead (Nat.succ_pos before) rfl limit_cutPlan
        fun _ => .head hleft rfl
    · have hpause : spec.name = "pause" := by simpa [cutCommand, hpos.ne', hcut] using hname
      have hprogram : program? spec.name = none := by rw [hpause]; rfl
      rw [Hand.idle, if_neg hpos.ne', bne_iff_ne.mpr hpos.ne']
      exact goes_stage_forward (n := 5) hprogram hpos (limit_cutPlan_none hcut) (.pause _ _ hpos hcut)

end Plan

/-! ## Its run -/

/-- In the signals of a plan whose pipes have different names each pipe before the cutter is named
once. -/
theorem Plan.count_broken {P : Plan} (hinj : P.name.Injective) (i : Nat) :
    ((P.broken 0).map (·.1)).count (P.name i) = if i < P.cutter then 1 else 0 := by
  have hnames : (P.broken 0).map (·.1) = ((List.range' 0 P.cutter).map P.name).reverse := by
    rw [broken, Nat.sub_zero, List.map_reverse, List.map_map]
    rfl
  rw [hnames, List.count_reverse, List.count_map_of_injective _ _ hinj,
    List.Nodup.count List.nodup_range']
  simp

section Run

variable {text : String} {m : Machine} (hregistry : m.job.shell.registry = .builtin)
  (hprograms : m.programs = Command.program?) (horderly : m.Orderly) (hlevel : m.job.level = 0)
  (hhalt : m.halt = none)

include hregistry hprograms horderly hlevel hhalt

/-- Whatever the count, the line comes to its end with as many copies as `head` reads from it. -/
theorem runLine_cutLine {count : String} (htext : Solid text.toList) (hbar : '|' ∉ text.toList)
    (hword : Number.natural? Number.maxWord (text.toList.takeWhile (!isBlank ·)) = none)
    (hcount : Solid count.toList) (hcountbar : '|' ∉ count.toList) (before after : Nat) :
    ∃ enough m', (∀ fuel ≥ enough, m.runLine fuel (cutLine text count before after) =
        (List.replicate (countOr 5 (some count)) (.text text), m.job.errors, m')) ∧
      m'.halt = none ∧ ∃ signals, m'.job.signals = m.job.signals ++ signals ∧
      signals.length = before + 1 ∧ ∀ i < before + after + 2, ∃ q,
        m'.job.pipes[m.job.pipes.size + i]? = some q ∧
        (signals.map (·.1)).count q.name = if i ≤ before then 1 else 0 := by
  have hparse : Stage.parseLine (cutLine text count before after) = cutStages text count before after :=
    parseLine_cutLine htext hbar hcount hcountbar
  have hcommands : ∀ stage ∈ Stage.parseLine (cutLine text count before after), ∃ spec,
      m.job.shell.command? stage.command = some spec ∧ spec.name = stage.command := by
    intro stage hstage
    rw [hparse] at hstage
    obtain ⟨i, hi⟩ := List.mem_iff_getElem?.mp hstage
    rw [command_cutStages hi]
    exact command?_cutCommand hregistry before i
  obtain ⟨p, m₀, hvalid, hstages⟩ := Pipeline.validate_canonical hcommands
  obtain ⟨-, -, -, hm₀⟩ := Pipeline.validate_create hvalid
  rw [hparse] at hstages
  have hregistry₀ : m₀.openPool.2.job.shell.registry = .builtin := by
    rw [hm₀]
    exact hregistry
  set L := p.span m₀.nextPool m₀.openPool.2
  have hlong : L.count = before + after + 2 := (congrArg List.length hstages).trans length_cutStages
  set P := cutPlan L text (max m₀.openPool.2.job.shell.config.capacity 1) (countOr 5 (some count)) before
  have hsuits : p.Suits m₀.nextPool m₀.openPool.2 P :=
    suits_cutPlan hregistry₀ hstages (yesArgs_text htext hword)
  have hproper : P.Proper := proper_cutPlan (countOr_pos _ (by decide)) (by omega)
  obtain ⟨enough, m', hrun, hhalt', hsignals, hnames⟩ := hsuits.runLine
    (hregistry ▸ Registry.named_builtin) hprograms horderly hlevel hhalt hvalid hproper
  -- the cutter is stage `before + 1`, so the pipes before it are those up to `before`
  refine ⟨enough, m', hrun, hhalt', _, hsignals, ?_, fun i hi => ?_⟩
  · rw [Plan.broken, List.length_reverse, List.length_map, List.length_range']
    rfl
  · obtain ⟨q, hq, hname⟩ := hnames i (hlong ▸ hi)
    refine ⟨q, hq, ?_⟩
    rw [hname, Plan.count_broken injective_name_cutPlan]
    exact if_congr Nat.lt_succ_iff rfl rfl

/-- **An endless line is cut.** Copies of a text that are passed on by any number of stages, of which
`head` lets so many through: on pipes of any capacity the line comes to its end, has these copies for
its output, and reports no error. Each pipe before `head` has got one signal, and no other pipe. -/
theorem endless_line_is_cut (hne : text ≠ "") (htrimmed : trimmed text = text) (hbar : '|' ∉ text.toList)
    (hword : Number.natural? Number.maxWord (text.toList.takeWhile (!isBlank ·)) = none) {k : Nat}
    (hpos : 1 ≤ k) (hk : k ≤ Number.maxWord) (before after : Nat) :
    ∃ enough m', (∀ fuel ≥ enough, m.runLine fuel (cutLine text (toString k) before after) =
        (List.replicate k (.text text), m.job.errors, m')) ∧
      m'.halt = none ∧ ∃ signals, m'.job.signals = m.job.signals ++ signals ∧
      signals.length = before + 1 ∧ ∀ i < before + after + 2, ∃ q,
        m'.job.pipes[m.job.pipes.size + i]? = some q ∧
        (signals.map (·.1)).count q.name = if i ≤ before then 1 else 0 := by
  have hcount : Solid (toString k).toList := Text.solid_toString k
  have hcountbar : '|' ∉ (toString k).toList :=
    fun hmem => absurd (Number.isDigit_of_mem_toString hmem) (by decide)
  have hrun := runLine_cutLine hregistry hprograms horderly hlevel hhalt
    (solid_of_trimmed hne htrimmed) hbar hword hcount hcountbar before after
  rwa [countOr_toString hpos hk] at hrun

end Run

/-- Three copies, on pipes that hold one item each. -/
theorem endless_line_is_cut_three :
    let m : Machine :=
      { job := { shell := { config := { Config.standard with capacity := 1 } } },
        programs := Command.program? }
    cutLine "to be" (toString 3) 1 1 = "yes to be | pause | head 3 | pause" ∧
      ∃ enough m', (∀ fuel ≥ enough, m.runLine fuel (cutLine "to be" (toString 3) 1 1) =
          (List.replicate 3 (.text "to be"), [], m')) ∧
        m'.halt = none ∧ ∃ signals, m'.job.signals = [] ++ signals ∧ signals.length = 1 + 1 ∧
        ∀ i < 1 + 1 + 2, ∃ q, m'.job.pipes[0 + i]? = some q ∧
          (signals.map (·.1)).count q.name = if i ≤ 1 then 1 else 0 := by
  intro m
  have horderly : m.Orderly := fun e he => absurd he List.not_mem_nil
  refine ⟨by decide +kernel, ?_⟩
  exact @endless_line_is_cut "to be" m rfl rfl horderly rfl rfl (by decide) (by decide +kernel)
    (by decide) (by decide +kernel) 3 (by decide) (by decide) 1 1

/-- The count is more than a number of 64 bits can be: the line has five copies for its output, whatever
the count is. -/
theorem endless_line_beyond_words :
    let m : Machine := { job := { shell := {} }, programs := Command.program? }
    let line := cutLine "a" (toString 18446744073709551616) 0 0
    line = "yes a | head 18446744073709551616" ∧
      ¬ ∃ enough, ∀ fuel ≥ enough,
        (m.runLine fuel line).1 = List.replicate 18446744073709551616 (.text "a") := by
  intro m line
  have horderly : m.Orderly := fun e he => absurd he List.not_mem_nil
  have hfive : countOr 5 (some (toString 18446744073709551616)) = 5 := by decide +kernel
  have hbar : '|' ∉ (toString 18446744073709551616).toList :=
    fun hmem => absurd (Number.isDigit_of_mem_toString hmem) (by decide)
  obtain ⟨enough, m', hrun, -⟩ := runLine_cutLine (m := m) rfl rfl horderly rfl rfl
    (solid_of_trimmed (by decide) (by decide +kernel) : Solid "a".toList) (by decide) (by decide +kernel)
    (solid_toString 18446744073709551616) hbar 0 0
  rw [hfive] at hrun
  refine ⟨by decide +kernel, ?_⟩
  rintro ⟨enough', hclaim⟩
  have hoften := hclaim (max enough enough') (Nat.le_max_right ..)
  rw [show m.runLine _ line = _ from hrun _ (Nat.le_max_left enough enough')] at hoften
  have hlength := congrArg List.length hoften
  rw [List.length_replicate, List.length_replicate] at hlength
  omega

end Pipework
