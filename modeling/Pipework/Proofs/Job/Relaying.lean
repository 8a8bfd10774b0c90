import Pipework.Proofs.Job.Alone
import Pipework.Proofs.Job.Core
import Pipework.Proofs.Job.Linking
import Pipework.Proofs.Job.Reckoning

/-!
# Lists that pass through a line

The stages of a line on which nobody is interrupted do what each of them does at a desk of its own
(`Behavior.Runs`), where it finds all that the stage before will ever write. A `Chain` is such a line,
with what it writes in all. `Sounds` tells of it between two actions that

* what a stage still finds before it is what the pipe holds and what the stage before is still to write
  (`flow`): an item that is sent goes from the one to the other, and one that is taken leaves both;
* what the main future has got, and what is still to come out of the last pipe, is what the line writes
  in all.

A stage whose pipe nobody reads any more writes to nobody: it fails at its next write, and nothing of
what it had still to write is missed. So one action keeps all this (`Sounds.attempt`), a poll takes so
many steps and no more (`Sounds.run`), and a stage that is over leaves in order (`Sounds.release`).
-/

namespace Pipework

/-- What a stage has still to do. -/
structure Share where
  /-- What it will write. -/
  rest : List Value
  /-- The steps that it takes at most. -/
  steps : Nat

/-- How far a behavior has come that has ended. -/
def Progress.ofExcept {α : Type} : Except ShellError α → Progress α
  | .ok a => .done a
  | .error e => .failed e

namespace Span

variable (L : Span)

/-- The items that pipe `i` holds. -/
def holds (job : Job) (i : Nat) : List Value := (job.pipes[L.base + i]?).elim [] (·.stock)

/-- What is still to come out of pipe `i`. -/
def flow (job : Job) (shares : Nat → Share) (i : Nat) : List Value :=
  L.holds job i ++ (shares i).rest

/-- What the reader of stage `i` will still give. -/
def supply (job : Job) (shares : Nat → Share) : Nat → List Value
  | 0 => []
  | before + 1 => L.flow job shares before

variable {L} {job job' : Job} {i : Nat}

theorem holds_eq {p : Pipe Value} (hp : job.pipes[L.base + i]? = some p) :
    L.holds job i = p.stock := by rw [holds, hp]; rfl

theorem holds_congr (h : job'.pipes[L.base + i]? = job.pipes[L.base + i]?) :
    L.holds job' i = L.holds job i := by rw [holds, h, holds]

/-- A pipe that is changed is the only one. -/
theorem holds_store {k j : Nat} (hk : k ≠ j) (p : Pipe Value) (events : List Pipe.Event) :
    L.holds (job.store (L.base + j) p events) k = L.holds job k :=
  L.holds_congr (Job.store_other (by omega) p events job)

/-- A stage is not supplied by its own share. -/
theorem supply_update (shares : Nat → Share) (s : Share) :
    L.supply job (Function.update shares i s) i = L.supply job shares i := by
  cases i with
  | zero => rfl
  | succ before => rw [supply, supply, flow, flow, Function.update_of_ne (Nat.succ_ne_self before).symm]

end Span

/-- A line of stages that each do as at a desk of their own. -/
structure Chain extends Span where
  /-- What it writes in all. -/
  out : List Value

namespace Chain

variable (C : Chain)

/-- Stage `i` does as at a desk where its reader will give these items. -/
structure Course (i : Nat) (before : List Value) (t : Task) (s : Share) : Prop where
  input : ∀ j, t.station.input = some j → ∃ k, i = k + 1 ∧ j = C.base + k
  output : t.station.output = some (C.base + i)
  timers : t.station.timers = []
  /-- While it holds a ticket it waits for the answer. -/
  reading : t.station.reading = .fresh ∨ t.behavior.Reads ∧ t.station.input ≠ none
  runs : ∃ r, t.behavior.Runs s.steps ⟨t.station.arguments, t.station.input.map fun _ => before⟩
    s.rest r

/-- The line that nobody interrupts. The main future reads its last pipe in the state `main`, if it has
not left, and has got some items. -/
structure Sounds (main : Option ReadState) (got : List Value) (job : Job) (task? : Nat → Option Task)
    (shares : Nat → Share) : Prop where
  level : job.level = 0
  linked : C.Linked main job task?
  stages : ∀ i < C.count, ∀ t, task? (C.first + i) = some t →
    C.Course i (C.supply job shares i) t (shares i)
  gone : ∀ i < C.count, task? (C.first + i) = none → (shares i).rest = []
  /-- Nothing is lost on the way to the main future. -/
  all : main ≠ none → got ++ C.flow job shares (C.count - 1) = C.out
  /-- While its read is parked the main future has been woken, or the pipe will wake it. -/
  heeds : ∀ ticket, main = some (.parked ticket) → job.mainWoken = true ∨
    ∃ p, job.pipes[C.base + (C.count - 1)]? = some p ∧ (ticket, .main) ∈ p.parked

variable {C} {main : Option ReadState} {got : List Value} {job job' : Job}
  {task? : Nat → Option Task} {shares : Nat → Share} {i : Nat} {t u : Task} {s : Share}
  {before before' : List Value}

/-! ## A stage in a new place -/

/-- What a reader will give does not matter where there is none. -/
theorem Course.congr (h : C.Course i before t s) (hsame : t.station.input ≠ none → before' = before) :
    C.Course i before' t s :=
  { h with
    runs := by
      obtain hinput | ⟨j, hinput⟩ := Option.eq_none_or_eq_some t.station.input
      · have hruns := h.runs
        rw [hinput] at hruns ⊢
        exact hruns
      · rw [hsame (by simp [hinput])]
        exact h.runs }

theorem Course.own_last (h : C.Course i before t s) (hi : i < C.count) :
    t.station.own (C.base + (C.count - 1)) = none := by
  refine if_neg fun hinput => ?_
  obtain ⟨k, hk, hlast⟩ := h.input _ hinput
  omega

theorem Course.fresh (h : C.Course i before t s) (hreads : ¬ t.behavior.Reads) :
    t.station.reading = .fresh := h.reading.resolve_right fun hwaits => hreads hwaits.1

theorem Course.steps_pos (h : C.Course i before t s) : ∃ n, s.steps = n + 1 := by
  obtain ⟨r, hruns⟩ := h.runs
  refine Nat.exists_eq_succ_of_ne_zero fun hzero => ?_
  rw [hzero] at hruns
  exact hruns

/-- A stage comes to a new place, and changes nothing but its own two pipes. Where it is read, as much is
still to come out of its pipe as before. -/
theorem Sounds.replace (h : C.Sounds main got job task? shares) (hi : i < C.count)
    {own : Nat → Option Nat} {mine : Nat → Prop} (hserves : Job.Serves own mine job job')
    (hown : own (C.base + (C.count - 1)) = none) (hlevel : job'.level = 0) {t' : Option Task}
    (hlinked : C.Linked main job' (C.put i t' task?))
    (hothers : ∀ k, k ≠ i → k + 1 ≠ i → C.holds job' k = C.holds job k)
    (hflow : C.reader? main task? i ≠ none → C.holds job' i ++ s.rest = C.flow job shares i)
    (hstage : ∀ u, t' = some u → C.Course i (C.supply job' shares i) u s)
    (hgone : t' = none → s.rest = []) :
    C.Sounds main got job' (C.put i t' task?) (Function.update shares i s) := by
  have hother : ∀ k, k ≠ i → k + 1 ≠ i →
      C.flow job' (Function.update shares i s) k = C.flow job shares k := by
    intro k hk hk'
    rw [Span.flow, Span.flow, Function.update_of_ne hk, hothers k hk hk']
  have hown' : C.reader? main task? i ≠ none →
      C.flow job' (Function.update shares i s) i = C.flow job shares i := by
    intro hread
    rw [Span.flow, Function.update_self, hflow hread]
  refine ⟨hlevel, hlinked, fun k hk u hu => ?_, fun k hk hover => ?_, fun hmain => ?_,
    fun ticket hticket => hserves.heeds (w := .main) hown (h.heeds ticket hticket)⟩
  · by_cases hki : k = i
    · subst hki
      rw [Span.put_self] at hu
      rw [Function.update_self, Span.supply_update]
      exact hstage u hu
    · rw [Span.put_other (by omega)] at hu
      rw [Function.update_of_ne hki]
      refine (h.stages k hk u hu).congr fun hinput => ?_
      -- only the next stage can tell that this one is in a new place
      obtain ⟨j, hj⟩ := Option.ne_none_iff_exists'.mp hinput
      obtain ⟨b, rfl, -⟩ := (h.stages k hk u hu).input j hj
      by_cases hbi : b = i
      · subst hbi
        refine hown' ?_
        rw [Span.reader?_before hk, hu, Option.bind_some, Station.reader?_eq hj]
        simp
      · exact hother b hbi hki
  · by_cases hki : k = i
    · subst hki
      rw [Span.put_self] at hover
      rw [Function.update_self]
      exact hgone hover
    · rw [Span.put_other (by omega)] at hover
      rw [Function.update_of_ne hki]
      exact h.gone k hk hover
  · rw [← h.all hmain]
    by_cases hlast : i = C.count - 1
    · subst hlast
      rw [hown' (by rwa [Span.reader?_last (by omega)])]
    · rw [hother _ (Ne.symm hlast) (by omega)]

/-- A stage changes no pipe. -/
theorem Sounds.stays (h : C.Sounds main got job task? shares) (hi : i < C.count)
    (ht : task? (C.first + i) = some t) {own : Nat → Option Nat} {mine : Nat → Prop}
    (hserves : Job.Serves own mine job job') (hown : own (C.base + (C.count - 1)) = none)
    (hlevel : job'.level = 0) (hpipes : job'.pipes = job.pipes)
    (hreader : u.station.reader? = t.station.reader?) (hrest : s.rest = (shares i).rest)
    (hstage : C.Course i (C.supply job shares i) u s) :
    C.Sounds main got job' (C.put i (some u) task?) (Function.update shares i s) := by
  have hholds : ∀ k, C.holds job' k = C.holds job k := fun k => C.holds_congr (by rw [hpipes])
  have hsupply : C.supply job' shares i = C.supply job shares i := by
    cases i with
    | zero => rfl
    | succ k => exact congrArg (· ++ _) (hholds k)
  have houtput : u.station.output = t.station.output :=
    hstage.output.trans (h.stages i hi t ht).output.symm
  refine h.replace hi hserves hown hlevel (h.linked.stays hi ht hpipes hreader houtput)
    (fun k _ _ => hholds k) (fun _ => ?_) (fun v hv => ?_) (by simp)
  · rw [hholds, hrest, Span.flow]
  · rw [hsupply]
    exact Option.some.inj hv ▸ hstage

/-- A stage changes the pipe that it reads. -/
theorem Sounds.receives {k : Nat} (h : C.Sounds main got job task? shares) (hi : k + 1 < C.count)
    (ht : task? (C.first + (k + 1)) = some t) {p p' : Pipe Value} {events : List Pipe.Event}
    (hp : job.pipes[C.base + k]? = some p) {own : Nat → Option Nat} {mine : Nat → Prop}
    (hserves : Job.Serves own mine job (job.store (C.base + k) p' events))
    (hown : own (C.base + (C.count - 1)) = none)
    (hlink : p'.Link u.station.reader? (C.writes task? k)) (hrest : s.rest = (shares (k + 1)).rest)
    (hstage : C.Course (k + 1) (p'.stock ++ (shares k).rest) u s) :
    C.Sounds main got (job.store (C.base + k) p' events) (C.put (k + 1) (some u) task?)
      (Function.update shares (k + 1) s) := by
  have houtput : u.station.output = t.station.output :=
    hstage.output.trans (h.stages _ hi t ht).output.symm
  refine h.replace hi hserves hown ((Job.level_react _ _).trans h.level)
    (h.linked.receives hi ht hp hlink houtput) (fun j _ hj => ?_) (fun _ => ?_) (fun v hv => ?_) (by simp)
  · exact C.holds_store (by omega) p' events
  · rw [C.holds_store (Nat.succ_ne_self k), hrest, Span.flow]
  · rw [Span.supply, Span.flow, C.holds_eq (Job.store_self hp p' events)]
    exact Option.some.inj hv ▸ hstage

/-- A stage changes the pipe that it writes to. -/
theorem Sounds.sends (h : C.Sounds main got job task? shares) (hi : i < C.count)
    (ht : task? (C.first + i) = some t) {p p' : Pipe Value} {events : List Pipe.Event}
    (hp : job.pipes[C.base + i]? = some p) {own : Nat → Option Nat} {mine : Nat → Prop}
    (hserves : Job.Serves own mine job (job.store (C.base + i) p' events))
    (hown : own (C.base + (C.count - 1)) = none) (hreader : u.station.reader? = t.station.reader?)
    (hlink : p'.Link (C.reader? main task? i) true)
    (hflow : C.reader? main task? i ≠ none → p'.stock ++ s.rest = p.stock ++ (shares i).rest)
    (hstage : C.Course i (C.supply job shares i) u s) :
    C.Sounds main got (job.store (C.base + i) p' events) (C.put i (some u) task?)
      (Function.update shares i s) := by
  have hsupply : C.supply (job.store (C.base + i) p' events) shares i = C.supply job shares i := by
    cases i with
    | zero => rfl
    | succ k => exact congrArg (· ++ _) (C.holds_store (Nat.succ_ne_self k).symm p' events)
  have hlink' : p'.Link (C.reader? main task? i) u.station.output.isSome := by
    rwa [hstage.output]
  refine h.replace hi hserves hown ((Job.level_react _ _).trans h.level)
    (h.linked.sends hi ht hp hreader hlink') (fun k hk _ => C.holds_store hk p' events) (fun hread => ?_)
    (fun v hv => ?_) (by simp)
  · rw [C.holds_eq (Job.store_self hp p' events), hflow hread, Span.flow, C.holds_eq hp]
  · rw [hsupply]
    exact Option.some.inj hv ▸ hstage

/-! ## One action -/

section Actions

variable {β : Type} {next : β → Behavior Unit}

/-- A stage has attempted an action: it is a step further, or it has to wait, and nobody has been
woken. -/
def Attempted (C : Chain) (main : Option ReadState) (got : List Value) (task? : Nat → Option Task)
    (shares : Nat → Share) (i : Nat) (job : Job) (t : Task) (next : β → Behavior Unit) :
    Poll β × Station × Job → Prop
  | (.pending, st', job') => job'.ready = job.ready ∧
      C.Sounds main got job' (C.put i (some { t with station := st' }) task?)
        (Function.update shares i (shares i))
  | (.ready answer, st', job') => ∃ s, s.steps < (shares i).steps ∧
      C.Sounds main got job' (C.put i (some { t with station := st', behavior := next answer }) task?)
        (Function.update shares i s)

/-- What the stage before a stage is still to write is nothing when that stage has released its
writer. -/
theorem Sounds.rest_of_writes {k : Nat} (h : C.Sounds main got job task? shares) (hk : k < C.count)
    (hwrites : C.writes task? k = false) : (shares k).rest = [] := by
  refine h.gone k hk (Option.eq_none_iff_forall_ne_some.mpr fun u hu => ?_)
  rw [Span.writes, hu, Option.any_some, (h.stages k hk u hu).output] at hwrites
  simp at hwrites

/-- A stage takes an item, or waits for one, or meets the end of data. -/
theorem Sounds.read {next : Option Value → Behavior Unit} (h : C.Sounds main got job task? shares)
    (hi : i < C.count) (ht : task? (C.first + i) = some t) (hb : t.behavior = .act .read next)
    (who : Waker) :
    C.Attempted main got task? shares i job t next (t.station.tryRead who job) := by
  have hcourse := h.stages i hi t ht
  have hserves := t.station.tryRead_serves job (fun _ => False) who
  have hown := hcourse.own_last hi
  obtain ⟨n, hn⟩ := hcourse.steps_pos
  have hless : n < (shares i).steps := by rw [hn]; exact n.lt_succ_self
  obtain ⟨r, hruns⟩ := hcourse.runs
  rw [hn, hb] at hruns
  obtain ⟨answer, written, d, rest, hanswer, -, hwritten, hrest⟩ := hruns
  obtain hinput | ⟨j, hinput⟩ := Option.eq_none_or_eq_some t.station.input
  · -- there is no reader
    have hfresh := hcourse.reading.resolve_right fun hwaits => hwaits.2 hinput
    rw [hinput] at hanswer
    cases hanswer
    rw [Station.tryRead_none hinput] at hserves ⊢
    refine ⟨⟨rest, n⟩, hless, h.stays hi ht hserves hown h.level rfl rfl hwritten.symm
      ⟨hcourse.input, hcourse.output, hcourse.timers, .inl hfresh, r, ?_⟩⟩
    rw [hinput]
    exact hrest
  obtain ⟨k, rfl, rfl⟩ := hcourse.input j hinput
  obtain ⟨p, hp, hlink⟩ := h.linked.before hi ht
  have hreader : ∀ reading, ({ t.station with reading := reading } : Station).reader? = some reading :=
    fun _ => Station.reader?_eq hinput
  have hsupply : C.supply job shares (k + 1) = p.stock ++ (shares k).rest :=
    congrArg (· ++ _) (C.holds_eq hp)
  -- the desk after an answer
  have hafter : ∀ item items, (next item).Runs n ⟨t.station.arguments, some items⟩ rest r →
      C.Course (k + 1) items
        { t with station := { t.station with reading := .fresh }, behavior := next item }
        ⟨rest, n⟩ := fun item items hruns =>
    ⟨hcourse.input, hcourse.output, hcourse.timers, .inl rfl, r, by simpa [hinput] using hruns⟩
  rw [Station.reader?_eq hinput] at hlink
  rw [hinput, hsupply] at hanswer
  rw [Station.tryRead_eq hinput hp] at hserves ⊢
  rcases hlink.pollRead who with ⟨ticket, p', hpoll, hlink', -, hempty, hempty'⟩ |
    ⟨v, p', events, hpoll, hlink', hhead⟩ | ⟨p', events, hpoll, hlink', hempty, hempty', hgone⟩ <;>
    rw [hpoll] at hserves ⊢
  · -- nothing is there yet: the task stands where it stood, with its read parked
    refine ⟨rfl, h.receives hi ht hp hserves hown (by rw [hreader]; exact hlink') rfl ?_⟩
    refine ⟨hcourse.input, hcourse.output, hcourse.timers, .inr ⟨hb ▸ trivial, by simp [hinput]⟩, ?_⟩
    rw [hempty', ← hempty, ← hsupply]
    exact hcourse.runs
  · -- the item that the pipe gives is the first that the desk has
    rw [hhead] at hanswer
    cases hanswer
    exact ⟨⟨rest, n⟩, hless, h.receives hi ht hp hserves hown (by rw [hreader]; exact hlink')
      hwritten.symm (hafter _ _ hrest)⟩
  · -- the stage before is over, and so has nothing left to write: the desk is empty too
    rw [hempty, h.rest_of_writes (by omega) hgone] at hanswer
    cases hanswer
    refine ⟨⟨rest, n⟩, hless, h.receives hi ht hp hserves hown (by rw [hreader]; exact hlink')
      hwritten.symm (hafter _ _ ?_)⟩
    rw [hempty', h.rest_of_writes (by omega) hgone]
    exact hrest

/-- A stage sends an item, or waits until there is room for it, or finds that nobody reads it. -/
theorem Sounds.write {v : Value} {next : Except ShellError Unit → Behavior Unit}
    (h : C.Sounds main got job task? shares) (hi : i < C.count) (ht : task? (C.first + i) = some t)
    (hb : t.behavior = .act (.write v) next) (who : Waker) :
    C.Attempted main got task? shares i job t next (t.station.tryWrite who v job) := by
  have hcourse := h.stages i hi t ht
  have hserves := t.station.tryWrite_serves job (fun _ => False) who v
  have hown := hcourse.own_last hi
  have hfresh : t.station.reading = .fresh := hcourse.fresh fun hreads => by
    rw [hb] at hreads
    exact hreads
  obtain ⟨n, hn⟩ := hcourse.steps_pos
  have hless : n < (shares i).steps := by rw [hn]; exact n.lt_succ_self
  obtain ⟨r, hruns⟩ := hcourse.runs
  rw [hn, hb] at hruns
  obtain ⟨answer, written, d, rest, hanswer, hstrict, hwritten, hrest⟩ := hruns
  cases hanswer
  obtain ⟨p, hp, hlink⟩ := h.linked i hi
  rw [Span.writes, ht, Option.any_some, hcourse.output, Option.isSome_some] at hlink
  have hafter : ∀ answer s, (∃ r, (next answer).Runs s.steps
      ⟨t.station.arguments, t.station.input.map fun _ => C.supply job shares i⟩ s.rest r) →
      C.Course i (C.supply job shares i) { t with behavior := next answer } s := fun answer s hruns =>
    ⟨hcourse.input, hcourse.output, hcourse.timers, .inl hfresh, hruns⟩
  rw [Station.tryWrite_eq hcourse.output hp] at hserves ⊢
  rcases hlink.pollWrite who v with ⟨p', hpoll, hlink', hstock⟩ |
    ⟨p', events, hpoll, hlink', hstock⟩ | ⟨e, events, hpoll, hgone⟩ <;> rw [hpoll] at hserves ⊢
  · -- no room: what waits for room is not counted as written
    exact ⟨rfl, h.sends hi ht hp hserves hown rfl hlink' (fun _ => by rw [hstock]) hcourse⟩
  · refine ⟨⟨rest, n⟩, hless, h.sends hi ht hp hserves hown rfl hlink' (fun _ => ?_)
      (hafter _ _ ⟨r, hrest⟩)⟩
    rw [hstock, hwritten, List.append_assoc]
  · -- nobody misses what it does not write
    obtain ⟨n, rfl⟩ : ∃ k, n = k + 1 := Nat.exists_eq_succ_of_ne_zero fun hzero => by
      rw [hzero] at hrest
      exact hrest
    refine ⟨⟨[], n + 1⟩, hless, h.sends hi ht hp hserves hown rfl hlink (fun hread => absurd hgone hread)
      (hafter _ _ ⟨(.error e, ⟨t.station.arguments, t.station.input.map fun _ => C.supply job shares i⟩),
        ?_⟩)⟩
    rw [hstrict e]
    exact ⟨rfl, rfl⟩

/-- A stage releases its reader. -/
theorem Sounds.closeInput {next : Unit → Behavior Unit} (h : C.Sounds main got job task? shares)
    (hi : i < C.count) (ht : task? (C.first + i) = some t)
    (hb : t.behavior = .act .closeInput next) (who : Waker) :
    C.Attempted main got task? shares i job t next (t.station.attempt who .closeInput job) := by
  have hcourse := h.stages i hi t ht
  have hserves : Job.Serves t.station.own (fun _ => False) job (t.station.closeInput job).2 :=
    t.station.closeInput_serves job _
  have hown := hcourse.own_last hi
  have hfresh : t.station.reading = .fresh := hcourse.fresh fun hreads => by
    rw [hb] at hreads
    exact hreads
  obtain ⟨n, hn⟩ := hcourse.steps_pos
  have hless : n < (shares i).steps := by rw [hn]; exact n.lt_succ_self
  obtain ⟨r, hruns⟩ := hcourse.runs
  rw [hn, hb] at hruns
  obtain ⟨answer, written, d, rest, hanswer, -, hwritten, hrest⟩ := hruns
  cases hanswer
  obtain hinput | ⟨j, hinput⟩ := Option.eq_none_or_eq_some t.station.input
  · have hclose : t.station.closeInput job = (t.station, job) := by rw [Station.closeInput, hinput]
    simp only [Station.attempt, hclose] at hserves ⊢
    refine ⟨⟨rest, n⟩, hless, h.stays hi ht hserves hown h.level rfl rfl hwritten.symm
      ⟨hcourse.input, hcourse.output, hcourse.timers, .inl hfresh, r, ?_⟩⟩
    rw [hinput]
    exact hrest
  obtain ⟨k, rfl, rfl⟩ := hcourse.input j hinput
  obtain ⟨p, hp, hlink⟩ := h.linked.before hi ht
  rw [Station.reader?_eq hinput, hfresh] at hlink
  have hclose : t.station.closeInput job = ({ t.station with input := none },
      job.store (C.base + k) p.closeRead.2.1 p.closeRead.2.2) := by
    simp only [Station.closeInput, hinput, Job.closeRead, Job.query_eq hp]
  simp only [Station.attempt, hclose] at hserves ⊢
  exact ⟨⟨rest, n⟩, hless, h.receives hi ht hp hserves hown hlink.closeRead hwritten.symm
    ⟨by simp, hcourse.output, hcourse.timers, .inl hfresh, r, hrest⟩⟩

/-- An action that leaves the pipes alone is answered as at the desk. -/
theorem Sounds.answers {action : Action β} (h : C.Sounds main got job task? shares) (hi : i < C.count)
    (ht : task? (C.first + i) = some t) (hb : t.behavior = .act action next)
    (hreads : ¬ (Behavior.act action next).Reads) {answer : β} {arguments : Arguments}
    (hdesk : Desk.answer ⟨t.station.arguments, t.station.input.map fun _ => C.supply job shares i⟩
      action = some (answer, [], ⟨arguments, t.station.input.map fun _ => C.supply job shares i⟩))
    (hserves : Job.Serves t.station.own (fun _ => False) job job') (hlevel : job'.level = 0)
    (hpipes : job'.pipes = job.pipes) :
    C.Attempted main got task? shares i job t next
      (.ready answer, { t.station with arguments := arguments }, job') := by
  have hcourse := h.stages i hi t ht
  obtain ⟨n, hn⟩ := hcourse.steps_pos
  obtain ⟨r, hruns⟩ := hcourse.runs
  rw [hn, hb] at hruns
  obtain ⟨answer', written, d, rest, hanswer, -, hwritten, hrest⟩ := hruns
  rw [hdesk] at hanswer
  cases hanswer
  exact ⟨⟨rest, n⟩, hn ▸ n.lt_succ_self, h.stays hi ht hserves (hcourse.own_last hi) hlevel hpipes rfl
    hwritten.symm ⟨hcourse.input, hcourse.output, hcourse.timers, .inl (hcourse.fresh (hb ▸ hreads)), r,
      hrest⟩⟩

/-- A stage can tell that nobody has closed its reader but itself. -/
theorem Sounds.readOpen (h : C.Sounds main got job task? shares) (hi : i < C.count)
    (ht : task? (C.first + i) = some t) :
    Station.orAbsent t.station.input job (·.readClosed) = t.station.input.isNone := by
  obtain hinput | ⟨j, hinput⟩ := Option.eq_none_or_eq_some t.station.input
  · rw [hinput]
    rfl
  · obtain ⟨k, rfl, rfl⟩ := (h.stages i hi t ht).input j hinput
    obtain ⟨p, hp, hlink⟩ := h.linked.before hi ht
    rw [Station.reader?_eq hinput] at hlink
    rw [hinput, Station.orAbsent, Option.bind_some, hp]
    exact hlink.readClosed

/-- **One action of a stage** is answered as at the desk, or it has to wait. -/
theorem Sounds.attempt {action : Action β} (h : C.Sounds main got job task? shares) (hi : i < C.count)
    (ht : task? (C.first + i) = some t) (hb : t.behavior = .act action next) (who : Waker) :
    C.Attempted main got task? shares i job t next (t.station.attempt who action job) := by
  obtain ⟨n, hn⟩ := (h.stages i hi t ht).steps_pos
  obtain ⟨r, hruns⟩ := (h.stages i hi t ht).runs
  rw [hn, hb] at hruns
  obtain ⟨answer, written, d, rest, hanswer, -⟩ := hruns
  cases action with
  | read => exact h.read hi ht hb who
  | write v => exact h.write hi ht hb who
  | closeInput => exact h.closeInput hi ht hb who
  | inputClosed =>
    rw [Station.attempt, h.readOpen hi ht]
    refine h.answers hi ht hb id ?_ .refl h.level rfl
    rw [Desk.answer, Option.isNone_map]
  | level =>
    rw [Station.attempt, h.level]
    exact h.answers hi ht hb id rfl .refl h.level rfl
  | log level subsystem message =>
    exact h.answers hi ht hb id rfl (Job.serves_log level subsystem message) h.level rfl
  | report message =>
    exact h.answers hi ht hb id rfl (.of_eq (fun _ h => h) rfl rfl rfl rfl) h.level rfl
  | arguments | setArguments a => exact h.answers hi ht hb id rfl .refl h.level rfl
  | _ => cases hanswer

end Actions

/-! ## Polls -/

/-- What a poll of a stage comes to: it waits, and either it is some steps further, or nobody has been
woken; or it has ended. -/
inductive Polled (C : Chain) (main : Option ReadState) (got : List Value) (start : Job)
    (task? : Nat → Option Task) (shares : Nat → Share) (i : Nat) (t : Task) :
    Progress Unit → Station → Job → Prop where
  | waits {b : Behavior Unit} {st' : Station} {job' : Job} {s : Share}
    (sounds : C.Sounds main got job' (C.put i (some { t with station := st', behavior := b }) task?)
      (Function.update shares i s))
    (less : s.steps < (shares i).steps ∨ s = shares i ∧ job'.ready = start.ready) :
    Polled C main got start task? shares i t (.waiting b) st' job'
  | ends {b : Behavior Unit} {st' : Station} {job' : Job} {s : Share} {progress : Progress Unit}
    {outcome : Except ShellError Unit}
    (sounds : C.Sounds main got job' (C.put i (some { t with station := st', behavior := b }) task?)
      (Function.update shares i s))
    (less : s.steps ≤ (shares i).steps) (written : s.rest = []) (idle : ¬ b.Reads)
    (result : progress = .ofExcept outcome) : Polled C main got start task? shares i t progress st' job'

/-- A step, and what the rest of the poll comes to. -/
theorem Polled.step {job₁ : Job} {t₁ : Task} {s₁ : Share} {progress : Progress Unit} {st' : Station}
    (h : C.Polled main got job₁ (C.put i (some t₁) task?) (Function.update shares i s₁) i t₁ progress st'
      job')
    (hsame : ∀ st' b,
      { t₁ with station := st', behavior := b } = { t with station := st', behavior := b })
    (hless : s₁.steps < (shares i).steps) : C.Polled main got job task? shares i t progress st' job' := by
  cases h with
  | waits sounds less =>
    rw [Span.put_put, Function.update_idem, hsame] at sounds
    rw [Function.update_self] at less
    refine .waits sounds (.inl ?_)
    rcases less with hlower | ⟨rfl, -⟩
    · exact hlower.trans hless
    · exact hless
  | ends sounds less written idle result =>
    rw [Span.put_put, Function.update_idem, hsame] at sounds
    rw [Function.update_self] at less
    exact .ends sounds (less.trans hless.le) written idle result

/-- **A poll of a stage** comes to its end, in a number of steps that is known beforehand. -/
theorem Sounds.run (h : C.Sounds main got job task? shares) (hi : i < C.count)
    (ht : task? (C.first + i) = some t) (who : Waker) :
    ∃ progress st' job', (∀ fuel ≥ (shares i).steps,
        t.station.run fuel who job t.behavior = (progress, st', job')) ∧
      C.Polled main got job task? shares i t progress st' job' := by
  -- an action that is answered takes one of the steps that are left
  induction hn : (shares i).steps using Nat.strong_induction_on generalizing job task? shares t with
  | _ n ih =>
    subst hn
    have hcourse := h.stages i hi t ht
    obtain ⟨n, hn⟩ := hcourse.steps_pos
    have hless : n < (shares i).steps := hn ▸ n.lt_succ_self
    obtain ⟨r, hruns⟩ := hcourse.runs
    rw [hn] at hruns
    have hfuel : ∀ fuel ≥ (shares i).steps, ∃ k ≥ n, fuel = k + 1 :=
      fun fuel hf => ⟨fuel - 1, by omega, by omega⟩
    have hends : ∀ outcome, ¬ t.behavior.Reads → (shares i).rest = [] →
        C.Polled main got job task? shares i t (.ofExcept outcome) t.station job := by
      intro outcome hreads hrest
      refine .ends (b := t.behavior) (s := shares i) ?_ le_rfl hrest hreads rfl
      rwa [Function.update_eq_self, Span.put_eq ht]
    cases hb : t.behavior with
    | result a =>
      rw [hb] at hruns hends
      refine ⟨_, t.station, job, fun fuel hf => ?_, hends (.ok a) id hruns.1⟩
      obtain ⟨k, -, rfl⟩ := hfuel fuel hf
      rfl
    | fail e =>
      rw [hb] at hruns hends
      refine ⟨_, t.station, job, fun fuel hf => ?_, hends (.error e) id hruns.1⟩
      obtain ⟨k, -, rfl⟩ := hfuel fuel hf
      rfl
    | crash =>
      rw [hb] at hruns
      exact hruns.elim
    | loop s body next =>
      rw [hb] at hruns
      have hfresh := hcourse.fresh (hb ▸ id)
      have hserves : Job.Serves t.station.own (fun _ => False) job job := .refl
      have hunfold : C.Sounds main got job
          (C.put i (some { t with behavior := .unfold s body next }) task?)
          (Function.update shares i ⟨(shares i).rest, n⟩) :=
        h.stays hi ht hserves (hcourse.own_last hi) h.level rfl rfl rfl
          ⟨hcourse.input, hcourse.output, hcourse.timers, .inl hfresh, r, hruns⟩
      obtain ⟨progress, st', job', hrun, hpolled⟩ :=
        ih n hless hunfold (Span.put_self _) (by rw [Function.update_self])
      refine ⟨progress, st', job', fun fuel hf => ?_, hpolled.step (fun _ _ => rfl) ?_⟩
      · obtain ⟨k, hk, rfl⟩ := hfuel fuel hf
        exact hrun k hk
      · exact hless
    | act action next =>
      have hattempted := h.attempt hi ht hb who
      rcases hattempt : t.station.attempt who action job with ⟨_ | answer, st', job'⟩
      · rw [hattempt] at hattempted
        obtain ⟨hready, hsounds⟩ := hattempted
        rw [← hb]
        refine ⟨.waiting t.behavior, st', job', fun fuel hf => ?_, .waits hsounds (.inr ⟨rfl, hready⟩)⟩
        obtain ⟨k, -, rfl⟩ := hfuel fuel hf
        simp only [hb, Station.run, hattempt]
      · rw [hattempt] at hattempted
        obtain ⟨s, hless, hsounds⟩ := hattempted
        obtain ⟨progress, st'', job'', hrun, hpolled⟩ :=
          ih s.steps hless hsounds (Span.put_self _) (by rw [Function.update_self])
        refine ⟨progress, st'', job'', fun fuel hf => ?_, hpolled.step (fun _ _ => rfl) hless⟩
        obtain ⟨k, hk, rfl⟩ := hfuel fuel hf
        simp only [Station.run, hattempt]
        exact hrun k (by omega)

/-! ## A stage that leaves -/

/-- A stage that is over leaves its place: what is in its pipe stays there for the next stage. -/
theorem Sounds.release (h : C.Sounds main got job task? shares) (hi : i < C.count)
    (ht : task? (C.first + i) = some t) (hreads : ¬ t.behavior.Reads) (hrest : (shares i).rest = []) :
    C.Sounds main got (t.station.release job) (C.put i none task?)
      (Function.update shares i ⟨[], 0⟩) := by
  have hcourse := h.stages i hi t ht
  have hfresh := hcourse.fresh hreads
  have hserves := t.station.release_serves job
  have hlevel : (t.station.release job).level = 0 :=
    (congrArg (·.2.1) (t.station.core_release job)).trans h.level
  obtain ⟨hlinked, -⟩ := h.linked.release hi ht hcourse.input
    (fun j hj => Option.some.inj (hj.symm.trans hcourse.output)) hfresh
  -- its own pipe keeps what it holds, and only that of the stage before may lose something
  set unread := (t.station.closeInput job).2 with hunread
  have hread : ∀ k, k + 1 ≠ i → unread.pipes[C.base + k]? = job.pipes[C.base + k]? := by
    intro k hk
    rw [hunread, Station.closeInput]
    split
    · rename_i j hinput
      obtain ⟨b, rfl, rfl⟩ := hcourse.input j hinput
      obtain ⟨q, hq, -⟩ := h.linked.before hi ht
      rw [Job.closeRead, Job.query_eq hq]
      exact Job.store_other (by omega) _ _ job
    · rfl
  obtain ⟨p, hp, hlink⟩ := h.linked i hi
  have hp' := (hread i (Nat.succ_ne_self i)).trans hp
  have hrelease : t.station.release job =
      unread.store (C.base + i) p.closeWrite.2.1 p.closeWrite.2.2 := by
    rw [Station.release_eq hfresh hcourse.timers hcourse.output, Job.closeWrite, Job.query_eq hp']
  refine h.replace hi hserves (hcourse.own_last hi) hlevel hlinked (fun k hk hk' => ?_) (fun _ => ?_)
    (by simp) fun _ => rfl
  · rw [hrelease, C.holds_store hk]
    exact C.holds_congr (hread k hk')
  · rw [hrelease, C.holds_eq (Job.store_self hp' _ _), p.stock_closeWrite, Span.flow, C.holds_eq hp, hrest]

/-- The job has come to look otherwise, but for what the line sees of it. -/
theorem Sounds.congr (h : C.Sounds main got job task? shares) (hlevel : job'.level = job.level)
    (hpipes : job'.pipes = job.pipes) (hwoken : job.mainWoken = true → job'.mainWoken = true) :
    C.Sounds main got job' task? shares := by
  have hflow : ∀ k, C.flow job' shares k = C.flow job shares k := fun k =>
    congrArg (· ++ _) (C.holds_congr (by rw [hpipes]))
  have hsupply : ∀ k, C.supply job' shares k = C.supply job shares k := by
    rintro (_ | k)
    · rfl
    · exact hflow k
  refine ⟨hlevel.trans h.level, ?_, fun i hi t ht => ?_, h.gone, fun hmain => ?_, fun ticket hticket => ?_⟩
  · rw [Span.Linked, hpipes]
    exact h.linked
  · rw [hsupply]
    exact h.stages i hi t ht
  · rw [hflow]
    exact h.all hmain
  · rw [hpipes]
    exact (h.heeds ticket hticket).imp_left hwoken

/-! ## The stages on a machine -/

variable (C) in
/-- A bound for the steps of the stages and the items that the main future may still receive. -/
def labor (got : List Value) (shares : Nat → Share) : Nat :=
  (∑ i ∈ Finset.range C.count, (shares i).steps) + (C.out.length - got.length)

theorem labor_step (hi : i < C.count) (hless : s.steps < (shares i).steps) :
    C.labor got (Function.update shares i s) < C.labor got shares := by
  refine Nat.add_lt_add_right (Finset.sum_lt_sum (fun k _ => ?_) ⟨i, Finset.mem_range.mpr hi, ?_⟩) _
  · by_cases hk : k = i
    · subst hk
      rw [Function.update_self]
      exact hless.le
    · rw [Function.update_of_ne hk]
  · rwa [Function.update_self]

/-- What is logged of the end of a stage, and reported, does not concern the others. -/
theorem Sounds.logEnd (h : C.Sounds main got job task? shares) (name : String)
    (outcome : Except ShellError Unit) :
    C.Sounds main got (Machine.logEnd name outcome job) task? shares := by
  have hkept : (Machine.logEnd name outcome job).pipes = job.pipes ∧
      (Machine.logEnd name outcome job).mainWoken = job.mainWoken := by
    unfold Machine.logEnd
    split
    · exact ⟨rfl, rfl⟩
    · split <;> exact ⟨rfl, rfl⟩
  exact h.congr (congrArg (·.2.1) (Machine.core_logEnd name outcome job)) hkept.1 fun h => hkept.2.trans h

/-- The poll of a ready stage comes to its end, and lowers the bound. -/
theorem Sounds.pollTask {m : Machine} (h : C.Sounds main got m.job m.task? shares) (hi : i < C.count)
    (ht : m.task? (C.first + i) = some t) (hready : C.first + i ∈ m.job.ready) :
    ∃ ended m' shares', (∀ n ≥ (shares i).steps,
        (m.unready (C.first + i)).pollTask n (C.first + i) t = (ended, m')) ∧
      m'.halt = m.halt ∧ C.Sounds main got m'.job m'.task? shares' ∧
      C.effort (C.labor got shares') m' < C.effort (C.labor got shares) m := by
  have hbusy : C.Sounds main got (m.unready (C.first + i)).job m.task? shares := h.congr rfl rfl id
  obtain ⟨progress, st', job', hrun, hpolled⟩ := hbusy.run hi ht (.task (C.first + i))
  cases hpolled with
  | @waits b _ _ s hsounds hless =>
    set parked := ({ m.unready (C.first + i) with job := job' } : Machine).setTask (C.first + i)
      { t with behavior := b, station := st' }
    have htasks : parked.task? = C.put i (some { t with behavior := b, station := st' }) m.task? :=
      Machine.task?_setTask _ _ _ ht
    rw [← htasks] at hsounds
    refine ⟨false, parked, _, fun k hk => ?_, rfl, hsounds, ?_⟩
    · rw [Machine.pollTask, hrun k hk]
    · -- it has taken a step, or it has woken nobody and is not ready any more
      rcases hless with hless | ⟨rfl, hsame⟩
      · exact C.effort_step (labor_step hi hless) rfl
      · rw [Function.update_eq_self]
        exact C.effort_poll hi hready hsame rfl
  | @ends b _ _ s _ outcome hsounds hless hwritten hidle hresult =>
    have hleft := hsounds.release hi (Span.put_self _) hidle (by rw [Function.update_self]; exact hwritten)
    rw [Span.put_put, Function.update_idem] at hleft
    have hover := hleft.logEnd t.name outcome
    rw [Span.put, ← Machine.task?_removeTask] at hover
    have hpositive := (hbusy.stages i hi t ht).steps_pos
    refine ⟨true, (m.unready (C.first + i)).endTask (C.first + i) t.name st' outcome job', _,
      fun k hk => ?_, rfl, hover, C.effort_step (labor_step hi ?_) rfl⟩
    · rw [Machine.pollTask, hrun k hk, hresult]
      cases outcome <;> rfl
    · obtain ⟨n, hn⟩ := hpositive
      rw [hn]
      exact n.succ_pos

/-- The line sounds, with a bound for what is left to do. -/
def Relays (C : Chain) (main : Option ReadState) (got : List Value) (k : Nat) (m : Machine) : Prop :=
  ∃ shares, C.Sounds main got m.job m.task? shares ∧ C.effort (C.labor got shares) m ≤ k

theorem Relays.enqueue {k : Nat} {m : Machine} (h : C.Relays main got k m) :
    C.Relays main got k (m.enqueue C.pool) := by
  obtain ⟨shares, hsounds, hbound⟩ := h
  exact ⟨shares, hsounds.congr rfl rfl id, (C.effort_enqueue _ m C.pool).trans hbound⟩

/-- On a pool of its own every poll lowers the bound. -/
theorem wanes_relays (hwatches : C.watches = []) (main : Option ReadState) (got : List Value) :
    Machine.Wanes C.pool fun k m => Working C.toSpan m ∧ C.Relays main got k m := by
  refine C.wanes hwatches ?_ Relays.enqueue
  rintro k m i t ⟨shares, hsounds, hbound⟩ hi ht hready
  obtain ⟨ended, m', shares', hpoll, hhalt, hsounds', hless⟩ := hsounds.pollTask hi ht hready
  exact ⟨_, ended, m', hpoll, hhalt, _, hless.trans_le hbound, shares', hsounds', le_rfl⟩

/-- Where no stage is ready, and the main future waits unless it has left, it has left, and every stage
is over. -/
theorem Sounds.stalled (h : C.Sounds main got job task? shares)
    (hwired : Wired C.toSpan none job task? [])
    (hasleep : ∀ i < C.count, ∀ t, task? (C.first + i) = some t → C.first + i ∉ job.ready)
    (hcount : 0 < C.count)
    (hmain : main ≠ none → ∃ p, job.pipes[C.base + (C.count - 1)]? = some p ∧ p.parked ≠ []) :
    main = none ∧ ∀ i < C.count, task? (C.first + i) = none :=
  h.linked.over (fun i hi t ht => Span.waits_of_asleep hwired hi ht (h.stages i hi t ht).timers
    (hasleep i hi t ht)) hcount hmain

end Chain

end Pipework
