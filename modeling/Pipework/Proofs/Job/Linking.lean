import Pipework.Proofs.Job.Ebbing
import Pipework.Proofs.Job.Flowing

/-!
# The pipes of a line at work

While nobody tears a line down, each of its pipes is a link from a stage to the next one, and the last
pipe one to the main future (`Span.Linked`). What an action of a stage does to the pipes is told by
`Linked.attempt`: they stay linked, the stage puts items only into its own pipe and takes them only
from the one before, and an action that has to wait changes nothing of what they hold.

A line each of whose stages waits on a pipe, and whose last pipe nobody waits to fill, has no stages
(`Linked.stalled`).
-/

namespace Pipework

variable {L : Span} {main : Option ReadState} {job job' : Job} {task? : Nat → Option Task} {i : Nat}
  {t : Task}

theorem Station.pipes_forgetTimers (st : Station) (job : Job) :
    (st.forgetTimers job).2.pipes = job.pipes := by
  unfold forgetTimers
  generalize st.timers = timers
  induction timers generalizing job with
  | nil => rfl
  | cons id timers ih => exact ih (job.forgetTimer id)

/-- No read is parked on a pipe on which a write is blocked. -/
theorem Pipe.Sound.not_parked {p : Pipe Value} (h : p.Sound) (hblocked : p.blocked ≠ []) :
    p.parked = [] := by
  by_contra hparked
  have hfull := (h.blocked hblocked).1
  rw [(h.parked hparked).1] at hfull
  exact absurd hfull (Nat.not_le.mpr p.capacity_pos)

namespace Span

variable (L : Span)

/-- The state of the reader of pipe `i`: of the next stage, and of the main future on the last
pipe. -/
def reader? (main : Option ReadState) (task? : Nat → Option Task) (i : Nat) : Option ReadState :=
  if i + 1 = L.count then main else (task? (L.first + (i + 1))).bind (·.station.reader?)

/-- Stage `i` has not released its writer. -/
def writes (task? : Nat → Option Task) (i : Nat) : Bool :=
  (task? (L.first + i)).any (·.station.output.isSome)

/-- Each pipe is a link. -/
def Linked (main : Option ReadState) (job : Job) (task? : Nat → Option Task) : Prop :=
  ∀ i < L.count, ∃ p, job.pipes[L.base + i]? = some p ∧
    p.Link (L.reader? main task? i) (L.writes task? i)

/-- How many items pipe `i` holds. -/
def stock (job : Job) (i : Nat) : Nat := (job.pipes[L.base + i]?).elim 0 (·.stock.length)

theorem stock_eq {p : Pipe Value} (hp : job.pipes[L.base + i]? = some p) :
    L.stock job i = p.stock.length := by rw [stock, hp]; rfl

theorem stock_congr (h : job'.pipes[L.base + i]? = job.pipes[L.base + i]?) :
    L.stock job' i = L.stock job i := by rw [stock, h, stock]

/-- A pipe that is changed is the only one. -/
theorem stock_store {k j : Nat} (hk : k ≠ j) (p : Pipe Value) (events : List Pipe.Event) :
    L.stock (job.store (L.base + j) p events) k = L.stock job k :=
  L.stock_congr (Job.store_other (by omega) p events job)

variable {L}

/-- The reader of the pipe before a stage is that of the stage. -/
theorem reader?_before {before : Nat} (hi : before + 1 < L.count) :
    L.reader? main task? before = (task? (L.first + (before + 1))).bind (·.station.reader?) :=
  if_neg hi.ne

theorem reader?_put {k : Nat} (hk : k + 1 ≠ i) (t : Option Task) :
    L.reader? main (L.put i t task?) k = L.reader? main task? k := by
  unfold reader?
  rw [put_other (by omega)]

theorem writes_put {k : Nat} (hk : k ≠ i) (t : Option Task) :
    L.writes (L.put i t task?) k = L.writes task? k := by
  unfold writes
  rw [put_other (by omega)]

theorem writes_self (t : Option Task) :
    L.writes (L.put i t task?) i = t.any (·.station.output.isSome) := by
  unfold writes
  rw [put_self]

/-! ## A stage in a new place -/

/-- A stage comes to a new place, and changes nothing but its own two pipes. -/
theorem Linked.replace (h : L.Linked main job task?) (hi : i < L.count) {t' : Option Task}
    (hothers : ∀ k, k ≠ i → k + 1 ≠ i → job'.pipes[L.base + k]? = job.pipes[L.base + k]?)
    (hbefore : ∀ k, k + 1 = i → ∃ p, job'.pipes[L.base + k]? = some p ∧
      p.Link (t'.bind (·.station.reader?)) (L.writes task? k))
    (hafter : ∃ p, job'.pipes[L.base + i]? = some p ∧
      p.Link (L.reader? main task? i) (t'.any (·.station.output.isSome))) :
    L.Linked main job' (L.put i t' task?) := by
  intro k hk
  by_cases hki : k = i
  · subst hki
    rw [reader?_put (Nat.succ_ne_self k), writes_self]
    exact hafter
  rw [writes_put hki]
  by_cases hki' : k + 1 = i
  · subst hki'
    rw [reader?_before hi, put_self]
    exact hbefore k rfl
  · rw [hothers k hki hki', reader?_put hki']
    exact h k hk

/-- The pipe that a stage reads is linked to it. -/
theorem Linked.before {before : Nat} (h : L.Linked main job task?) (hi : before + 1 < L.count)
    (ht : task? (L.first + (before + 1)) = some t) : ∃ p, job.pipes[L.base + before]? = some p ∧
      p.Link t.station.reader? (L.writes task? before) := by
  obtain ⟨p, hp, hlink⟩ := h before (by omega)
  rw [reader?_before hi, ht] at hlink
  exact ⟨p, hp, hlink⟩

/-- A stage changes no pipe. -/
theorem Linked.stays (h : L.Linked main job task?) (hi : i < L.count)
    (ht : task? (L.first + i) = some t) (hpipes : job'.pipes = job.pipes) {u : Task}
    (hreader : u.station.reader? = t.station.reader?) (houtput : u.station.output = t.station.output) :
    L.Linked main job' (L.put i (some u) task?) := by
  refine h.replace hi (fun k _ _ => by rw [hpipes]) (fun k hk => ?_) ?_
  · subst hk
    rw [hpipes, Option.bind_some, hreader]
    exact h.before hi ht
  · obtain ⟨p, hp, hlink⟩ := h i hi
    rw [writes, ht] at hlink
    rw [hpipes, Option.any_some, houtput]
    exact ⟨p, hp, hlink⟩

/-- A stage changes the pipe that it reads. -/
theorem Linked.receives {before : Nat} (h : L.Linked main job task?) (hi : before + 1 < L.count)
    (ht : task? (L.first + (before + 1)) = some t) {p p' : Pipe Value} {events : List Pipe.Event}
    (hp : job.pipes[L.base + before]? = some p) {u : Task}
    (hlink : p'.Link u.station.reader? (L.writes task? before))
    (houtput : u.station.output = t.station.output) :
    L.Linked main (job.store (L.base + before) p' events) (L.put (before + 1) (some u) task?) := by
  have hother : ∀ k, k ≠ before →
      (job.store (L.base + before) p' events).pipes[L.base + k]? = job.pipes[L.base + k]? :=
    fun k hk => Job.store_other (by omega) p' events job
  refine h.replace hi (fun k _ hk => hother k (by omega)) (fun k hk => ?_) ?_
  · obtain rfl := Nat.succ.inj hk
    exact ⟨p', Job.store_self hp p' events, hlink⟩
  · obtain ⟨q, hq, hafter⟩ := h _ hi
    rw [writes, ht] at hafter
    rw [hother _ (Nat.succ_ne_self before), Option.any_some, houtput]
    exact ⟨q, hq, hafter⟩

/-- A stage changes the pipe that it writes to. -/
theorem Linked.sends (h : L.Linked main job task?) (hi : i < L.count)
    (ht : task? (L.first + i) = some t) {p p' : Pipe Value} {events : List Pipe.Event}
    (hp : job.pipes[L.base + i]? = some p) {u : Task}
    (hreader : u.station.reader? = t.station.reader?)
    (hlink : p'.Link (L.reader? main task? i) u.station.output.isSome) :
    L.Linked main (job.store (L.base + i) p' events) (L.put i (some u) task?) := by
  have hother : ∀ k, k ≠ i →
      (job.store (L.base + i) p' events).pipes[L.base + k]? = job.pipes[L.base + k]? :=
    fun k hk => Job.store_other (by omega) p' events job
  refine h.replace hi (fun k hk _ => hother k hk) (fun k hk => ?_)
    ⟨p', Job.store_self hp p' events, hlink⟩
  subst hk
  rw [hother k (Nat.succ_ne_self k).symm, Option.bind_some, hreader]
  exact h.before hi ht

/-! ## One action -/

/-- What an action of stage `i` has made of the pipes: they are linked, and only its own pipe holds
more. If it has to wait, they hold what they held, and nobody has been woken. If it is answered, the
answer brings no item, or it has been taken from the pipe before. -/
structure Attempted (L : Span) (main : Option ReadState) (task? : Nat → Option Task) (i : Nat)
    (t : Task) (job : Job) {β : Type} (action : Action β) (r : Poll β × Station × Job) : Prop where
  linked : ∀ b, L.Linked main r.2.2 (L.put i (some { t with station := r.2.1, behavior := b }) task?)
  stock : ∀ k, k ≠ i → L.stock r.2.2 k ≤ L.stock job k
  pending : r.1 = .pending → r.2.2.ready = job.ready ∧ r.2.2.mainWoken = job.mainWoken ∧
    ∀ k, L.stock r.2.2 k = L.stock job k
  answered : ∀ answer, r.1 = .ready answer → 1 ≤ job.level → action.Dry answer ∨
    ∃ k, k + 1 = i ∧ L.stock r.2.2 k < L.stock job k

section Actions

variable {st' : Station} {who : Waker}

/-- An action has to wait, and no pipe is changed. -/
theorem Linked.waits (h : L.Linked main job task?) (hi : i < L.count)
    (ht : task? (L.first + i) = some t) {β : Type} {action : Action β} {r : Poll β × Station × Job}
    (hpending : r.1 = .pending) (hpipes : r.2.2.pipes = job.pipes)
    (hreader : r.2.1.reader? = t.station.reader?) (houtput : r.2.1.output = t.station.output)
    (hready : r.2.2.ready = job.ready) (hwoken : r.2.2.mainWoken = job.mainWoken) :
    L.Attempted main task? i t job action r where
  linked _ := h.stays hi ht hpipes hreader houtput
  stock k _ := (L.stock_congr (by rw [hpipes])).le
  pending _ := ⟨hready, hwoken, fun k => L.stock_congr (by rw [hpipes])⟩
  answered _ hanswer := nomatch hpending.symm.trans hanswer

/-- An action is answered, the answer brings no item, and no pipe is changed. -/
theorem Linked.answers (h : L.Linked main job task?) (hi : i < L.count)
    (ht : task? (L.first + i) = some t) {β : Type} {action : Action β} {r : Poll β × Station × Job}
    {answer : β} (hanswer : r.1 = .ready answer) (hpipes : r.2.2.pipes = job.pipes)
    (hreader : r.2.1.reader? = t.station.reader?) (houtput : r.2.1.output = t.station.output)
    (hdry : 1 ≤ job.level → action.Dry answer) : L.Attempted main task? i t job action r where
  linked _ := h.stays hi ht hpipes hreader houtput
  stock k _ := (L.stock_congr (by rw [hpipes])).le
  pending hwaits := nomatch hanswer.symm.trans hwaits
  answered answer' hanswer' hlevel := by
    obtain rfl := Poll.ready.inj (hanswer.symm.trans hanswer')
    exact .inl (hdry hlevel)

/-- A stage reads. -/
theorem Linked.read (h : L.Linked main job task?) (hi : i < L.count)
    (ht : task? (L.first + i) = some t) (hfit : L.Fit job i t) :
    L.Attempted main task? i t job .read (t.station.tryRead who job) := by
  obtain hinput | ⟨j, hinput⟩ := Option.eq_none_or_eq_some t.station.input
  · rw [Station.tryRead_none hinput]
    exact h.answers hi ht rfl rfl rfl rfl fun _ => rfl
  obtain ⟨before, rfl, rfl⟩ := hfit.input j hinput
  obtain ⟨p, hp, hlink⟩ := h.before hi ht
  have hreader : ∀ reading, ({ t.station with reading := reading } : Station).reader? = some reading :=
    fun _ => Station.reader?_eq hinput
  rw [Station.reader?_eq hinput] at hlink
  have hother : ∀ (p' : Pipe Value) events, p'.stock.length ≤ p.stock.length → ∀ k, k ≠ before + 1 →
      L.stock (job.store (L.base + before) p' events) k ≤ L.stock job k := by
    intro p' events hless k _
    by_cases hk : k = before
    · subst hk
      rwa [L.stock_eq (Job.store_self hp p' events), L.stock_eq hp]
    · exact (L.stock_store hk p' events).le
  rw [Station.tryRead_eq hinput hp]
  rcases hlink.pollRead who with ⟨ticket, p', hpoll, hlink', -, hempty, hempty'⟩ |
    ⟨v, p', events, hpoll, hlink', hhead⟩ | ⟨p', events, hpoll, hlink', hempty, hempty', -⟩ <;> rw [hpoll]
  · have hsame : p'.stock.length = p.stock.length := by rw [hempty, hempty']
    refine ⟨fun b => h.receives hi ht hp (by rw [hreader]; exact hlink') rfl,
      hother p' _ hsame.le, fun _ => ⟨rfl, rfl, fun k => ?_⟩, nofun⟩
    by_cases hk : k = before
    · subst hk
      rw [L.stock_eq (Job.store_self hp p' _), L.stock_eq hp, hsame]
    · exact L.stock_store hk p' _
  · have hless : p'.stock.length < p.stock.length := by
      rw [hhead, List.length_cons]
      exact Nat.lt_succ_self _
    refine ⟨fun b => h.receives hi ht hp (by rw [hreader]; exact hlink') rfl,
      hother p' _ hless.le, nofun, fun _ _ _ => .inr ⟨before, rfl, ?_⟩⟩
    rwa [L.stock_eq (Job.store_self hp p' _), L.stock_eq hp]
  · refine ⟨fun b => h.receives hi ht hp (by rw [hreader]; exact hlink') rfl,
      hother p' _ (by rw [hempty, hempty']), nofun, fun answer hanswer _ => .inl ?_⟩
    exact (Poll.ready.inj hanswer).symm

/-- A stage writes. -/
theorem Linked.write (h : L.Linked main job task?) (hi : i < L.count)
    (ht : task? (L.first + i) = some t) (hfit : L.Fit job i t) (v : Value) :
    L.Attempted main task? i t job (.write v) (t.station.tryWrite who v job) := by
  obtain houtput | ⟨j, houtput⟩ := Option.eq_none_or_eq_some t.station.output
  · rw [Station.tryWrite_none houtput]
    exact h.answers hi ht rfl rfl rfl rfl fun _ => trivial
  obtain rfl := hfit.output j houtput
  obtain ⟨p, hp, hlink⟩ := h i hi
  rw [writes, ht, Option.any_some, houtput, Option.isSome_some] at hlink
  have hsends : ∀ (p' : Pipe Value) events, p'.Link (L.reader? main task? i) true → ∀ b,
      L.Linked main (job.store (L.base + i) p' events)
        (L.put i (some { t with behavior := b }) task?) := fun p' events hlink' b =>
    h.sends hi ht hp rfl (by rw [houtput]; exact hlink')
  have hother : ∀ (p' : Pipe Value) events k, k ≠ i →
      L.stock (job.store (L.base + i) p' events) k ≤ L.stock job k := fun p' events k hk =>
    (L.stock_store hk p' events).le
  rw [Station.tryWrite_eq houtput hp]
  rcases hlink.pollWrite who v with ⟨p', hpoll, hlink', hstock⟩ |
    ⟨p', events, hpoll, hlink', -⟩ | ⟨e, events, hpoll, -⟩ <;> rw [hpoll]
  · refine ⟨hsends p' _ hlink', hother p' _, fun _ => ⟨rfl, rfl, fun k => ?_⟩, nofun⟩
    by_cases hk : k = i
    · subst hk
      rw [L.stock_eq (Job.store_self hp p' _), L.stock_eq hp, hstock]
    · exact L.stock_store hk p' _
  · exact ⟨hsends p' _ hlink', hother p' _, nofun, fun _ _ _ => .inl trivial⟩
  · exact ⟨hsends p _ hlink, hother p _, nofun, fun _ _ _ => .inl trivial⟩

/-- A stage releases its reader, after it has been answered. -/
theorem Linked.closeInput (h : L.Linked main job task?) (hi : i < L.count)
    (ht : task? (L.first + i) = some t)
    (hbefore : ∀ j, t.station.input = some j → ∃ before, i = before + 1 ∧ j = L.base + before)
    (hfresh : t.station.reading = .fresh) :
    (∀ b, L.Linked main (t.station.closeInput job).2
      (L.put i (some { t with station := (t.station.closeInput job).1, behavior := b }) task?)) ∧
    ∀ k, k ≠ i → L.stock (t.station.closeInput job).2 k ≤ L.stock job k := by
  unfold Station.closeInput
  split
  · rename_i j hinput
    obtain ⟨before, rfl, rfl⟩ := hbefore j hinput
    obtain ⟨p, hp, hlink⟩ := h.before hi ht
    rw [Station.reader?_eq hinput, hfresh] at hlink
    rw [Job.closeRead, Job.query_eq hp]
    refine ⟨fun b => h.receives hi ht hp hlink.closeRead rfl, fun k _ => ?_⟩
    by_cases hk : k = before
    · subst hk
      obtain ⟨lost, hlost, -⟩ := p.keeps_closeRead
      rw [L.stock_eq (Job.store_self hp _ _), L.stock_eq hp, hlost, List.length_append]
      exact Nat.le_add_right _ _
    · exact (L.stock_store hk _ _).le
  · exact ⟨fun b => h.stays hi ht rfl rfl rfl, fun _ _ => le_rfl⟩

/-- A stage releases its writer. -/
theorem Linked.closeOutput (h : L.Linked main job task?) (hi : i < L.count)
    (ht : task? (L.first + i) = some t) (hown : ∀ j, t.station.output = some j → j = L.base + i) :
    (∀ b, L.Linked main (t.station.closeOutput job).2
      (L.put i (some { t with station := (t.station.closeOutput job).1, behavior := b }) task?)) ∧
    ∀ k, k ≠ i → L.stock (t.station.closeOutput job).2 k ≤ L.stock job k := by
  unfold Station.closeOutput
  split
  · rename_i j houtput
    obtain rfl := hown j houtput
    obtain ⟨p, hp, hlink⟩ := h i hi
    rw [writes, ht, Option.any_some, houtput, Option.isSome_some] at hlink
    rw [Job.closeWrite, Job.query_eq hp]
    exact ⟨fun b => h.sends hi ht hp rfl hlink.closeWrite.1, fun k hk => (L.stock_store hk _ _).le⟩
  · exact ⟨fun b => h.stays hi ht rfl rfl rfl, fun _ _ => le_rfl⟩

/-- **One action of a stage** and the pipes of its line. -/
theorem Linked.attempt (h : L.Linked main job task?) (hi : i < L.count)
    (ht : task? (L.first + i) = some t) (hfit : L.Fit job i t) {β : Type} {action : Action β}
    {next : β → Behavior Unit} (hb : t.behavior = .act action next) (hmeek : action.Meek) :
    L.Attempted main task? i t job action (t.station.attempt who action job) := by
  have hfresh : ¬ t.behavior.Reads → t.station.reading = .fresh := fun hreads =>
    hfit.reading.resolve_right fun h => hreads h.1
  rw [hb] at hfresh
  cases action with
  | read => exact h.read hi ht hfit
  | write v => exact h.write hi ht hfit v
  | closeInput =>
    obtain ⟨hlinked, hstock⟩ := h.closeInput hi ht hfit.input (hfresh id)
    exact ⟨hlinked, hstock, nofun, fun _ _ _ => .inl trivial⟩
  | closeOutput =>
    obtain ⟨hlinked, hstock⟩ := h.closeOutput hi ht hfit.output
    exact ⟨hlinked, hstock, nofun, fun _ _ _ => .inl trivial⟩
  | interrupt hard => exact hmeek.elim
  | level => exact h.answers hi ht rfl rfl rfl rfl id
  | startTimer kind =>
    have hpipes : (job.startTimer kind t.station.output).2.pipes = job.pipes := by
      obtain hstart | hstart := Job.startTimer_cases kind t.station.output job <;> rw [hstart] <;> rfl
    exact h.answers hi ht rfl hpipes rfl rfl fun _ => trivial
  | awaitTimer id ms =>
    simp only [Station.attempt, Station.tryWait]
    split
    · exact h.waits hi ht rfl rfl rfl rfl rfl rfl
    · exact h.answers hi ht rfl rfl rfl rfl fun _ => trivial
  | pause ms =>
    simp only [Station.attempt, Station.tryWait]
    split
    · exact h.waits hi ht rfl rfl rfl rfl rfl rfl
    · exact h.answers hi ht rfl rfl rfl rfl fun _ => trivial
  | _ => exact h.answers hi ht rfl rfl rfl rfl fun _ => trivial

end Actions

/-! ## A stage that leaves -/

/-- A stage that has released its ends may go. -/
theorem Linked.leave (h : L.Linked main job task?) (hi : i < L.count)
    (ht : task? (L.first + i) = some t) (hinput : t.station.input = none)
    (houtput : t.station.output = none) : L.Linked main job (L.put i none task?) := by
  refine h.replace hi (fun _ _ _ => rfl) (fun k hk => ?_) ?_
  · subst hk
    obtain ⟨p, hp, hlink⟩ := h.before hi ht
    rw [Station.reader?, hinput] at hlink
    exact ⟨p, hp, hlink⟩
  · obtain ⟨p, hp, hlink⟩ := h i hi
    rw [writes, ht, Option.any_some, houtput] at hlink
    exact ⟨p, hp, hlink⟩

/-- A stage that is over releases its ends and goes, and adds nothing to any other pipe. -/
theorem Linked.release (h : L.Linked main job task?) (hi : i < L.count)
    (ht : task? (L.first + i) = some t)
    (hbefore : ∀ j, t.station.input = some j → ∃ before, i = before + 1 ∧ j = L.base + before)
    (hown : ∀ j, t.station.output = some j → j = L.base + i) (hfresh : t.station.reading = .fresh) :
    L.Linked main (t.station.release job) (L.put i none task?) ∧
      ∀ k, k ≠ i → L.stock (t.station.release job) k ≤ L.stock job k := by
  obtain ⟨hread, hreadstock⟩ := h.closeInput hi ht hbefore hfresh
  rw [t.station.closeInput_station] at hread
  -- its timers are no matter of the pipes
  set job₁ := (t.station.closeInput job).2
  set unread : Station := { t.station with input := none }
  have hpipes := unread.pipes_forgetTimers job₁
  have hforgot := (hread t.behavior).stays hi (put_self _) hpipes
    (u := { t with station := (unread.forgetTimers job₁).1 }) rfl rfl
  rw [put_put] at hforgot
  set job₂ := (unread.forgetTimers job₁).2
  obtain ⟨hwrite, hwritestock⟩ := hforgot.closeOutput hi (put_self _) fun j hj => hown j hj
  have hleft := (hwrite t.behavior).leave hi (put_self _)
    (by rw [Station.closeOutput_station]; rfl) (by rw [Station.closeOutput_station])
  rw [put_put, put_put] at hleft
  have hrelease : t.station.release job = ((unread.forgetTimers job₁).1.closeOutput job₂).2 := by
    rw [Station.release, Station.abandonRead_fresh hfresh]
    dsimp only
    rw [t.station.closeInput_station]
  rw [hrelease]
  refine ⟨hleft, fun k hk => (hwritestock k hk).trans ?_⟩
  exact (L.stock_congr (by rw [hpipes])).le.trans (hreadstock k hk)

/-! ## The main future -/

theorem reader?_last (hlast : i + 1 = L.count) : L.reader? main task? i = main := if_pos hlast

/-- The main future changes the last pipe, and nothing else. -/
theorem Linked.mainMoves {last : Nat} {main' : Option ReadState} (h : L.Linked main job task?)
    (hlast : last + 1 = L.count) {p p' : Pipe Value} (events : List Pipe.Event)
    (hp : job.pipes[L.base + last]? = some p) (hlink : p'.Link main' (L.writes task? last)) :
    L.Linked main' (job.store (L.base + last) p' events) task? := by
  intro k hk
  by_cases hkl : k = last
  · subst hkl
    rw [reader?_last hlast]
    exact ⟨p', Job.store_self hp p' events, hlink⟩
  · obtain ⟨q, hq, hlink⟩ := h k hk
    have hinner : k + 1 ≠ L.count := by omega
    rw [reader?, if_neg hinner] at hlink ⊢
    exact ⟨q, by rw [Job.store_other (by omega), hq], hlink⟩

/-- What a read of the main future finds: it waits, and nobody has been woken; or it takes an item; or
nothing more will come. -/
theorem Linked.mainReads {last : Nat} {st : Station} (h : L.Linked (some st.reading) job task?)
    (hlast : last + 1 = L.count) (hinput : st.input = some (L.base + last)) :
    (∃ ticket job', st.tryRead .main job = (.pending, { st with reading := .parked ticket }, job') ∧
      L.Linked (some (.parked ticket)) job' task? ∧
      (∃ p, job'.pipes[L.base + last]? = some p ∧ (ticket, .main) ∈ p.parked) ∧
      job'.ready = job.ready ∧ job'.mainWoken = job.mainWoken ∧
      ∀ k, L.stock job' k = L.stock job k) ∨
    (∃ v job', st.tryRead .main job = (.ready (some v), { st with reading := .fresh }, job') ∧
      L.Linked (some .fresh) job' task? ∧ (∀ k, k ≠ last → L.stock job' k = L.stock job k) ∧
      L.stock job' last < L.stock job last) ∨
    ∃ job', st.tryRead .main job = (.ready none, { st with reading := .fresh }, job') ∧
      L.Linked (some .fresh) job' task? ∧ (∀ k, L.stock job' k = L.stock job k) ∧
      L.writes task? last = false := by
  obtain ⟨p, hp, hlink⟩ := h last (by omega)
  rw [reader?_last hlast] at hlink
  have hsame : ∀ (p' : Pipe Value) events, p'.stock = p.stock → ∀ k,
      L.stock (job.store (L.base + last) p' events) k = L.stock job k := by
    intro p' events hstock k
    by_cases hk : k = last
    · subst hk
      rw [L.stock_eq (Job.store_self hp p' events), L.stock_eq hp, hstock]
    · exact L.stock_store hk p' events
  rw [Station.tryRead_eq hinput hp]
  rcases hlink.pollRead .main with ⟨ticket, p', hpoll, hlink', hparked, hempty, hempty'⟩ |
    ⟨v, p', events, hpoll, hlink', hhead⟩ | ⟨p', events, hpoll, hlink', hempty, hempty', hgone⟩ <;>
    rw [hpoll]
  · exact .inl ⟨ticket, _, rfl, h.mainMoves hlast _ hp hlink', ⟨p', Job.store_self hp _ _, hparked⟩,
      rfl, rfl, hsame p' _ (hempty'.trans hempty.symm)⟩
  · refine .inr (.inl ⟨v, _, rfl, h.mainMoves hlast _ hp hlink',
      fun k hk => L.stock_store hk _ _, ?_⟩)
    rw [L.stock_eq (Job.store_self hp p' _), L.stock_eq hp, hhead, List.length_cons]
    exact Nat.lt_succ_self _
  · exact .inr (.inr ⟨_, rfl, h.mainMoves hlast _ hp hlink', hsame p' _ (hempty'.trans hempty.symm),
      hgone⟩)

/-! ## Nobody waits for ever -/

/-- Stage `i` waits on a pipe: on the one that it reads, or on its own. -/
def Waits (L : Span) (job : Job) (i : Nat) : Prop :=
  (∃ before p, i = before + 1 ∧ job.pipes[L.base + before]? = some p ∧ p.parked ≠ []) ∨
    ∃ p, job.pipes[L.base + i]? = some p ∧ p.blocked ≠ []

section Stalled

variable {p : Pipe Value}

theorem Linked.link (h : L.Linked main job task?) (hi : i < L.count)
    (hp : job.pipes[L.base + i]? = some p) :
    p.Link (L.reader? main task? i) (L.writes task? i) := by
  obtain ⟨p', hp', hlink⟩ := h i hi
  exact Option.some.inj (hp'.symm.trans hp) ▸ hlink

/-- Where a read is parked, the stage that writes is there. -/
theorem Linked.writer_of_parked (h : L.Linked main job task?) (hi : i < L.count)
    (hp : job.pipes[L.base + i]? = some p) (hparked : p.parked ≠ []) :
    ∃ t, task? (L.first + i) = some t := by
  have hlink := h.link hi hp
  have hwriter := hlink.writeClosed.symm.trans (hlink.single.sound.parked hparked).2.2
  rw [Bool.not_eq_false'] at hwriter
  obtain ⟨t, ht, -⟩ := (Option.any_eq_true _ _).mp hwriter
  exact ⟨t, ht⟩

/-- Where a write is blocked, somebody reads. -/
theorem Linked.reader_of_blocked (h : L.Linked main job task?) (hi : i < L.count)
    (hp : job.pipes[L.base + i]? = some p) (hblocked : p.blocked ≠ []) :
    ∃ state, L.reader? main task? i = some state := by
  have hlink := h.link hi hp
  have hreader := hlink.readClosed.symm.trans (hlink.single.sound.blocked hblocked).2.1
  exact Option.isSome_iff_exists.mp (by simpa using hreader)

variable (hwaits : ∀ i < L.count, ∀ t, task? (L.first + i) = some t → L.Waits job i)

include hwaits

/-- Where every stage waits on a pipe no stage is parked on a read: the stage before it would be, and so
on up to the first one, which reads nothing. -/
theorem Linked.nobody_parked (h : L.Linked main job task?) (hi : i < L.count)
    (hp : job.pipes[L.base + i]? = some p) : p.parked = [] := by
  -- from the first stage on, to the right
  induction i using Nat.strong_induction_on generalizing p with
  | _ i ih =>
    by_contra hparked
    obtain ⟨t, ht⟩ := h.writer_of_parked hi hp hparked
    rcases hwaits i hi t ht with ⟨before, q, rfl, hq, hreads⟩ | ⟨q, hq, hblocked⟩
    · exact hreads (ih before (Nat.lt_succ_self before) (by omega) hq)
    · obtain rfl : q = p := Option.some.inj (hq.symm.trans hp)
      exact hparked ((h.link hi hp).single.sound.not_parked hblocked)

/-- Where moreover nobody waits to fill the last pipe, no stage is blocked: the stage after it would be,
and so on up to the last one. -/
theorem Linked.nobody_blocked (h : L.Linked main job task?)
    (hlast : ∀ p, job.pipes[L.base + (L.count - 1)]? = some p → p.blocked = []) (hi : i < L.count)
    (hp : job.pipes[L.base + i]? = some p) : p.blocked = [] := by
  -- from the last stage on, to the left
  obtain ⟨left, hleft⟩ : ∃ left, i + left + 1 = L.count := ⟨L.count - (i + 1), by omega⟩
  induction left generalizing i p with
  | zero => exact hlast p (by rw [← hp]; congr 2; omega)
  | succ left ih =>
    by_contra hblocked
    have hnext : i + 1 < L.count := by omega
    obtain ⟨state, hstate⟩ := h.reader_of_blocked hi hp hblocked
    rw [reader?_before hnext] at hstate
    obtain ⟨t, ht, -⟩ := Option.bind_eq_some_iff.mp hstate
    rcases hwaits _ hnext t ht with ⟨before, q, hbefore, hq, hreads⟩ | ⟨q, hq, hblocked'⟩
    · obtain rfl := Nat.succ.inj hbefore
      exact hreads (h.nobody_parked hwaits hi hq)
    · exact hblocked' (ih hnext hq (by omega))

/-- **Nobody waits for ever.** A line whose stages all wait on a pipe has none, if nobody waits to fill
the last pipe. -/
theorem Linked.stalled (h : L.Linked main job task?)
    (hlast : ∀ p, job.pipes[L.base + (L.count - 1)]? = some p → p.blocked = []) :
    ∀ i < L.count, task? (L.first + i) = none := by
  intro i hi
  refine Option.eq_none_iff_forall_ne_some.mpr fun t ht => ?_
  rcases hwaits i hi t ht with ⟨before, q, rfl, hq, hreads⟩ | ⟨q, hq, hblocked⟩
  · exact hreads (h.nobody_parked hwaits (by omega) hq)
  · exact hblocked (h.nobody_blocked hwaits hlast hi hq)

/-- Where moreover the main future waits unless it has left, it has left. -/
theorem Linked.over (h : L.Linked main job task?) (hcount : 0 < L.count)
    (hmain : main ≠ none → ∃ p, job.pipes[L.base + (L.count - 1)]? = some p ∧ p.parked ≠ []) :
    main = none ∧ ∀ i < L.count, task? (L.first + i) = none := by
  have hlast : L.count - 1 + 1 = L.count := by omega
  have hover : ∀ i < L.count, task? (L.first + i) = none := by
    refine h.stalled hwaits fun p hp => ?_
    by_contra hblocked
    obtain ⟨state, hstate⟩ := h.reader_of_blocked (by omega) hp hblocked
    rw [reader?_last hlast] at hstate
    obtain ⟨q, hq, hparked⟩ := hmain (by simp [hstate])
    obtain rfl : q = p := Option.some.inj (hq.symm.trans hp)
    exact hparked ((h.link (by omega) hp).single.sound.not_parked hblocked)
  refine ⟨by_contra fun hstays => ?_, hover⟩
  obtain ⟨p, hp, hparked⟩ := hmain hstays
  obtain ⟨t, ht⟩ := h.writer_of_parked (by omega) hp hparked
  exact absurd (ht.symm.trans (hover _ (by omega))) (by simp)

end Stalled

/-- A stage that is not ready, and uses no timers, is parked on the pipe that it reads, or blocked on its
own. -/
theorem waits_of_asleep (hwired : Wired L none job task? []) (hi : i < L.count)
    (ht : task? (L.first + i) = some t) (htimers : t.station.timers = [])
    (hasleep : L.first + i ∉ job.ready) : L.Waits job i := by
  have hfit := hwired.fit i hi t ht
  rcases hwired.awake i hi t ht with hnone | hready | hnew | hawaits
  · exact absurd hnone (by simp)
  · exact absurd hready hasleep
  · exact absurd hnew List.not_mem_nil
  unfold Job.Awaits at hawaits
  split at hawaits
  · obtain ⟨j, p, ticket, hj, hp, -, hparked⟩ := hawaits
    obtain ⟨before, rfl, rfl⟩ := hfit.input j hj
    exact .inl ⟨before, p, rfl, hp, List.ne_nil_of_mem hparked⟩
  · obtain ⟨j, p, hj, hp, hblocked⟩ := hawaits
    obtain rfl := hfit.output j hj
    exact .inr ⟨p, hp, List.ne_nil_of_mem hblocked⟩
  · have hheld := hawaits.1
    rw [htimers] at hheld
    exact absurd hheld List.not_mem_nil
  · exact hawaits.elim

end Span

end Pipework
