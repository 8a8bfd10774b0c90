import Pipework.Proofs.Job.Signals
import Pipework.Proofs.Pipe.Channel

/-!
# What flows through a pipeline

A `Plan` is a pipeline in which copies of one item flow: the first stage makes them for ever, any
other passes them on, and one stage, the *cutter*, ends by itself when it has passed on as many as
are its goal. Since all items are alike it is enough to count. `Tally` tells how far a stage has
come, and `Flows` that the books balance: what a stage has sent is what its pipe holds and what the
next stage has taken.

* `Plan.Goes` — a stage gets from one item to the next in a number of steps of its own;
* `Flows.attempt` — one action keeps the books and takes a step, or has to wait, or it is a write
  that nobody will read, which fails;
* `Flows.run` — so does a poll, in a number of steps that is known beforehand;
* `Flows.release` — a stage that is over leaves its books as they are.

Nobody sends more than the capacities behind it can hold (`Plan.most`), so the steps that are left
are bounded (`Plan.weight`), although the first stage would never come to an end.
-/

namespace Pipework

/-- The state of the reader of a station, if it has one. -/
def Station.reader? (st : Station) : Option ReadState := st.input.map fun _ => st.reading

theorem Station.reader?_eq {st : Station} {j : Nat} (hinput : st.input = some j) :
    st.reader? = some st.reading := by
  rw [reader?, hinput, Option.map_some]

/-- What a job has come to report: these signals, and no error. -/
structure Job.Tells (job job' : Job) (signals : List (String × String)) : Prop where
  signals : job'.signals = job.signals ++ signals
  errors : job'.errors = job.errors

namespace Job.Tells

variable {job job' job'' : Job} {signals signals' : List (String × String)}

theorem of_eq (hsignals : job'.signals = job.signals) (herrors : job'.errors = job.errors) :
    Tells job job' [] := ⟨hsignals.trans (List.append_nil _).symm, herrors⟩

theorem refl : Tells job job [] := .of_eq rfl rfl

theorem trans (h : Tells job job' signals) (h' : Tells job' job'' signals') :
    Tells job job'' (signals ++ signals') :=
  ⟨by rw [h'.signals, h.signals, List.append_assoc], h'.errors.trans h.errors⟩

/-- A pipe tells its signals. -/
theorem store (i : Nat) (p : Pipe Value) (events : List Pipe.Event) :
    Tells job (job.store i p events) (Pipe.signals events) where
  signals := signals_react events _
  errors := by
    obtain ⟨_, _, _, _, _, h⟩ :=
      react_eq events ({ job with pipes := job.pipes.setIfInBounds i p } : Job)
    rw [Job.store, h]

theorem change (i : Nat) {f : Pipe Value → Pipe Value × List Pipe.Event}
    (hf : ∀ p, Pipe.signals (f p).2 = []) : Tells job (job.change i f) [] := by
  cases hp : job.pipes[i]? with
  | none => simpa [Job.change, hp] using Tells.refl
  | some p =>
    rw [Job.change_eq hp, ← hf p]
    exact store i _ _

theorem query {β : Type} (i : Nat) (absent : β) {f : Pipe Value → β × Pipe Value × List Pipe.Event}
    (hf : ∀ p, Pipe.signals (f p).2.2 = []) : Tells job (job.query i absent f).2 [] := by
  cases hp : job.pipes[i]? with
  | none => simpa [Job.query, hp] using Tells.refl
  | some p =>
    rw [Job.query_eq hp, ← hf p]
    exact store i _ _

theorem closeRead (i : Nat) : Tells job (job.closeRead i).2 [] := query i false Pipe.signals_closeRead

theorem closeWrite (i : Nat) : Tells job (job.closeWrite i).2 [] := query i false Pipe.signals_closeWrite

theorem foldl {β : Type*} {f : Job → β → Job} (hf : ∀ job b, Tells job (f job b) []) (bs : List β)
    (job : Job) : Tells job (bs.foldl f job) [] := by
  induction bs generalizing job with
  | nil => exact .refl
  | cons b bs ih => exact (hf job b).trans (ih (f job b))

theorem cancelTimer (id : Nat) : Tells job (job.cancelTimer id).2 [] := by
  obtain ⟨-, h⟩ | ⟨entry, level, subsystem, message, -, h⟩ := cancelTimer_cases id job
  · rw [h]
    exact .refl
  · rw [h]
    obtain ⟨_, _, hdrop⟩ := dropTimer_eq id (job.log level subsystem message)
    have hdropped : Tells job ((job.log level subsystem message).dropTimer id) [] := by
      rw [hdrop]
      exact .of_eq rfl rfl
    dsimp only
    split
    · exact hdropped.trans (closeWrite _)
    · exact hdropped

/-- A teardown tells nothing. -/
theorem teardown : Tells job job.teardown [] := by
  have hlogged : ∀ message, Tells job (job.log .debug "exec" message) [] := fun _ => .of_eq rfl rfl
  exact ((hlogged _).trans (foldl (fun _ id => cancelTimer id) _ _)).trans
    (foldl (fun _ i => change i Pipe.signals_forceClose) _ _)

end Job.Tells

/-- Whoever has been woken, or is parked on a pipe, is not forgotten by a task that serves the pipe and
does not read it under a ticket of its own. -/
theorem Job.Serves.heeds {own : Nat → Option Nat} {mine : Nat → Prop} {job job' : Job}
    (h : Job.Serves own mine job job') {i ticket : Nat} {w : Waker} (hown : own i = none)
    (hheeds : job.Woken w ∨ ∃ p, job.pipes[i]? = some p ∧ (ticket, w) ∈ p.parked) :
    job'.Woken w ∨ ∃ p, job'.pipes[i]? = some p ∧ (ticket, w) ∈ p.parked := by
  rcases hheeds with hwoken | ⟨p, hp, hparked⟩
  · exact .inl (h.woken w hwoken)
  · obtain ⟨p', events, hp', -, hpipe, hwake, -⟩ := h.pipes i p hp
    rcases hpipe.parked _ hparked (by simp [hown]) with hstays | ⟨-, hcalled⟩
    · exact .inr ⟨p', hp', hstays⟩
    · exact .inl (hwake w hcalled)

/-! ## Plans -/

/-- What a stage holds of the items that it takes. -/
inductive Hand where
  /-- Nothing. -/
  | empty
  /-- An item to pass on. -/
  | full
  /-- Nothing, and it has seen the end of data. -/
  | done

/-- The number of items in a hand. -/
def Hand.items : Hand → Nat
  | .full => 1
  | .empty | .done => 0

/-- How far a stage has come. -/
structure Tally where
  /-- The number of items that its pipe has accepted. -/
  sent : Nat
  /-- What it holds. -/
  hand : Hand
  /-- In so many steps it has sent another item, or it is over, unless it has to wait. -/
  steps : Nat

/-- The number of items that a stage has taken. -/
def Tally.taken (n : Tally) : Nat := n.sent + n.hand.items

/-- What stage `i` holds when it has sent an item; the first stage can always make another. -/
def Hand.idle (i : Nat) : Hand := if i = 0 then .full else .empty

/-- The answer to an action of stage `i` that touches no pipe, with its arguments after it. Only the
first stage asks whether it is still read, and only while it is; any other has an open reader. -/
def Action.quiet? {β : Type} (i : Nat) (arguments : Arguments) : Action β → Option (β × Arguments)
  | .level => some (0, arguments)
  | .inputClosed => if i = 0 then none else some (false, arguments)
  | .outputClosed => if i = 0 then some (false, arguments) else none
  | .closeInput => if i = 0 then some ((), arguments) else none
  | .log .. => some ((), arguments)
  | .arguments => some (arguments, arguments)
  | .setArguments a => some ((), a)
  | _ => none

/-- A pipeline in which copies of one item flow. -/
structure Plan extends Span where
  /-- The item. -/
  item : Value
  /-- The capacity of the pipes. -/
  room : Nat
  /-- The names of the pipes. -/
  name : Nat → String
  /-- The stage that ends by itself. -/
  cutter : Nat
  /-- After how many items it does. -/
  goal : Nat
  /-- The places in which a stage may be when it has sent so many items. -/
  Rests : Nat → Nat → Arguments → Behavior Unit → Prop
  /-- The steps that it takes at most from there to the next item. -/
  pace : Nat

namespace Plan

variable (P : Plan)

/-- After how many items a stage ends by itself, if it does. -/
def limit (i : Nat) : Option Nat := if i = P.cutter then some P.goal else none

/-- Stage `i` goes on as planned: it takes an item, unless it makes its own, sends it in at most so
many steps, and is at rest then. It is over when it has seen the end of data or reached its limit,
and when it finds its pipe broken. -/
def Goes (i sent : Nat) : Nat → Hand → Arguments → Behavior Unit → Prop
  | 0, _, _, _ => False
  | n + 1, hand, arguments, b => match b with
    | .result _ => 0 < i ∧ (hand = .done ∨ hand = .empty ∧ P.limit i = some sent)
    | .fail _ | .crash => False
    | .loop s body next => Goes i sent n hand arguments (.unfold s body next)
    | .act .read next => 0 < i ∧ hand = .empty ∧
        Goes i sent n .full arguments (next (some P.item)) ∧ Goes i sent n .done arguments (next none)
    | .act (.write v) next => hand = .full ∧ v = P.item ∧
        (∀ limit, P.limit i = some limit → sent < limit) ∧ (∀ e, next (.error e) = .fail e) ∧ P.Rests i (sent + 1) arguments (next (.ok ()))
    | .act action next => ∃ answer arguments', action.quiet? i arguments = some (answer, arguments') ∧
        Goes i sent n hand arguments' (next answer)

/-- Stages that are at rest go on as planned, and the cutter is one of those that take their items
from another. -/
structure Proper : Prop where
  goes : ∀ i < P.count, ∀ sent arguments b, P.Rests i sent arguments b →
    P.Goes i sent P.pace (.idle i) arguments b
  goal_pos : 0 < P.goal
  cutter_pos : 0 < P.cutter
  cutter_lt : P.cutter < P.count

/-- How many items a stage can send: from the cutter on the goal, and before it as many more as fit
into the pipes and hands in between. -/
def most (i : Nat) : Nat := P.goal + (P.cutter - i) * (P.room + 2)

/-- A bound for the steps that a stage may still take. -/
def weight (i : Nat) (n : Tally) : Nat := (P.most i - n.sent) * (P.pace + 1) + n.steps

/-- The state of the reader of pipe `i`: of the next stage, and of the main future on the last
pipe. -/
def reader? (main : Option ReadState) (task? : Nat → Option Task) (i : Nat) : Option ReadState :=
  if i + 1 = P.count then main else (task? (P.first + (i + 1))).bind (·.station.reader?)

/-- How many items stage `i` has taken, where the main future, which comes after the last stage, has
taken `got`. -/
def taken (got : Nat) (tally : Nat → Tally) (i : Nat) : Nat :=
  if i = P.count then got else (tally i).taken

/-- Pipe `i` holds what has been sent and not taken, while it has a reader. -/
structure Carries (i : Nat) (reader : Option ReadState) (writer : Bool) (taken sent : Nat)
    (p : Pipe Value) : Prop where
  channel : p.Channel (P.name i) P.room reader writer
  stock : reader ≠ none → p.stock.length + taken = sent
  items : reader ≠ none → ∀ v ∈ p.stock, v = P.item

/-- Stage `i` has come as far as its tally tells. -/
structure Course (i : Nat) (t : Task) (n : Tally) : Prop where
  input : t.station.input = Pipeline.feed none P.base i
  output : t.station.output = some (P.base + i)
  timers : t.station.timers = []
  /-- While it holds a ticket it waits for the answer. -/
  reading : t.station.reading = .fresh ∨ t.behavior.Reads
  goes : P.Goes i n.sent n.steps n.hand t.station.arguments t.behavior

end Plan

/-- A pipeline that nobody interrupts. The main future reads its last pipe in the state `main`, if it
has not left, and has taken `got` items. -/
structure Flows (P : Plan) (main : Option ReadState) (got : Nat) (job : Job)
    (task? : Nat → Option Task) (tally : Nat → Tally) : Prop where
  level : job.level = 0
  /-- Each pipe links a stage to the next one. -/
  pipes : ∀ i < P.count, ∃ p, job.pipes[P.base + i]? = some p ∧
    P.Carries i (P.reader? main task? i) (task? (P.first + i)).isSome (P.taken got tally (i + 1))
      (tally i).sent p
  stages : ∀ i < P.count, ∀ t, task? (P.first + i) = some t → P.Course i t (tally i)
  bounded : ∀ i < P.count, (tally i).sent ≤ P.most i
  /-- A stage sees the end of data when the stage before it is over, and all has been taken. -/
  drained : ∀ i, i + 1 < P.count → (tally (i + 1)).hand = .done →
    task? (P.first + i) = none ∧ (tally i).sent = (tally (i + 1)).sent
  /-- While its read is parked the main future has been woken, or somebody will wake it. -/
  heeds : ∀ ticket, main = some (.parked ticket) → job.mainWoken = true ∨
    ∃ p, job.pipes[P.base + (P.count - 1)]? = some p ∧ (ticket, .main) ∈ p.parked

variable {P : Plan} {main : Option ReadState} {got : Nat} {job job' : Job}
  {task? : Nat → Option Task} {tally : Nat → Tally} {i : Nat} {t : Task}

/-! ## A stage in a new place -/

namespace Plan

theorem reader?_put {k : Nat} (hk : k + 1 ≠ i) (t : Option Task) :
    P.reader? main (P.put i t task?) k = P.reader? main task? k := by
  unfold reader?
  rw [Span.put_other (by omega)]

/-- The reader of the pipe before a stage is that of the stage. -/
theorem reader?_before {before : Nat} (hi : before + 1 < P.count) :
    P.reader? main task? before = (task? (P.first + (before + 1))).bind (·.station.reader?) :=
  if_neg hi.ne

theorem taken_put {k : Nat} (hk : k ≠ i) (n : Tally) :
    P.taken got (Function.update tally i n) k = P.taken got tally k := by
  unfold taken
  rw [Function.update_of_ne hk]

theorem taken_before {k : Nat} (hk : k < P.count) : P.taken got tally k = (tally k).taken :=
  if_neg hk.ne

theorem Course.input_succ {before : Nat} {n : Tally} (h : P.Course (before + 1) t n) :
    t.station.input = some (P.base + before) := h.input

theorem Course.reader? {before : Nat} {n : Tally} (h : P.Course (before + 1) t n) :
    t.station.reader? = some t.station.reading := Station.reader?_eq h.input_succ

theorem Course.own_last {n : Tally} (h : P.Course i t n) (hi : i < P.count) :
    t.station.own (P.base + (P.count - 1)) = none := by
  refine if_neg fun hinput => ?_
  rw [h.input] at hinput
  obtain ⟨before, hbefore, hlast⟩ := Pipeline.feed_none hinput
  omega

theorem Goes.steps_pos {sent n : Nat} {hand : Hand} {arguments : Arguments} {b : Behavior Unit}
    (h : P.Goes i sent n hand arguments b) : 0 < n := by
  refine Nat.pos_of_ne_zero fun hzero => ?_
  rw [hzero] at h
  exact h

end Plan

/-- A stage comes to a new place, and changes nothing but its own two pipes. -/
theorem Flows.replace (h : Flows P main got job task? tally) (hi : i < P.count)
    (ht : task? (P.first + i) = some t) {own : Nat → Option Nat} {mine : Nat → Prop}
    (hserves : Job.Serves own mine job job') (hown : own (P.base + (P.count - 1)) = none)
    (hlevel : job'.level = 0) {t' : Option Task} {n : Tally}
    (hothers : ∀ k, k ≠ i → k + 1 ≠ i → job'.pipes[P.base + k]? = job.pipes[P.base + k]?)
    (hbefore : ∀ k, k + 1 = i → ∃ p, job'.pipes[P.base + k]? = some p ∧
      P.Carries k (t'.bind (·.station.reader?)) (task? (P.first + k)).isSome n.taken (tally k).sent p)
    (hafter : ∃ p, job'.pipes[P.base + i]? = some p ∧ P.Carries i (P.reader? main task? i) t'.isSome
      (P.taken got tally (i + 1)) n.sent p)
    (hstage : ∀ u, t' = some u → P.Course i u n) (hbounded : n.sent ≤ P.most i)
    (hdrained : ∀ k, k + 1 = i → n.hand = .done →
      task? (P.first + k) = none ∧ (tally k).sent = n.sent) :
    Flows P main got job' (P.put i t' task?) (Function.update tally i n) := by
  have hput : ∀ k, k ≠ i → P.put i t' task? (P.first + k) = task? (P.first + k) :=
    fun k hk => Span.put_other (by omega) t'
  -- only the pipe before the stage and its own pipe can tell that it is in a new place
  refine ⟨hlevel, fun k hk => ?_, fun k hk u hu => ?_, fun k hk => ?_, fun k hk hover => ?_, ?_⟩
  · by_cases hki : k = i
    · subst hki
      rw [P.reader?_put (Nat.succ_ne_self k), P.taken_put (Nat.succ_ne_self k), Span.put_self,
        Function.update_self]
      exact hafter
    rw [hput k hki, Function.update_of_ne hki]
    by_cases hki' : k + 1 = i
    · obtain ⟨p, hp, hcarries⟩ := hbefore k hki'
      subst hki'
      refine ⟨p, hp, ?_⟩
      rwa [P.reader?_before hi, Span.put_self, P.taken_before hi, Function.update_self]
    · rw [hothers k hki hki', P.reader?_put hki', P.taken_put hki']
      exact h.pipes k hk
  · by_cases hki : k = i
    · subst hki
      rw [Span.put_self] at hu
      rw [Function.update_self]
      exact hstage u hu
    · rw [hput k hki] at hu
      rw [Function.update_of_ne hki]
      exact h.stages k hk u hu
  · by_cases hki : k = i
    · subst hki
      rwa [Function.update_self]
    · rw [Function.update_of_ne hki]
      exact h.bounded k hk
  · by_cases hki : k + 1 = i
    · subst hki
      rw [hput k (Nat.succ_ne_self k).symm, Function.update_of_ne (Nat.succ_ne_self k).symm,
        Function.update_self]
      rw [Function.update_self] at hover
      exact hdrained k rfl hover
    · rw [Function.update_of_ne hki] at hover ⊢
      obtain ⟨hgone, hsent⟩ := h.drained k hk hover
      have hki' : k ≠ i := by
        rintro rfl
        rw [ht] at hgone
        simp at hgone
      rw [hput k hki', Function.update_of_ne hki']
      exact ⟨hgone, hsent⟩
  · intro ticket hticket
    exact hserves.heeds (w := .main) hown (h.heeds ticket hticket)

/-- A stage leaves all pipes alone. -/
theorem Flows.stays (h : Flows P main got job task? tally) (hi : i < P.count)
    (ht : task? (P.first + i) = some t) {own : Nat → Option Nat} {mine : Nat → Prop}
    (hserves : Job.Serves own mine job job') (hown : own (P.base + (P.count - 1)) = none)
    (hlevel : job'.level = 0) (hpipes : job'.pipes = job.pipes) {u : Task} {n : Nat}
    (hreader : u.station.reader? = t.station.reader?)
    (hstage : P.Course i u { tally i with steps := n }) :
    Flows P main got job' (P.put i (some u) task?)
      (Function.update tally i { tally i with steps := n }) := by
  refine h.replace hi ht hserves hown hlevel (fun k _ _ => by rw [hpipes]) (fun k hk => ?_) ?_
    (fun v hv => Option.some.inj hv ▸ hstage) (h.bounded i hi) (fun k hk hover => ?_)
  · subst hk
    have hpipe := h.pipes k (by omega)
    rw [P.reader?_before hi, ht, P.taken_before hi] at hpipe
    rw [hpipes, Option.bind_some, hreader]
    exact hpipe
  · have hpipe := h.pipes i hi
    rw [ht] at hpipe
    rwa [hpipes]
  · subst hk
    exact h.drained k hi hover

/-- A stage changes the pipe that it reads. -/
theorem Flows.receives {before : Nat} (h : Flows P main got job task? tally)
    (hi : before + 1 < P.count) (ht : task? (P.first + (before + 1)) = some t)
    {p p' : Pipe Value} {events : List Pipe.Event} (hp : job.pipes[P.base + before]? = some p)
    {own : Nat → Option Nat} {mine : Nat → Prop}
    (hserves : Job.Serves own mine job (job.store (P.base + before) p' events))
    (hown : own (P.base + (P.count - 1)) = none) {u : Task} {n : Tally}
    (hcarries : P.Carries before u.station.reader? (task? (P.first + before)).isSome n.taken
      (tally before).sent p')
    (hsent : n.sent = (tally (before + 1)).sent) (hstage : P.Course (before + 1) u n)
    (hdrained : n.hand = .done → task? (P.first + before) = none ∧ (tally before).sent = n.sent) :
    Flows P main got (job.store (P.base + before) p' events) (P.put (before + 1) (some u) task?)
      (Function.update tally (before + 1) n) := by
  have hother : ∀ k, k ≠ before →
      (job.store (P.base + before) p' events).pipes[P.base + k]? = job.pipes[P.base + k]? :=
    fun k hk => Job.store_other (by omega) p' events job
  have hafter := h.pipes (before + 1) hi
  rw [ht, ← hsent] at hafter
  refine h.replace hi ht hserves hown ((Job.level_react _ _).trans h.level)
    (fun k _ hk => hother k (by omega)) (fun k hk => ?_)
    (by rw [hother _ (Nat.succ_ne_self before)]; exact hafter)
    (fun v hv => Option.some.inj hv ▸ hstage) (hsent ▸ h.bounded _ hi) (fun k hk hover => ?_)
  · obtain rfl := Nat.succ.inj hk
    exact ⟨p', Job.store_self hp p' events, hcarries⟩
  · obtain rfl := Nat.succ.inj hk
    exact hdrained hover

/-- A stage changes the pipe that it writes to. -/
theorem Flows.sends (h : Flows P main got job task? tally) (hi : i < P.count)
    (ht : task? (P.first + i) = some t) {p p' : Pipe Value} {events : List Pipe.Event}
    (hp : job.pipes[P.base + i]? = some p) {own : Nat → Option Nat} {mine : Nat → Prop}
    (hserves : Job.Serves own mine job (job.store (P.base + i) p' events))
    (hown : own (P.base + (P.count - 1)) = none) (t' : Option Task) {n : Tally}
    (hreader : t'.bind (·.station.reader?) = t.station.reader?)
    (hcarries : P.Carries i (P.reader? main task? i) t'.isSome (P.taken got tally (i + 1)) n.sent p')
    (htaken : 0 < i → n.taken = (tally i).taken) (hstage : ∀ u, t' = some u → P.Course i u n)
    (hbounded : n.sent ≤ P.most i)
    (hdrained : 0 < i → n.hand = .done → (tally i).hand = .done ∧ n.sent = (tally i).sent) :
    Flows P main got (job.store (P.base + i) p' events) (P.put i t' task?)
      (Function.update tally i n) := by
  have hother : ∀ k, k ≠ i →
      (job.store (P.base + i) p' events).pipes[P.base + k]? = job.pipes[P.base + k]? :=
    fun k hk => Job.store_other (by omega) p' events job
  refine h.replace hi ht hserves hown ((Job.level_react _ _).trans h.level)
    (fun k hk _ => hother k hk) (fun k hk => ?_) ⟨p', Job.store_self hp p' events, hcarries⟩ hstage
    hbounded (fun k hk hover => ?_)
  · have hbefore := h.pipes k (by omega)
    subst hk
    rw [P.reader?_before hi, ht, P.taken_before hi] at hbefore
    rw [hother k (by omega), hreader, htaken (Nat.succ_pos k)]
    exact hbefore
  · subst hk
    obtain ⟨hhand, hsent⟩ := hdrained (Nat.succ_pos k) hover
    rw [hsent]
    exact h.drained k hi hhand

/-! ## One action -/

section Actions

variable {β : Type} {action : Action β} {next : β → Behavior Unit} {answer : β} {st' : Station}

/-- The behavior is about to write. -/
def Behavior.Offers : Behavior Unit → Prop
  | .act (.write _) _ => True
  | _ => False

/-- Stage `i` has attempted an action: it is a step further; or it has to wait, and nobody has been
woken; or it has found its pipe broken. -/
def Plan.Advances (P : Plan) (main : Option ReadState) (got : Nat) (job : Job)
    (task? : Nat → Option Task) (tally : Nat → Tally) (i : Nat) (t : Task)
    (next : β → Behavior Unit) : Poll β × Station × Job → Prop
  | (.pending, st', job') => job'.ready = job.ready ∧ job.Tells job' [] ∧ (i = 0 → t.behavior.Offers) ∧
      Flows P main got job' (P.put i (some { t with station := st' }) task?) tally
  | (.ready answer, st', job') =>
    (∃ n, P.weight i n < P.weight i (tally i) ∧ job.Tells job' [] ∧
      (t.behavior.Offers → P.reader? main task? i ≠ none) ∧
      Flows P main got job' (P.put i (some { t with station := st', behavior := next answer }) task?)
        (Function.update tally i n)) ∨
    P.reader? main task? i = none ∧ next answer = .fail (.brokenPipe (P.name i)) ∧
      t.behavior.Offers ∧ job.Tells job' [Pipe.brokenSignal (P.name i)] ∧
      Flows P main got job' (P.put i (some { t with station := st' }) task?) tally

theorem Plan.weight_steps {n : Tally} {steps : Nat} (hsteps : n.steps = steps + 1) (hand : Hand) :
    P.weight i { n with hand := hand, steps := steps } < P.weight i n := by
  unfold Plan.weight
  dsimp only
  omega

/-- A stage performs an action that touches no pipe. -/
theorem Flows.answers (h : Flows P main got job task? tally) (hi : i < P.count)
    (ht : task? (P.first + i) = some t) (hopen : i = 0 → P.reader? main task? 0 ≠ none)
    {arguments : Arguments} (hq : action.quiet? i t.station.arguments = some (answer, arguments)) :
    ∃ job', t.station.attempt (.task (P.first + i)) action job =
        (.ready answer, { t.station with arguments := arguments }, job') ∧
      job'.pipes = job.pipes ∧ job'.level = 0 ∧ job.Tells job' [] ∧
      Job.Serves (fun _ => none) (fun _ => False) job job' := by
  have hcourse := h.stages i hi t ht
  cases action with
  | level =>
    obtain ⟨rfl, rfl⟩ : 0 = answer ∧ _ = arguments := by simpa [Action.quiet?] using hq
    exact ⟨job, by rw [Station.attempt, h.level], rfl, h.level, .refl, .refl⟩
  | inputClosed =>
    cases i with
    | zero => simp [Action.quiet?] at hq
    | succ before =>
      obtain ⟨rfl, rfl⟩ : false = answer ∧ _ = arguments := by simpa [Action.quiet?] using hq
      obtain ⟨p, hp, hcarries⟩ := h.pipes before (by omega)
      rw [P.reader?_before hi, ht, Option.bind_some, hcourse.reader?] at hcarries
      refine ⟨job, ?_, rfl, h.level, .refl, .refl⟩
      rw [Station.attempt, Station.orAbsent, hcourse.input_succ, Option.bind_some, hp]
      simp [hcarries.channel.link.readClosed]
  | outputClosed =>
    by_cases hzero : i = 0
    · subst hzero
      obtain ⟨rfl, rfl⟩ : false = answer ∧ _ = arguments := by simpa [Action.quiet?] using hq
      obtain ⟨p, hp, hcarries⟩ := h.pipes 0 hi
      rw [ht] at hcarries
      refine ⟨job, ?_, rfl, h.level, .refl, .refl⟩
      rw [Station.attempt, Station.orAbsent, hcourse.output, Option.bind_some, hp]
      simpa [hcarries.channel.link.readClosed, hcarries.channel.link.writeClosed] using
        Option.isSome_iff_ne_none.mpr (hopen rfl)
    · simp [Action.quiet?, hzero] at hq
  | closeInput =>
    by_cases hzero : i = 0
    · subst hzero
      obtain ⟨rfl, rfl⟩ : () = answer ∧ _ = arguments := by simpa [Action.quiet?] using hq
      have hinput : t.station.input = none := hcourse.input
      have hclose : t.station.closeInput job = (t.station, job) := by rw [Station.closeInput, hinput]
      exact ⟨job, by rw [Station.attempt, hclose], rfl, h.level, .refl, .refl⟩
    · simp [Action.quiet?, hzero] at hq
  | log level subsystem message =>
    obtain ⟨rfl, rfl⟩ : () = answer ∧ _ = arguments := by simpa [Action.quiet?] using hq
    exact ⟨_, rfl, rfl, h.level, .of_eq rfl rfl, Job.serves_log level subsystem message⟩
  | arguments =>
    obtain ⟨rfl, rfl⟩ : t.station.arguments = answer ∧ _ = arguments := by
      simpa [Action.quiet?] using hq
    exact ⟨job, rfl, rfl, h.level, .refl, .refl⟩
  | setArguments a =>
    obtain ⟨rfl, rfl⟩ : () = answer ∧ a = arguments := by simpa [Action.quiet?] using hq
    exact ⟨job, rfl, rfl, h.level, .refl, .refl⟩
  | _ => simp [Action.quiet?] at hq

/-- A stage takes an item, or waits for one, or meets the end of data. -/
theorem Flows.read {next : Option Value → Behavior Unit} {n : Nat} (h : Flows P main got job task? tally)
    (hi : i < P.count) (ht : task? (P.first + i) = some t) (hb : t.behavior = .act .read next)
    (hn : (tally i).steps = n + 1) :
    P.Advances main got job task? tally i t next (t.station.tryRead (.task (P.first + i)) job) := by
  have hcourse := h.stages i hi t ht
  have hgoes := hcourse.goes
  rw [hn, hb] at hgoes
  obtain ⟨hpos, hhand, hitem, hend⟩ := hgoes
  obtain ⟨before, rfl⟩ : ∃ before, i = before + 1 := ⟨i - 1, by omega⟩
  have htaken : (tally (before + 1)).taken = (tally (before + 1)).sent := by rw [Tally.taken, hhand]; rfl
  have hserves := t.station.tryRead_serves job (fun _ => False) (.task (P.first + (before + 1)))
  have hown := hcourse.own_last hi
  obtain ⟨p, hp, hcarries⟩ := h.pipes before (by omega)
  rw [P.reader?_before hi, ht, Option.bind_some, hcourse.reader?, P.taken_before hi, htaken] at hcarries
  have hstock := hcarries.stock (by simp)
  have hitems := hcarries.items (by simp)
  rw [Station.tryRead_eq hcourse.input_succ hp] at hserves ⊢
  -- after an answer the stage reads nothing
  have hafter : ∀ item hand, P.Goes (before + 1) (tally (before + 1)).sent n hand t.station.arguments
      (next item) → P.Course (before + 1)
        { t with station := { t.station with reading := .fresh }, behavior := next item }
        { tally (before + 1) with hand := hand, steps := n } := fun item hand hgoes =>
    ⟨hcourse.input, hcourse.output, hcourse.timers, .inl rfl, hgoes⟩
  have hreader : ∀ reading, ({ t.station with reading := reading } : Station).reader? = some reading :=
    fun _ => Station.reader?_eq hcourse.input_succ
  rcases hcarries.channel.pollRead (.task (P.first + (before + 1))) with
    ⟨ticket, p', hpoll, hchannel, -, hempty, hempty'⟩ | ⟨v, p', events, hpoll, hchannel, hhead, hquiet⟩ |
    ⟨p', events, hpoll, hchannel, hempty, hempty', hgone, hquiet⟩ <;> rw [hpoll] at hserves ⊢
  · refine ⟨rfl, Job.Tells.store _ _ _, by simp, ?_⟩
    have hmoved := h.receives hi ht hp hserves hown (n := tally (before + 1))
      (u := { t with station := { t.station with reading := .parked ticket } }) ?_ rfl
      ⟨hcourse.input, hcourse.output, hcourse.timers, .inr (hb ▸ trivial), hcourse.goes⟩
      (h.drained before hi)
    · rwa [Function.update_eq_self] at hmoved
    · refine ⟨by rw [hreader]; exact hchannel, fun _ => ?_, fun _ v hv => ?_⟩
      · rw [hempty', htaken, ← hstock, hempty]
      · rw [hempty'] at hv
        exact absurd hv List.not_mem_nil
  · obtain rfl : v = P.item := hitems v (by rw [hhead]; exact List.mem_cons_self)
    refine .inl ⟨{ tally (before + 1) with hand := .full, steps := n }, P.weight_steps hn _,
      hquiet ▸ Job.Tells.store _ _ _,
      fun hoffers => (hb ▸ hoffers : Behavior.Offers (.act .read next)).elim,
      h.receives hi ht hp hserves hown ?_ rfl (hafter _ _ hitem) (by simp)⟩
    refine ⟨by rw [hreader]; exact hchannel, fun _ => ?_, fun _ w hw => ?_⟩
    · rw [← hstock, hhead, List.length_cons]
      simp only [Tally.taken, Hand.items]
      omega
    · exact hitems w (by rw [hhead]; exact List.mem_cons_of_mem _ hw)
  · refine .inl ⟨{ tally (before + 1) with hand := .done, steps := n }, P.weight_steps hn _,
      hquiet ▸ Job.Tells.store _ _ _,
      fun hoffers => (hb ▸ hoffers : Behavior.Offers (.act .read next)).elim,
      h.receives hi ht hp hserves hown ?_ rfl (hafter _ _ hend)
      fun _ => ⟨by simpa using hgone, ?_⟩⟩
    · refine ⟨by rw [hreader]; exact hchannel, fun _ => ?_, fun _ w hw => ?_⟩
      · rw [hempty', ← hstock, hempty]
        rfl
      · rw [hempty'] at hw
        exact absurd hw List.not_mem_nil
    · rw [← hstock, hempty]
      exact Nat.zero_add _

/-- Before the cutter the pipe and the hand behind a stage leave room for the more. -/
theorem Plan.most_succ (hi : i < P.cutter) : P.most i = P.most (i + 1) + (P.room + 2) := by
  have hleft : P.cutter - i = P.cutter - (i + 1) + 1 := by omega
  rw [Plan.most, Plan.most, hleft, Nat.succ_mul, Nat.add_assoc]

theorem Plan.most_of_le (hi : P.cutter ≤ i) : P.most i = P.goal := by
  rw [Plan.most, Nat.sub_eq_zero_of_le hi, Nat.zero_mul, Nat.add_zero]

/-- A stage sends no more than its share. -/
theorem Flows.bounded_succ (h : Flows P main got job task? tally) (hP : P.Proper) (hi : i < P.count)
    (ht : task? (P.first + i) = some t) (hhand : (tally i).hand = .full)
    (hlimit : ∀ limit, P.limit i = some limit → (tally i).sent < limit) {p' : Pipe Value}
    (hroom : p'.stock.length ≤ P.room + 1)
    (hstock : p'.stock.length + P.taken got tally (i + 1) = (tally i).sent + 1) :
    (tally i).sent + 1 ≤ P.most i := by
  rcases Nat.lt_trichotomy i P.cutter with hbefore | rfl | hbehind
  · have hnext : i + 1 < P.count := Nat.lt_of_le_of_lt hbefore hP.cutter_lt
    have hbounded := h.bounded (i + 1) hnext
    have htaken : (tally (i + 1)).taken ≤ (tally (i + 1)).sent + 1 := by
      unfold Tally.taken
      cases (tally (i + 1)).hand <;> simp [Hand.items]
    rw [P.taken_before hnext] at hstock
    rw [P.most_succ hbefore]
    omega
  · rw [P.most_of_le (Nat.le_refl _)]
    exact hlimit P.goal (if_pos rfl)
  · -- it has taken the item from a stage that has sent no more than the goal
    obtain ⟨before, rfl⟩ : ∃ before, i = before + 1 := ⟨i - 1, by omega⟩
    have hcourse := h.stages _ hi t ht
    obtain ⟨p, -, hcarries⟩ := h.pipes before (by omega)
    rw [P.reader?_before hi, ht, Option.bind_some, hcourse.reader?, P.taken_before hi] at hcarries
    have hsent := hcarries.stock (by simp)
    have hbounded := h.bounded before (by omega)
    have htaken : (tally (before + 1)).taken = (tally (before + 1)).sent + 1 := by
      rw [Tally.taken, hhand]
      rfl
    rw [P.most_of_le (by omega)] at hbounded
    rw [P.most_of_le (by omega)]
    omega

/-- A stage sends an item, or waits until there is room for it, or finds its pipe broken. -/
theorem Flows.write {v : Value} {next : Except ShellError Unit → Behavior Unit} {n : Nat}
    (h : Flows P main got job task? tally) (hP : P.Proper) (hi : i < P.count)
    (ht : task? (P.first + i) = some t) (hb : t.behavior = .act (.write v) next)
    (hn : (tally i).steps = n + 1) :
    P.Advances main got job task? tally i t next
      (t.station.tryWrite (.task (P.first + i)) v job) := by
  have hcourse := h.stages i hi t ht
  have hgoes := hcourse.goes
  rw [hn, hb] at hgoes
  obtain ⟨hhand, rfl, hlimit, hstrict, hrests⟩ := hgoes
  have hfresh : t.station.reading = .fresh := hcourse.reading.resolve_right fun hreads => by
    rw [hb] at hreads
    exact hreads
  have hserves := t.station.tryWrite_serves job (fun _ => False) (.task (P.first + i)) P.item
  have hown := hcourse.own_last hi
  have hoffers : t.behavior.Offers := hb ▸ trivial
  obtain ⟨p, hp, hcarries⟩ := h.pipes i hi
  rw [ht, Option.isSome_some] at hcarries
  rw [Station.tryWrite_eq hcourse.output hp] at hserves ⊢
  -- a pipe that is left alone
  have hsame : ∀ p' events, Job.Serves t.station.own (fun _ => False) job
      (job.store (P.base + i) p' events) →
      P.Carries i (P.reader? main task? i) true (P.taken got tally (i + 1)) (tally i).sent p' →
      Flows P main got (job.store (P.base + i) p' events) (P.put i (some t) task?) tally := by
    intro p' events hserves hcarries'
    have hmoved := h.sends (n := tally i) hi ht hp hserves hown (some t) rfl hcarries'
      (fun _ => rfl) (fun u hu => Option.some.inj hu ▸ hcourse) (h.bounded i hi)
      fun _ hover => ⟨hover, rfl⟩
    rwa [Function.update_eq_self] at hmoved
  rcases hcarries.channel.pollWrite (.task (P.first + i)) P.item with
    ⟨p', hpoll, hchannel, hstock⟩ | ⟨p', events, hpoll, hchannel, hstock, hread, hquiet⟩ |
    ⟨events, hpoll, hgone, hsignals⟩ <;> rw [hpoll] at hserves ⊢
  · refine ⟨rfl, Job.Tells.store _ _ _, fun _ => hoffers, hsame p' [] hserves ⟨hchannel, ?_, ?_⟩⟩
    · rw [hstock]
      exact hcarries.stock
    · rw [hstock]
      exact hcarries.items
  · have hfilled : p'.stock.length + P.taken got tally (i + 1) = (tally i).sent + 1 := by
      have hbefore := hcarries.stock hread
      rw [hstock, List.length_append, List.length_singleton]
      omega
    have hbounded := h.bounded_succ hP hi ht hhand hlimit hchannel.length_stock hfilled
    refine .inl ⟨⟨(tally i).sent + 1, .idle i, P.pace⟩, ?_, hquiet ▸ Job.Tells.store _ _ _,
      fun _ => hread, h.sends hi ht hp hserves hown (some { t with behavior := next (.ok ()) }) rfl
        ⟨hchannel, fun _ => hfilled, fun _ w hw => ?_⟩ (fun hpos => ?_) (fun u hu => ?_) hbounded
        fun hpos hover => ?_⟩
    · have hless : P.most i - (tally i).sent = P.most i - ((tally i).sent + 1) + 1 := by omega
      unfold Plan.weight
      rw [hless, Nat.succ_mul]
      dsimp only
      omega
    · rw [hstock] at hw
      rcases List.mem_append.mp hw with hw | hw
      · exact hcarries.items hread w hw
      · exact List.mem_singleton.mp hw
    · rw [Tally.taken, Tally.taken, hhand, Hand.idle, if_neg hpos.ne']
      rfl
    · obtain rfl := Option.some.inj hu
      exact ⟨hcourse.input, hcourse.output, hcourse.timers, .inl hfresh, hP.goes i hi _ _ _ hrests⟩
    · rw [Hand.idle, if_neg hpos.ne'] at hover
      simp at hover
  · refine .inr ⟨hgone, hstrict _, hoffers, hsignals ▸ Job.Tells.store _ _ _, ?_⟩
    exact hsame p events hserves hcarries

/-- An action of a stage is answered as planned, or it has to wait. -/
theorem Flows.attempt (h : Flows P main got job task? tally) (hP : P.Proper) (hi : i < P.count)
    (ht : task? (P.first + i) = some t)
    (hopen : i = 0 → P.reader? main task? 0 ≠ none ∨ t.behavior.Offers)
    (hb : t.behavior = .act action next) :
    P.Advances main got job task? tally i t next
      (t.station.attempt (.task (P.first + i)) action job) := by
  have hcourse := h.stages i hi t ht
  have hgoes := hcourse.goes
  obtain ⟨n, hn⟩ : ∃ n, (tally i).steps = n + 1 := Nat.exists_eq_succ_of_ne_zero hgoes.steps_pos.ne'
  rw [hn, hb] at hgoes
  have hquiet : ¬ (Behavior.act action next).Reads → ¬ (Behavior.act action next).Offers →
      (∃ answer arguments,
      action.quiet? i t.station.arguments = some (answer, arguments) ∧
        P.Goes i (tally i).sent n (tally i).hand arguments (next answer)) →
      P.Advances main got job task? tally i t next
        (t.station.attempt (.task (P.first + i)) action job) := by
    rintro hreads hoffers ⟨answer, arguments, hq, hgoes⟩
    have hfresh : t.station.reading = .fresh := hcourse.reading.resolve_right (hb ▸ hreads)
    obtain ⟨job', hattempt, hpipes, hlevel, htells, hserves⟩ :=
      h.answers hi ht (fun hzero => (hopen hzero).resolve_right (hb ▸ hoffers)) hq
    rw [hattempt]
    refine .inl ⟨_, P.weight_steps hn (tally i).hand, htells,
      fun hwrites => absurd (hb ▸ hwrites) hoffers, ?_⟩
    exact h.stays hi ht hserves rfl hlevel hpipes rfl
      ⟨hcourse.input, hcourse.output, hcourse.timers, .inl hfresh, hgoes⟩
  cases action with
  | read => exact h.read hi ht hb hn
  | write v => exact h.write hP hi ht hb hn
  | _ => exact hquiet id id hgoes

end Actions

/-! ## A poll -/

/-- What a poll of stage `i` comes to: the stage waits, having come further or changed nothing; or it
is over, as its limit or the end of data has it; or it has found its pipe broken. -/
inductive Plan.Polled (P : Plan) (main : Option ReadState) (got : Nat) (job : Job)
    (task? : Nat → Option Task) (tally : Nat → Tally) (i : Nat) (t : Task) :
    Progress Unit → Station → Job → Prop where
  | waits {b : Behavior Unit} {st' : Station} {job' : Job} {n : Tally}
      (flows : Flows P main got job' (P.put i (some { t with station := st', behavior := b }) task?)
        (Function.update tally i n))
      (tells : job.Tells job' [])
      (less : P.weight i n < P.weight i (tally i) ∨ n = tally i ∧ job'.ready = job.ready)
      (offers : i = 0 → b.Offers) : Polled P main got job task? tally i t (.waiting b) st' job'
  | ends {st' : Station} {job' : Job} {n : Tally}
      (flows : Flows P main got job'
        (P.put i (some { t with station := st', behavior := .result () }) task?)
        (Function.update tally i n))
      (tells : job.Tells job' []) (most : P.weight i n ≤ P.weight i (tally i))
      (pos : 0 < i) (ended : n.hand = .done ∨ n.hand = .empty ∧ P.limit i = some n.sent) :
      Polled P main got job task? tally i t (.done ()) st' job'
  | broken {b : Behavior Unit} {st' : Station} {job' : Job} {n : Tally}
      (flows : Flows P main got job' (P.put i (some { t with station := st', behavior := b }) task?)
        (Function.update tally i n))
      (tells : job.Tells job' [Pipe.brokenSignal (P.name i)])
      (most : P.weight i n ≤ P.weight i (tally i)) (offers : b.Offers)
      (gone : P.reader? main task? i = none) :
      Polled P main got job task? tally i t (.failed (.brokenPipe (P.name i))) st' job'

/-- A step, and what the rest of the poll comes to. -/
theorem Plan.Polled.step {t₁ : Task} {job₁ : Job} {n₁ : Tally} {progress : Progress Unit}
    {st' : Station}
    (h : P.Polled main got job₁ (P.put i (some t₁) task?) (Function.update tally i n₁) i t₁ progress
      st' job')
    (hsame : ∀ st' b,
      { t₁ with station := st', behavior := b } = { t with station := st', behavior := b })
    (htells : job.Tells job₁ []) (hless : P.weight i n₁ < P.weight i (tally i)) :
    P.Polled main got job task? tally i t progress st' job' := by
  cases h with
  | waits flows tells less offers =>
    rw [P.put_put, Function.update_idem, hsame] at flows
    rw [Function.update_self] at less
    refine .waits flows (htells.trans tells) (.inl ?_) offers
    rcases less with hlower | ⟨rfl, -⟩
    · exact hlower.trans hless
    · exact hless
  | ends flows tells most pos ended =>
    rw [P.put_put, Function.update_idem, hsame] at flows
    rw [Function.update_self] at most
    exact .ends flows (htells.trans tells) (most.trans hless.le) pos ended
  | broken flows tells most offers gone =>
    rw [P.put_put, Function.update_idem, hsame] at flows
    rw [Function.update_self] at most
    rw [P.reader?_put (Nat.succ_ne_self i)] at gone
    exact .broken flows (htells.trans tells) (most.trans hless.le) offers gone

/-- A poll of stage `i` comes to its end, in a number of steps that is known beforehand. -/
def Plan.Polls (P : Plan) (main : Option ReadState) (got : Nat) (job : Job)
    (task? : Nat → Option Task) (tally : Nat → Tally) (i : Nat) (t : Task) : Prop :=
  ∃ progress st' job', (∀ fuel > P.weight i (tally i),
      t.station.run fuel (.task (P.first + i)) job t.behavior = (progress, st', job')) ∧
    P.Polled main got job task? tally i t progress st' job'

/-- A poll takes a step, and goes on from there. -/
theorem Plan.Polls.step {t₁ : Task} {job₁ : Job} {n₁ : Tally}
    (h : P.Polls main got job₁ (P.put i (some t₁) task?) (Function.update tally i n₁) i t₁)
    (hsame : ∀ st' b,
      { t₁ with station := st', behavior := b } = { t with station := st', behavior := b })
    (htells : job.Tells job₁ []) (hless : P.weight i n₁ < P.weight i (tally i))
    (hrun : ∀ fuel, t.station.run (fuel + 1) (.task (P.first + i)) job t.behavior =
      t₁.station.run fuel (.task (P.first + i)) job₁ t₁.behavior) :
    P.Polls main got job task? tally i t := by
  obtain ⟨progress, st', job', hgoes, hpolled⟩ := h
  rw [Function.update_self] at hgoes
  refine ⟨progress, st', job', fun fuel hfuel => ?_, hpolled.step hsame htells hless⟩
  obtain ⟨fuel, rfl⟩ : ∃ k, fuel = k + 1 := ⟨fuel - 1, by omega⟩
  rw [hrun]
  exact hgoes fuel (by omega)

/-- A stage goes on until it is over, has to wait, or finds its pipe broken. Where nobody reads it, the
first stage has to be at a write already, or it would not notice. -/
theorem Flows.run (h : Flows P main got job task? tally) (hP : P.Proper) (hi : i < P.count)
    (ht : task? (P.first + i) = some t)
    (hopen : i = 0 → P.reader? main task? 0 ≠ none ∨ t.behavior.Offers) :
    P.Polls main got job task? tally i t := by
  -- every step lowers the weight of the stage, also the one that starts a new round of its loop
  induction hw : P.weight i (tally i) using Nat.strong_induction_on generalizing job task? tally t with
  | _ w ih =>
    subst hw
    have hcourse := h.stages i hi t ht
    have hgoes := hcourse.goes
    obtain ⟨n, hn⟩ : ∃ n, (tally i).steps = n + 1 := Nat.exists_eq_succ_of_ne_zero hgoes.steps_pos.ne'
    rw [hn] at hgoes
    -- the rest of the poll; a step has been taken, so the first stage is still read if it was before
    have hrest : ∀ (t₁ : Task) job₁ n₁, P.weight i n₁ < P.weight i (tally i) →
        (t.behavior.Offers → P.reader? main task? i ≠ none) →
        Flows P main got job₁ (P.put i (some t₁) task?) (Function.update tally i n₁) →
        P.Polls main got job₁ (P.put i (some t₁) task?) (Function.update tally i n₁) i t₁ := by
      intro t₁ job₁ n₁ hless hread hflows
      refine ih _ (by rwa [Function.update_self]) hflows (Span.put_self _) ?_ rfl
      rintro rfl
      rw [P.reader?_put (Nat.succ_ne_self 0)]
      exact .inl ((hopen rfl).elim id hread)
    have hstays : Flows P main got job (P.put i (some t) task?) (Function.update tally i (tally i)) := by
      rwa [P.put_eq ht, Function.update_eq_self]
    cases hb : t.behavior with
    | result a =>
      rw [hb] at hgoes
      have hsame : t = { t with behavior := .result () } := by rw [← hb]
      refine ⟨.done (), t.station, job, fun fuel hfuel => ?_,
        .ends (hsame ▸ hstays) .refl le_rfl hgoes.1 hgoes.2⟩
      obtain ⟨fuel, rfl⟩ : ∃ k, fuel = k + 1 := ⟨fuel - 1, by omega⟩
      rw [hb]
      rfl
    | fail e =>
      rw [hb] at hgoes
      exact hgoes.elim
    | crash =>
      rw [hb] at hgoes
      exact hgoes.elim
    | loop s body next =>
      rw [hb] at hgoes
      have hfresh : t.station.reading = .fresh := hcourse.reading.resolve_right (hb ▸ id)
      have hless := P.weight_steps (i := i) hn (tally i).hand
      have hserves : Job.Serves (fun _ => none) (fun _ => False) job job := .refl
      have hunfolded := hrest { t with behavior := .unfold s body next } job _ hless
        (fun hoffers => by rw [hb] at hoffers; exact hoffers.elim)
        (h.stays hi ht hserves rfl h.level rfl rfl
          ⟨hcourse.input, hcourse.output, hcourse.timers, .inl hfresh, hgoes⟩)
      exact hunfolded.step (fun _ _ => rfl) .refl hless fun fuel => by rw [hb]; rfl
    | act action next =>
      have hadvances := h.attempt hP hi ht hopen hb
      rcases ha : t.station.attempt (.task (P.first + i)) action job with ⟨_ | answer, st₁, job₁⟩ <;>
        rw [ha] at hadvances
      · obtain ⟨hready, htells, hoffers, hflows⟩ := hadvances
        refine ⟨.waiting t.behavior, st₁, job₁, fun fuel hfuel => ?_,
          .waits (n := tally i) ?_ htells (.inr ⟨rfl, hready⟩) hoffers⟩
        · obtain ⟨fuel, rfl⟩ : ∃ k, fuel = k + 1 := ⟨fuel - 1, by omega⟩
          simp only [hb, Station.run, ha]
        · rwa [Function.update_eq_self]
      · have hstep : ∀ fuel, t.station.run (fuel + 1) (.task (P.first + i)) job t.behavior =
            st₁.run fuel (.task (P.first + i)) job₁ (next answer) := fun fuel => by
          simp only [hb, Station.run, ha]
        rcases hadvances with
          ⟨n₁, hless, htells, hread, hflows⟩ | ⟨hgone, hfails, hoffers, htells, hflows⟩
        · exact (hrest _ job₁ n₁ hless hread hflows).step (fun _ _ => rfl) htells hless hstep
        · refine ⟨_, st₁, job₁, fun fuel hfuel => ?_,
            .broken (b := t.behavior) (n := tally i) ?_ htells le_rfl hoffers hgone⟩
          · have hweight : (tally i).steps ≤ P.weight i (tally i) := Nat.le_add_left ..
            obtain ⟨fuel, rfl⟩ : ∃ k, fuel = k + 2 := ⟨fuel - 2, by omega⟩
            rw [hstep, hfails]
            rfl
          · rwa [Function.update_eq_self]

/-- A stage that reads nothing gives nothing back. -/
theorem Station.abandonRead_fresh {st : Station} (h : st.reading = .fresh) (job : Job) :
    st.abandonRead job = (st, job) := by
  have hsame : { st with reading := .fresh } = st := by rw [← h]
  have hjob : ∀ j, job.change j (·.dropRead st.reading) = job := by
    intro j
    rw [h]
    obtain hnone | ⟨p, hp⟩ := Option.eq_none_or_eq_some job.pipes[j]?
    · simp only [Job.change, hnone]
    · have hpipes : job.pipes.setIfInBounds j p = job.pipes := by
        refine Array.ext_getElem? fun k => ?_
        rw [Array.getElem?_setIfInBounds]
        split
        · rename_i hjk
          subst hjk
          obtain ⟨hlt, -⟩ := Array.getElem?_eq_some_iff.mp hp
          rw [if_pos hlt, hp]
        · rfl
      rw [Job.change_eq hp, Job.store]
      simp only [Pipe.dropRead, hpipes]
      rfl
  unfold abandonRead
  split
  · rw [hjob, hsame]
  · rw [hsame]

/-- A stage that leaves closes its two ends. -/
theorem Station.release_eq {st : Station} {j : Nat} (hfresh : st.reading = .fresh)
    (htimers : st.timers = []) (houtput : st.output = some j) (job : Job) :
    st.release job = ((st.closeInput job).2.closeWrite j).2 := by
  simp only [Station.release, Station.abandonRead_fresh hfresh, Station.forgetTimers,
    st.closeInput_station, htimers, List.foldl_nil, Station.closeOutput, houtput]

theorem Plan.Course.release_eq {n : Tally} (h : P.Course i t n) (hreads : ¬ t.behavior.Reads)
    (job : Job) :
    t.station.release job = ((t.station.closeInput job).2.closeWrite (P.base + i)).2 :=
  Station.release_eq (h.reading.resolve_right hreads) h.timers h.output job

/-- A stage that is over leaves its place: what is in its pipe stays there for the next stage. -/
theorem Flows.release (h : Flows P main got job task? tally) (hi : i < P.count)
    (ht : task? (P.first + i) = some t) (hreads : ¬ t.behavior.Reads) :
    job.Tells (t.station.release job) [] ∧
      Flows P main got (t.station.release job) (P.put i none task?)
        (Function.update tally i { tally i with steps := 0 }) := by
  have hcourse := h.stages i hi t ht
  have hfresh := hcourse.reading.resolve_right hreads
  have hserves := t.station.release_serves job
  obtain ⟨p, hp, hcarries⟩ := h.pipes i hi
  rw [ht, Option.isSome_some] at hcarries
  obtain ⟨hchannel, hstock⟩ := hcarries.channel.closeWrite
  have hclosed : P.Carries i (P.reader? main task? i) false (P.taken got tally (i + 1)) (tally i).sent
      p.closeWrite.2.1 :=
    ⟨hchannel, by rw [hstock]; exact hcarries.stock, by rw [hstock]; exact hcarries.items⟩
  rw [hcourse.release_eq hreads] at hserves ⊢
  have hown := hcourse.own_last hi
  cases i with
  | zero =>
    have hinput : t.station.input = none := hcourse.input
    have hclose : t.station.closeInput job = (t.station, job) := by rw [Station.closeInput, hinput]
    rw [hclose] at hserves ⊢
    refine ⟨.closeWrite _, ?_⟩
    simp only [Job.closeWrite, Job.query_eq hp] at hserves ⊢
    exact h.sends hi ht hp hserves hown none (by simp [Station.reader?, hinput]) hclosed
      (fun _ => rfl) (by simp) (h.bounded 0 hi) fun _ hover => ⟨hover, rfl⟩
  | succ before =>
    obtain ⟨q, hq, hfeeds⟩ := h.pipes before (by omega)
    rw [P.reader?_before hi, ht, Option.bind_some, hcourse.reader?, hfresh] at hfeeds
    have hclose : (t.station.closeInput job).2 = (job.closeRead (P.base + before)).2 := by
      rw [Station.closeInput, hcourse.input_succ]
    rw [hclose] at hserves ⊢
    refine ⟨(Job.Tells.closeRead _).trans (.closeWrite _), ?_⟩
    -- what becomes of the two pipes
    have hread : ∀ k, k ≠ before → (job.closeRead (P.base + before)).2.pipes[P.base + k]? =
        job.pipes[P.base + k]? := fun k hk => by
      rw [Job.closeRead, Job.query_eq hq]
      exact Job.store_other (by omega) _ _ job
    have hp' := (hread _ (Nat.succ_ne_self before)).trans hp
    have hwrite : ∀ k, k ≠ before + 1 →
        ((job.closeRead (P.base + before)).2.closeWrite (P.base + (before + 1))).2.pipes[P.base + k]? =
          (job.closeRead (P.base + before)).2.pipes[P.base + k]? := fun k hk => by
      rw [Job.closeWrite, Job.query_eq hp']
      exact Job.store_other (by omega) _ _ _
    have hlevel :
        ((job.closeRead (P.base + before)).2.closeWrite (P.base + (before + 1))).2.level = 0 := by
      rw [Job.closeWrite, Job.query_eq hp', Job.closeRead, Job.query_eq hq]
      exact (Job.level_react _ _).trans ((Job.level_react _ _).trans h.level)
    refine h.replace hi ht hserves hown hlevel (fun k hk hk' => ?_) (fun k hk => ?_)
      ⟨p.closeWrite.2.1, ?_, hclosed⟩
      (by simp) (h.bounded _ hi) (fun k hk hover => ?_)
    · rw [hwrite k hk, hread k (by omega)]
    · obtain rfl := Nat.succ.inj hk
      refine ⟨q.closeRead.2.1, ?_, hfeeds.channel.closeRead, by simp, by simp⟩
      rw [hwrite k (Nat.succ_ne_self k).symm, Job.closeRead, Job.query_eq hq]
      exact Job.store_self hq _ _
    · rw [Job.closeWrite, Job.query_eq hp']
      exact Job.store_self hp' _ _
    · obtain rfl := Nat.succ.inj hk
      exact h.drained k hi hover

end Pipework
