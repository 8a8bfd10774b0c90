import Pipework.Proofs.Job.Delivering
import Pipework.Proofs.Job.Room

/-!
# A line of a single stage

The only stage of a line has no input, and the main future reads what it writes. So it does on a
machine what it does in a room of its own (`Behavior.Plays`), whatever the capacity of its pipe.

A `Solo` is such a stage with what it writes in all and how it ends. `Sounds` tells that it goes as in
the room: what the main future has got, what is in the pipe, and what the stage is still to write make up
all that it writes.

* `Sounds.run` — a poll brings the stage to its end, or to a write that has to wait;
* `Sounds.pollMain` — the main future takes what is in the pipe;
* `Performs.runUntil` — in the end it has got everything.
-/

namespace Pipework

/-! ## Single actions -/

/-- The action is a write. -/
def Action.Writes : {β : Type} → Action β → Prop
  | _, .write _ => True
  | _, _ => False

/-- Two jobs that differ in their records and their shells. -/
structure Job.Unmoved (job job' : Job) : Prop where
  pipes : job'.pipes = job.pipes
  level : job'.level = job.level
  ready : job'.ready = job.ready
  woken : job'.mainWoken = job.mainWoken
  errors : job'.errors = job.errors

/-- An action that is no write is answered on a station without input as in the room. -/
theorem Room.attempt {β : Type} {action : Action β} (hquiet : ¬ action.Writes) (who : Waker)
    {st : Station} {job : Job} (hinput : st.input = none) (hlevel : job.level = 0) {answer : β}
    {written : List Value} {r : Room}
    (h : Room.answer ⟨⟨st.arguments, none⟩, job.shell⟩ action = some (answer, written, r)) :
    written = [] ∧ r.input = none ∧ ∃ job', st.attempt who action job =
      (.ready answer, { st with arguments := r.arguments }, job') ∧ job'.shell = r.shell ∧
      job.Unmoved job' := by
  have hsame : job.Unmoved job := ⟨rfl, rfl, rfl, rfl, rfl⟩
  obtain ⟨input, output, arguments, reading, deadline, timers⟩ := st
  obtain rfl : input = none := hinput
  cases action with
  | write v => exact absurd trivial hquiet
  | level =>
    cases h
    exact ⟨rfl, rfl, job, by rw [Station.attempt, hlevel], rfl, hsame⟩
  | read | closeInput | inputClosed | shell | arguments | setArguments =>
    cases h
    exact ⟨rfl, rfl, job, rfl, rfl, hsame⟩
  | log | setShell =>
    cases h
    exact ⟨rfl, rfl, _, rfl, rfl, rfl, rfl, rfl, rfl, rfl⟩
  | _ => cases h

/-- A stage without input that ends the program before it has written anything does so at its first
poll. -/
theorem Room.run_crashed {n : Nat} {b : Behavior Unit} {st : Station} {job : Job} {left : Room}
    (h : b.PlaysIn n ⟨⟨st.arguments, none⟩, job.shell⟩ [] (.crashed, left)) (hinput : st.input = none)
    (hlevel : job.level = 0) (who : Waker) :
    ∃ st' job', ∀ fuel ≥ n, st.run fuel who job b = (.crashed, st', job') := by
  induction n generalizing b st job with
  | zero => exact h.elim
  | succ n ih =>
    have hfuel : ∀ fuel ≥ n + 1, ∃ k ≥ n, fuel = k + 1 := fun fuel hf => ⟨fuel - 1, by omega, by omega⟩
    cases b with
    | result | fail => simp [Behavior.PlaysIn] at h
    | crash =>
      refine ⟨st, job, fun fuel hf => ?_⟩
      obtain ⟨k, -, rfl⟩ := hfuel fuel hf
      rfl
    | loop s body next =>
      obtain ⟨st', job', hrun⟩ := ih (b := .unfold s body next) h hinput hlevel
      refine ⟨st', job', fun fuel hf => ?_⟩
      obtain ⟨k, hk, rfl⟩ := hfuel fuel hf
      exact hrun k hk
    | act action next =>
      obtain ⟨answer, written, r, rest, hanswer, hnothing, hrest⟩ := h
      obtain ⟨rfl, rfl⟩ := List.append_eq_nil_iff.mp hnothing.symm
      have hquiet : ¬ action.Writes := by
        cases action with
        | write v => simp [Room.answer, Desk.answer] at hanswer
        | _ => exact id
      obtain ⟨-, hnone, job₁, hattempt, hshell, hunmoved⟩ := Room.attempt hquiet who hinput hlevel hanswer
      have hstep : (next answer).PlaysIn n ⟨⟨r.arguments, none⟩, job₁.shell⟩ [] (.crashed, left) := by
        rw [hshell, ← hnone]
        exact hrest
      obtain ⟨st', job', hrun⟩ := @ih _ { st with arguments := r.arguments } _ hstep hinput
        (hunmoved.level.trans hlevel)
      refine ⟨st', job', fun fuel hf => ?_⟩
      obtain ⟨k, hk, rfl⟩ := hfuel fuel hf
      simp only [Station.run, hattempt]
      exact hrun k hk

/-- The only stage of a line is alone in its pool, if nobody watches. -/
theorem Wired.eq_first {L : Span} {busy : Option Nat} {job : Job} {task? : Nat → Option Task}
    {incoming : List Nat} (h : Wired L busy job task? incoming) (hone : L.count = 1)
    (hwatches : L.watches = []) {id : Nat} {t : Task} (ht : task? id = some t) (hpool : t.pool = L.pool) :
    id = L.first := by
  by_contra hother
  have hwatch := (h.others id t ht hpool fun i hi heq => hother (by omega)).1
  rw [hwatches] at hwatch
  exact absurd hwatch List.not_mem_nil

/-! ## The stage -/

/-- What is reported of a stage that has ended in a job that nobody interrupts. -/
def Machine.reported : Except ShellError Unit → List String
  | .ok () => []
  | .error e => if e.isBrokenPipe then [] else [e.message]

/-- The only stage of a line, with what it does in a room of its own. -/
structure Solo extends Span where
  /-- The name of its pipe. -/
  name : String
  /-- The capacity of its pipe. -/
  room : Nat
  /-- What it writes in all. -/
  out : List Value
  /-- How it ends. -/
  result : Except ShellError Unit
  /-- How it leaves the room. -/
  left : Room
  /-- What has been reported before. -/
  errors : List String

namespace Solo

variable (S : Solo)

/-- The stage has `rest` to write in at most `n` steps. -/
structure Course (rest : List Value) (n : Nat) (job : Job) (t : Task) : Prop where
  input : t.station.input = none
  output : t.station.output = some S.base
  timers : t.station.timers = []
  reading : t.station.reading = .fresh
  errors : job.errors = S.errors
  plays : t.behavior.PlaysIn n ⟨⟨t.station.arguments, none⟩, job.shell⟩ rest
    (.ofExcept S.result, S.left)

/-- The main future, whose read has come as far as `main`, has got some items, and the stage has `rest`
to write in at most `n` steps, or it is over. -/
structure Sounds (main : ReadState) (got rest : List Value) (n : Nat) (job : Job)
    (task : Option Task) : Prop where
  level : job.level = 0
  /-- Nothing is lost. -/
  pipe : ∃ p, job.pipes[S.base]? = some p ∧ p.Channel S.name S.room (some main) task.isSome ∧
    got ++ p.stock ++ rest = S.out
  stage : ∀ t, task = some t → S.Course rest n job t
  gone : task = none → rest = [] ∧ job.shell = S.left.shell ∧
    job.errors = S.errors ++ Machine.reported S.result
  /-- While its read is parked the main future has been woken, or the pipe will wake it. -/
  heeds : ∀ ticket, main = .parked ticket → job.mainWoken = true ∨
    ∃ p, job.pipes[S.base]? = some p ∧ (ticket, .main) ∈ p.parked

end Solo

variable {S : Solo} {main main' : ReadState} {got got' rest rest' : List Value} {n n' : Nat}
  {job job' : Job} {task : Option Task} {t u : Task}

theorem Job.core_store (i : Nat) (p : Pipe Value) (events : List Pipe.Event) (job : Job) :
    (job.store i p events).core = job.core := by
  rw [Job.store, Job.core_react]
  rfl

namespace Solo

/-- The main future is not forgotten by a job that serves its pipes. -/
theorem Sounds.heeds_serve (h : S.Sounds main got rest n job task) {own : Nat → Option Nat}
    {mine : Nat → Prop} (hown : own S.base = none) (hserves : Job.Serves own mine job job') {ticket : Nat}
    (hticket : main = .parked ticket) : job'.mainWoken = true ∨
      ∃ p, job'.pipes[S.base]? = some p ∧ (ticket, .main) ∈ p.parked := by
  exact hserves.heeds (w := .main) hown (h.heeds ticket hticket)

/-- The pipe has changed, and the stage has come to a new place. -/
theorem Sounds.replace {p p' : Pipe Value} {events : List Pipe.Event}
    (h : S.Sounds main got rest n job task) (hp : job.pipes[S.base]? = some p)
    {own : Nat → Option Nat} {mine : Nat → Prop} (hown : own S.base = none)
    (hserves : Job.Serves own mine job (job.store S.base p' events)) {task' : Option Task}
    (hchannel : p'.Channel S.name S.room (some main) task'.isSome)
    (hall : got ++ p'.stock ++ rest' = S.out)
    (hstage : ∀ t, task' = some t → S.Course rest' n' (job.store S.base p' events) t)
    (hgone : task' = none → rest' = [] ∧ (job.store S.base p' events).shell = S.left.shell ∧
      (job.store S.base p' events).errors = S.errors ++ Machine.reported S.result) :
    S.Sounds main got rest' n' (job.store S.base p' events) task' := by
  exact ⟨(congrArg (·.2.1) (Job.core_store ..)).trans h.level,
    ⟨p', Job.store_self hp p' events, hchannel, hall⟩, hstage, hgone,
    fun _ hticket => h.heeds_serve hown hserves hticket⟩

/-- A job that differs from another in nothing that the stage cares for. -/
theorem Course.congr (h : S.Course rest n job t) (hshell : job'.shell = job.shell)
    (herrors : job'.errors = job.errors) : S.Course rest n job' t :=
  { h with
    errors := herrors.trans h.errors
    plays := by rw [hshell]; exact h.plays }

theorem Course.own (h : S.Course rest n job t) (j : Nat) : t.station.own j = none := by
  rw [Station.own, h.input]
  exact if_neg (by simp)

/-- The stage has attempted an action: it is a step further, or it has to wait, and nobody has been
woken. -/
def Attempted {β : Type} (S : Solo) (main : ReadState) (got rest : List Value) (n : Nat) (job : Job)
    (t : Task) (next : β → Behavior Unit) : Poll β × Station × Job → Prop
  | (.pending, st', job') => job'.ready = job.ready ∧
      S.Sounds main got rest n job' (some { t with station := st' })
  | (.ready answer, st', job') => ∃ rest' n', n = n' + 1 ∧
      S.Sounds main got rest' n' job' (some { t with station := st', behavior := next answer })

/-- A write puts its item into the pipe, or has to wait. -/
theorem Sounds.write {v : Value} {next : Except ShellError Unit → Behavior Unit}
    (h : S.Sounds main got (v :: rest') (n + 1) job (some t))
    (hrest : (next (.ok ())).PlaysIn n ⟨⟨t.station.arguments, none⟩, job.shell⟩ rest'
      (.ofExcept S.result, S.left)) (who : Waker) :
    S.Attempted main got (v :: rest') (n + 1) job t next (t.station.tryWrite who v job) := by
  have hcourse := h.stage t rfl
  obtain ⟨p, hp, hchannel, hall⟩ := h.pipe
  have hserves := t.station.tryWrite_serves job (fun _ => False) who v
  rw [Station.tryWrite_eq hcourse.output hp] at hserves ⊢
  have hstored : ∀ p' events, (job.store S.base p' events).shell = job.shell :=
    fun p' events => congrArg (·.1) (Job.core_store ..)
  rcases hchannel.pollWrite who v with
    ⟨p', hpoll, hchannel', hstock⟩ | ⟨p', events, hpoll, hchannel', hstock, -, -⟩ |
    ⟨events, -, hgone, -⟩
  · rw [hpoll] at hserves ⊢
    refine ⟨rfl, h.replace hp (hcourse.own _) hserves hchannel' (by rw [hstock]; exact hall) ?_
      (by simp)⟩
    rintro u hu
    obtain rfl := Option.some.inj hu
    exact hcourse.congr (hstored _ _) (Job.Tells.store _ _ _).errors
  · rw [hpoll] at hserves ⊢
    refine ⟨rest', n, rfl, h.replace hp (hcourse.own _) hserves hchannel' ?_ ?_ (by simp)⟩
    · rw [hstock, ← hall]
      simp
    · rintro u hu
      obtain rfl := Option.some.inj hu
      refine ⟨hcourse.input, hcourse.output, hcourse.timers, hcourse.reading,
        (Job.Tells.store _ _ _).errors.trans hcourse.errors, ?_⟩
      rw [hstored]
      exact hrest
  · simp at hgone

theorem Sounds.attempt {β : Type} {action : Action β} {next : β → Behavior Unit}
    (h : S.Sounds main got rest n job (some t)) (hb : t.behavior = .act action next) (who : Waker) :
    S.Attempted main got rest n job t next (t.station.attempt who action job) := by
  have hcourse := h.stage t rfl
  have hplays := hcourse.plays
  rw [hb] at hplays
  obtain ⟨n, rfl⟩ : ∃ k, n = k + 1 := ⟨n - 1, by cases n <;> first | exact hplays.elim | rfl⟩
  obtain ⟨answer, written, r, rest', hanswer, rfl, hrest⟩ := hplays
  by_cases hquiet : action.Writes
  · cases action with
    | write v =>
      cases hanswer
      exact h.write hrest who
    | _ => exact hquiet.elim
  · obtain ⟨rfl, hnone, job', hattempt, hshell, hunmoved⟩ :=
      Room.attempt hquiet who hcourse.input h.level hanswer
    rw [hattempt]
    refine ⟨rest', n, rfl, hunmoved.level.trans h.level, ?_, ?_, by simp, ?_⟩
    · rw [hunmoved.pipes]
      exact h.pipe
    · rintro u hu
      obtain rfl := Option.some.inj hu
      refine ⟨hcourse.input, hcourse.output, hcourse.timers, hcourse.reading,
        hunmoved.errors.trans hcourse.errors, ?_⟩
      rw [hshell, ← hnone]
      exact hrest
    · rw [hunmoved.pipes, hunmoved.woken]
      exact h.heeds

/-! ## Polls -/

/-- How far the stage has come when it has ended. -/
def progress (S : Solo) : Progress Unit :=
  match S.result with
  | .ok () => .done ()
  | .error e => .failed e

theorem progress_done {a : Unit} (h : Finish.ofExcept S.result = .done a) : S.progress = .done a := by
  unfold progress
  cases hresult : S.result with
  | ok => rfl
  | error e =>
    rw [hresult] at h
    cases h

theorem progress_failed {e : ShellError} (h : Finish.ofExcept S.result = .failed e) :
    S.progress = .failed e := by
  unfold progress
  cases hresult : S.result with
  | ok =>
    rw [hresult] at h
    cases h
  | error e' =>
    rw [hresult] at h
    cases h
    rfl

/-- What a poll of the stage comes to: it waits, and either it is some steps further, or nobody has been
woken; or it has ended. -/
inductive Polled (S : Solo) (main : ReadState) (got : List Value) (n : Nat) (start : Job) (pool : Nat)
    (name : String) : Progress Unit → Station → Job → Prop
  | waits {b : Behavior Unit} {st' : Station} {job' : Job} {rest' : List Value} {n' : Nat}
    (sounds : S.Sounds main got rest' n' job' (some ⟨pool, name, b, st'⟩))
    (less : n' < n ∨ n' = n ∧ job'.ready = start.ready) :
    Polled S main got n start pool name (.waiting b) st' job'
  | ends {b : Behavior Unit} {st' : Station} {job' : Job} {n' : Nat}
    (sounds : S.Sounds main got [] n' job' (some ⟨pool, name, b, st'⟩))
    (left : job'.shell = S.left.shell) : Polled S main got n start pool name S.progress st' job'

/-- The stage has come some steps further before. -/
theorem Polled.step {start : Job} {pool : Nat} {name : String} {st' : Station}
    {progress : Progress Unit} (hn : n' < n)
    (h : S.Polled main got n' job pool name progress st' job') :
    S.Polled main got n start pool name progress st' job' := by
  cases h with
  | waits hsounds hless => exact .waits hsounds (.inl (by omega))
  | ends hsounds hleft => exact .ends hsounds hleft

/-- A poll of the stage comes to its end. -/
theorem Sounds.run (h : S.Sounds main got rest n job (some t)) (who : Waker) :
    ∃ progress st' job', (∀ fuel ≥ n, t.station.run fuel who job t.behavior = (progress, st', job')) ∧
      S.Polled main got n job t.pool t.name progress st' job' := by
  induction n generalizing rest job t with
  | zero => exact (h.stage t rfl).plays.elim
  | succ n ih =>
    have hcourse := h.stage t rfl
    have hplays := hcourse.plays
    have hfuel : ∀ fuel ≥ n + 1, ∃ k ≥ n, fuel = k + 1 := fun fuel hf => ⟨fuel - 1, by omega, by omega⟩
    obtain ⟨pool, name, b, st⟩ := t
    cases b with
    | result a =>
      obtain ⟨rfl, hend⟩ := hplays
      obtain ⟨hresult, hleft⟩ := Prod.mk.inj hend
      refine ⟨S.progress, st, job, fun fuel hf => ?_, .ends h (by rw [hleft])⟩
      obtain ⟨k, -, rfl⟩ := hfuel fuel hf
      rw [progress_done hresult]
      rfl
    | fail e =>
      obtain ⟨rfl, hend⟩ := hplays
      obtain ⟨hresult, hleft⟩ := Prod.mk.inj hend
      refine ⟨S.progress, st, job, fun fuel hf => ?_, .ends h (by rw [hleft])⟩
      obtain ⟨k, -, rfl⟩ := hfuel fuel hf
      rw [progress_failed hresult]
      rfl
    | crash =>
      obtain ⟨-, hend⟩ := hplays
      obtain ⟨hresult, -⟩ := Prod.mk.inj hend
      cases hok : S.result <;> rw [hok] at hresult <;> cases hresult
    | loop s body next =>
      have hunfold : S.Sounds main got rest n job (some ⟨pool, name, .unfold s body next, st⟩) :=
        { h with
          stage := by
            rintro u hu
            obtain rfl := Option.some.inj hu
            exact { hcourse with plays := hplays }
          gone := by simp }
      obtain ⟨progress, st', job', hrun, hpolled⟩ := ih hunfold
      refine ⟨progress, st', job', fun fuel hf => ?_, hpolled.step n.lt_succ_self⟩
      obtain ⟨k, hk, rfl⟩ := hfuel fuel hf
      exact hrun k hk
    | act action next =>
      have hattempted := h.attempt rfl who
      rcases hattempt : st.attempt who action job with ⟨_ | answer, st', job'⟩
      · rw [hattempt] at hattempted
        obtain ⟨hready, hsounds⟩ := hattempted
        refine ⟨_, st', job', fun fuel hf => ?_, .waits hsounds (.inr ⟨rfl, hready⟩)⟩
        obtain ⟨k, -, rfl⟩ := hfuel fuel hf
        simp only [Station.run, hattempt]
      · rw [hattempt] at hattempted
        obtain ⟨rest', k, hk, hsounds⟩ := hattempted
        obtain rfl := Nat.succ.inj hk
        obtain ⟨progress, st'', job'', hrun, hpolled⟩ := ih hsounds
        refine ⟨progress, st'', job'', fun fuel hf => ?_, hpolled.step n.lt_succ_self⟩
        obtain ⟨k, hk, rfl⟩ := hfuel fuel hf
        simp only [Station.run, hattempt]
        exact hrun k hk

/-- The end of the stage is logged, and its failure reported. -/
theorem logEnd_reports (S : Solo) (name : String) (hlevel : job.level = 0) :
    (Machine.logEnd name S.result job).pipes = job.pipes ∧
      (Machine.logEnd name S.result job).mainWoken = job.mainWoken ∧
      (Machine.logEnd name S.result job).errors = job.errors ++ Machine.reported S.result := by
  unfold Machine.reported
  cases S.result with
  | ok => exact ⟨rfl, rfl, (List.append_nil _).symm⟩
  | error e =>
    have hcalm : ¬ Job.hardLevel ≤ job.level := by
      rw [hlevel]
      decide
    cases hbroken : e.isBrokenPipe with
    | true =>
      simp only [Machine.logEnd, hbroken, Bool.true_or, if_true]
      exact ⟨rfl, rfl, (List.append_nil _).symm⟩
    | false =>
      simp only [Machine.logEnd, hbroken, decide_eq_false hcalm, Bool.or_self, Bool.false_eq_true, if_false]
      exact ⟨rfl, rfl, rfl⟩

/-- A stage that is over leaves. -/
theorem Sounds.release (h : S.Sounds main got [] n job (some t)) (hleft : job.shell = S.left.shell) :
    S.Sounds main got [] 0 (Machine.logEnd t.name S.result (t.station.release job)) none := by
  have hcourse := h.stage t rfl
  obtain ⟨p, hp, hchannel, hall⟩ := h.pipe
  obtain ⟨hclosed, hstock⟩ := hchannel.closeWrite
  have hclose : t.station.closeInput job = (t.station, job) := by
    rw [Station.closeInput, hcourse.input]
  have hrelease : t.station.release job = job.store S.base p.closeWrite.2.1 p.closeWrite.2.2 := by
    simp only [Station.release, Station.abandonRead_fresh hcourse.reading, hclose, Station.forgetTimers,
      hcourse.timers, List.foldl_nil, Station.closeOutput, hcourse.output, Job.closeWrite,
      Job.query_eq hp]
  have hserves := t.station.release_serves job
  have hcore := t.station.core_release job
  have herrors : (t.station.release job).errors = job.errors := by
    rw [hrelease]
    exact (Job.Tells.store _ _ _).errors
  have hlevel : (t.station.release job).level = 0 := (congrArg (·.2.1) hcore).trans h.level
  obtain ⟨hpipes, hwoken, hreported⟩ := S.logEnd_reports t.name hlevel
  have hended := Machine.core_logEnd t.name S.result (t.station.release job)
  refine ⟨(congrArg (·.2.1) hended).trans hlevel, ?_, by simp, fun _ => ⟨rfl, ?_, ?_⟩, ?_⟩
  · rw [hpipes, hrelease]
    exact ⟨_, Job.store_self hp _ _, hclosed, by rw [hstock]; exact hall⟩
  · exact (congrArg (·.1) hended).trans ((congrArg (·.1) hcore).trans hleft)
  · rw [hreported, herrors, hcourse.errors]
  · intro ticket hticket
    rw [hpipes, hwoken]
    exact h.heeds_serve (hcourse.own _) hserves hticket

/-! ## What is left to do -/

/-- A bound for the polls that are still to come: each step of the stage, and each item that the main
future may still receive, counts for more than the poll that it may cause. -/
def effort (S : Solo) (got : List Value) (n : Nat) (m : Machine) : Nat :=
  2 * (n + (S.out.length - got.length)) +
    ((if S.first ∈ m.job.ready then 1 else 0) + if S.first ∈ m.incoming then 1 else 0)

/-- A job that differs in its ready list or its records. -/
theorem Sounds.congr (h : S.Sounds main got rest n job task) (hshell : job'.shell = job.shell)
    (hlevel : job'.level = job.level) (hpipes : job'.pipes = job.pipes)
    (hwoken : job'.mainWoken = job.mainWoken) (herrors : job'.errors = job.errors) :
    S.Sounds main got rest n job' task where
  level := hlevel.trans h.level
  pipe := by rw [hpipes]; exact h.pipe
  stage t ht := (h.stage t ht).congr hshell herrors
  gone hnone := by rw [hshell, herrors]; exact h.gone hnone
  heeds := by rw [hpipes, hwoken]; exact h.heeds

/-- A poll with which the stage ends. -/
theorem pollTask_progress (S : Solo) {m : Machine} {id fuel : Nat} {st' : Station}
    (h : t.station.run fuel (.task id) m.job t.behavior = (S.progress, st', job')) :
    m.pollTask fuel id t = (true, m.endTask id t.name st' S.result job') := by
  rw [Machine.pollTask, h, progress]
  cases S.result <;> rfl

/-- The poll of the ready stage comes to its end, and lowers the bound. -/
theorem Sounds.pollTask {m : Machine} (h : S.Sounds main got rest n m.job (m.task? S.first))
    (ht : m.task? S.first = some t) (hready : S.first ∈ m.job.ready) :
    ∃ ended m' rest' n', (∀ fuel ≥ n, (m.unready S.first).pollTask fuel S.first t = (ended, m')) ∧
      m'.halt = m.halt ∧ S.Sounds main got rest' n' m'.job (m'.task? S.first) ∧
      S.effort got n' m' < S.effort got n m := by
  rw [ht] at h
  have hbusy : S.Sounds main got rest n (m.unready S.first).job (some t) := h.congr rfl rfl rfl rfl rfl
  have hpos : 0 < n := Nat.pos_of_ne_zero fun hzero => by
    subst hzero
    exact (h.stage t rfl).plays
  have hless : ∀ {m' : Machine} {n' : Nat}, n' < n → m'.incoming = m.incoming →
      S.effort got n' m' < S.effort got n m := by
    intro m' n' hn hincoming
    rw [effort, effort, hincoming, if_pos hready]
    split <;> split <;> omega
  obtain ⟨progress, st', job', hrun, hpolled⟩ := hbusy.run (.task S.first)
  cases hpolled with
  | @waits b _ _ rest' n' hsounds hfurther =>
    set parked := ({ m.unready S.first with job := job' } : Machine).setTask S.first
      ⟨t.pool, t.name, b, st'⟩
    have htask : parked.task? S.first = some ⟨t.pool, t.name, b, st'⟩ :=
      (congrFun (Machine.task?_setTask _ _ _ ht) S.first).trans (Function.update_self ..)
    refine ⟨false, parked, rest', n', fun fuel hf => ?_, rfl, htask ▸ hsounds, ?_⟩
    · rw [Machine.pollTask, hrun fuel hf]
    · rcases hfurther with hn | ⟨rfl, hsame⟩
      · exact hless hn rfl
      · have hunready : S.first ∉ parked.job.ready := by
          change S.first ∉ job'.ready
          rw [hsame]
          simp [Machine.unready, Machine.onJob]
        rw [effort, effort, if_pos hready, if_neg hunready]
        exact Nat.add_lt_add_left (Nat.add_lt_add_right Nat.zero_lt_one _) _
  | @ends b _ _ n' hsounds hleft =>
    set ended := (m.unready S.first).endTask S.first t.name st' S.result job'
    have htask : ended.task? S.first = none :=
      (congrFun (Machine.task?_removeTask _ _) S.first).trans (Function.update_self ..)
    refine ⟨true, ended, [], 0, fun fuel hf => S.pollTask_progress (hrun fuel hf), rfl, ?_,
      hless hpos rfl⟩
    rw [htask]
    exact hsounds.release hleft

/-! ## The stage on a machine -/

/-- A line of a single stage at work, with a bound for what is left to do. -/
structure Performs (S : Solo) (main : ReadState) (got : List Value) (k : Nat) (m : Machine) : Prop where
  works : Works S.toSpan m
  sounds : ∃ rest n, S.Sounds main got rest n m.job (m.task? S.first) ∧ S.effort got n m ≤ k

theorem Performs.enqueue {k : Nat} {m : Machine} (h : S.Performs main got k m) :
    Working S.toSpan (m.enqueue S.pool) ∧ S.Performs main got k (m.enqueue S.pool) := by
  obtain ⟨rest, n, hsounds, hbound⟩ := h.sounds
  refine ⟨h.works.enqueue, h.works.enqueue.works, rest, n, hsounds.congr rfl rfl rfl rfl rfl, ?_⟩
  refine le_trans ?_ hbound
  set fresh := m.incoming.filter fun id => (m.poolTasks S.pool).any (·.1 == id)
  have hjob : (m.enqueue S.pool).job.ready = m.job.ready ++ fresh := rfl
  have hincoming : (m.enqueue S.pool).incoming = m.incoming.filter fun id => !fresh.contains id := rfl
  rw [effort, effort, hjob, hincoming]
  refine Nat.add_le_add_left ?_ _
  by_cases hfresh : S.first ∈ fresh
  · -- it is no longer about to be put on the ready list
    have hmem : S.first ∈ m.incoming := List.mem_of_mem_filter hfresh
    rw [if_pos (List.mem_append_right _ hfresh), if_neg (by simp [hfresh]), if_pos hmem]
    omega
  · have hready : S.first ∈ m.job.ready ++ fresh ↔ S.first ∈ m.job.ready := by simp [hfresh]
    have hwaiting : S.first ∈ (m.incoming.filter fun id => !fresh.contains id) ↔
        S.first ∈ m.incoming := by simp [hfresh]
    rw [if_congr hready rfl rfl, if_congr hwaiting rfl rfl]

/-- On a pool of its own every poll lowers the bound. -/
theorem wanes_performs (hone : S.count = 1) (hwatches : S.watches = []) (main : ReadState)
    (got : List Value) :
    Machine.Wanes S.pool fun k m => Working S.toSpan m ∧ S.Performs main got k m where
  poll := by
    rintro k m id t ⟨hworking, hperforms⟩ hhalt hready ht hpool
    obtain rfl : id = S.first := hworking.wired.eq_first hone hwatches ht hpool
    obtain ⟨rest, n, hsounds, hbound⟩ := hperforms.sounds
    obtain ⟨ended, m', rest', n', hpoll, hhalt', hsounds', hless⟩ := hsounds.pollTask ht hready
    have hgoes : ((m.unready S.first).pollTask n S.first t).2.halt = none := by
      rw [hpoll n le_rfl]
      exact hhalt'.trans hhalt
    have hworking' := (keeps_working S.toSpan).poll n hworking hready ht hpool hgoes
    rw [hpoll n le_rfl] at hworking'
    exact ⟨n, ended, m', hpoll, hhalt'.trans hhalt, S.effort got n' m', hless.trans_le hbound,
      hworking', hworking'.works, rest', n', hsounds', le_rfl⟩
  enqueue h := h.2.enqueue

/-- Where no task is ready while the main future waits, there would be nobody left to write: this does
not happen. -/
theorem Performs.not_stalled {k : Nat} {m : Machine} (h : S.Performs main got k m) (hone : S.count = 1)
    (hworking : Working S.toSpan m) (hnext : m.nextReady? S.pool = none) :
    ¬ ∃ p, m.job.pipes[S.base]? = some p ∧ p.parked ≠ [] := by
  rintro ⟨p, hp, hparked⟩
  obtain ⟨rest, n, hsounds, -⟩ := h.sounds
  obtain ⟨q, hq, hchannel, -⟩ := hsounds.pipe
  obtain rfl : q = p := Option.some.inj (hq.symm.trans hp)
  have hsound := hchannel.link.single.sound
  obtain hnone | ⟨t, ht⟩ := Option.eq_none_or_eq_some (m.task? S.first)
  · have hwriter := hchannel.link.writeClosed.symm.trans (hsound.parked hparked).2.2
    simp [hnone] at hwriter
  · have hcourse := hsounds.stage t ht
    have hzero : 0 < S.count := by omega
    have hfit := hworking.wired.fit 0 hzero t ht
    rcases hworking.wired.awake 0 hzero t ht with hnone | hready | hnew | hawaits
    · exact absurd hnone (by simp)
    · exact Machine.nextReady?_none hnext ht hfit.pool hready
    · exact absurd hnew List.not_mem_nil
    · unfold Job.Awaits at hawaits
      split at hawaits
      · obtain ⟨j, p, ticket, hj, -⟩ := hawaits
        rw [hcourse.input] at hj
        simp at hj
      · obtain ⟨j, p, hj, hp', hblocked⟩ := hawaits
        obtain rfl := Option.some.inj (hcourse.output.symm.trans hj)
        obtain rfl := Option.some.inj (hp'.symm.trans hp)
        exact hparked (hsound.not_parked (List.ne_nil_of_mem hblocked))
      · have hheld := hawaits.1
        rw [hcourse.timers] at hheld
        exact absurd hheld List.not_mem_nil
      · exact hawaits.elim

/-! ## The main future -/

/-- A future that reads the pipe to its end, and has received these items. -/
structure Collects (S : Solo) (c : Machine.Collector) (got : List Value) : Prop where
  pipe : c.pipe = S.base
  left : c.left = none
  items : c.items = got.reverse

/-- The main future changes the pipe, and nothing else. The job may have been put to sleep before. -/
theorem Sounds.mainMoves {p p' : Pipe Value} {events : List Pipe.Event}
    (h : S.Sounds main got rest n job task) (hcore : job'.core = job.core)
    (herrors : job'.errors = job.errors) (hp : job'.pipes[S.base]? = some p)
    (hchannel : p'.Channel S.name S.room (some main') task.isSome)
    (hall : got' ++ p'.stock ++ rest = S.out)
    (hheeds : ∀ ticket, main' = .parked ticket → (ticket, .main) ∈ p'.parked) :
    S.Sounds main' got' rest n (job'.store S.base p' events) task := by
  have hstored := (Job.core_store S.base p' events job').trans hcore
  have hreported : (job'.store S.base p' events).errors = job.errors :=
    (Job.Tells.store _ _ _).errors.trans herrors
  have hpipe := Job.store_self hp p' events
  refine ⟨(congrArg (·.2.1) hstored).trans h.level, ⟨p', hpipe, hchannel, hall⟩, fun t ht => ?_,
    fun hnone => ?_, fun ticket hticket => .inr ⟨p', hpipe, hheeds ticket hticket⟩⟩
  · exact (h.stage t ht).congr (congrArg (·.1) hstored) hreported
  · obtain ⟨hrest, hshell, hcomplaint⟩ := h.gone hnone
    exact ⟨hrest, (congrArg (·.1) hstored).trans hshell, hreported.trans hcomplaint⟩

/-- What a poll of the main future comes to: it is done, with everything received; or its read is parked,
and either it has received something, or nobody has been woken. -/
structure MainPolled (S : Solo) (got rest : List Value) (n : Nat) (job : Job) (task : Option Task)
    (done : Bool) (c : Machine.Collector) (got' : List Value) (job' : Job) : Prop where
  collects : S.Collects c got'
  sounds : S.Sounds c.reading got' rest n job' task
  later : got.length ≤ got'.length
  ends : done = true → c.reading = .fresh ∧ task = none ∧ got' = S.out
  waits : done = false → (∃ ticket, c.reading = .parked ticket ∧
      ∃ p, job'.pipes[S.base]? = some p ∧ p.parked ≠ []) ∧
    (got'.length = got.length → job'.ready = job.ready)

theorem Sounds.got_le (h : S.Sounds main got rest n job task) : got.length ≤ S.out.length := by
  obtain ⟨p, -, -, hall⟩ := h.pipe
  rw [← hall, List.length_append, List.length_append]
  omega

/-- The main future reads until it is done or has to wait. -/
theorem Sounds.pollMain {c : Machine.Collector} (h : S.Sounds c.reading got rest n job task)
    (hc : S.Collects c got) (asleep : Job) (hcore : asleep.core = job.core)
    (hpipes : asleep.pipes = job.pipes) (herrors : asleep.errors = job.errors) :
    ∃ done c' got' job',
      (∀ fuel > S.out.length - got.length, Machine.pollMain fuel c asleep = (done, c', job')) ∧
      S.MainPolled got rest n asleep task done c' got' job' := by
  -- each read that does not wait takes one of the items that are still to come
  induction hleft : S.out.length - got.length using Nat.strong_induction_on
    generalizing c got job asleep with
  | _ left ih =>
    subst hleft
    set st : Station := { input := some c.pipe, reading := c.reading } with hst
    have hinput : st.input = some S.base := congrArg some hc.pipe
    have hgoes : c.left ≠ some 0 := by simp [hc.left]
    obtain ⟨p, hp, hchannel, hall⟩ := h.pipe
    rw [← hpipes] at hp
    have hread := @Station.tryRead_eq st asleep .main _ p hinput hp
    rcases hchannel.pollRead .main with
      ⟨ticket, p', hpoll, hchannel', hparked, hempty, hempty'⟩ |
      ⟨v, p', events, hpoll, hchannel', hhead, -⟩ |
      ⟨p', events, hpoll, hchannel', hempty, hempty', hgone, -⟩ <;>
      rw [show st.reading = c.reading from rfl, hpoll] at hread
    · refine ⟨false, { c with reading := .parked ticket }, got, asleep.store S.base p' [],
        fun fuel hfuel => ?_, ⟨hc.pipe, hc.left, hc.items⟩, ?_, le_rfl, by simp, fun _ => ⟨⟨ticket, rfl, p',
          Job.store_self hp _ _, List.ne_nil_of_mem hparked⟩, fun _ => rfl⟩⟩
      · obtain ⟨fuel, rfl⟩ : ∃ k, fuel = k + 1 := ⟨fuel - 1, by omega⟩
        simp only [Machine.pollMain, if_neg hgoes, ← hst, hread]
      · refine h.mainMoves hcore herrors hp hchannel' ?_ fun ticket' hticket => ?_
        · rw [hempty', ← hempty]
          exact hall
        · obtain rfl : ticket = ticket' := by simpa using hticket
          exact hparked
    · -- an item has been taken
      have hsounds : S.Sounds .fresh (got ++ [v]) rest n (asleep.store S.base p' events) task := by
        refine h.mainMoves hcore herrors hp hchannel' ?_ (by simp)
        rw [← hall, hhead]
        simp
      have hle := hsounds.got_le
      rw [List.length_append, List.length_singleton] at hle
      have hcollects : S.Collects
          { c with reading := .fresh, items := v :: c.items, left := c.left.map (· - 1) }
          (got ++ [v]) :=
        ⟨hc.pipe, by rw [hc.left]; rfl, by rw [List.reverse_append, hc.items]; rfl⟩
      have hlonger : (got ++ [v]).length = got.length + 1 := by simp
      obtain ⟨done, c', got', job', hpoll', hpolled⟩ :=
        ih (S.out.length - (got ++ [v]).length) (by omega) hsounds hcollects _ rfl rfl rfl rfl
      have hlater := hpolled.later
      refine ⟨done, c', got', job', fun fuel hfuel => ?_, hpolled.collects, hpolled.sounds, by omega,
        hpolled.ends, fun hwaits => ⟨(hpolled.waits hwaits).1, fun hsame => absurd hsame (by omega)⟩⟩
      obtain ⟨fuel, rfl⟩ : ∃ k, fuel = k + 1 := ⟨fuel - 1, by omega⟩
      simp only [Machine.pollMain, if_neg hgoes, ← hst, hread]
      exact hpoll' fuel (by omega)
    · have hnone : task = none := by simpa using hgone
      obtain ⟨rfl, -⟩ := h.gone hnone
      have hgot : got = S.out := by simpa [hempty] using hall
      refine ⟨true, { c with reading := .fresh }, got, asleep.store S.base p' events, fun fuel hfuel => ?_,
        ⟨hc.pipe, hc.left, hc.items⟩, ?_, le_rfl, fun _ => ⟨rfl, hnone, hgot⟩, by simp⟩
      · obtain ⟨fuel, rfl⟩ : ∃ k, fuel = k + 1 := ⟨fuel - 1, by omega⟩
        simp only [Machine.pollMain, if_neg hgoes, ← hst, hread]
      · exact h.mainMoves hcore herrors hp hchannel' (by rw [hempty', ← hgot]; simp) (by simp)

/-! ## The line -/

/-- The main future has been polled, and has to wait. -/
theorem Performs.mainWaits {k : Nat} {m : Machine} (h : S.Performs main got k m) (hone : S.count = 1)
    (hwatches : S.watches = []) (hhalt : m.halt = none) {ticket : Nat} (hmain : main = .parked ticket)
    (hparked : ∃ p, m.job.pipes[S.base]? = some p ∧ p.parked ≠ []) :
    ∃ enough m', (∀ fuel ≥ enough, m.turn fuel S.pool = m') ∧ m'.halt = none ∧
      (m'.job.mainWoken || (m'.nextReady? S.pool).isSome) = true ∧
      ∃ k' < k, S.Performs main got k' m' := by
  obtain ⟨enough, m', hturn, hhalt', hawake, k', hless, -, hm'⟩ :=
    (wanes_performs hone hwatches main got).turn_wakes h.enqueue hhalt
      (fun hnext => h.enqueue.2.not_stalled hone h.enqueue.1 hnext hparked)
      fun {k m'} ⟨hworking, hlowered⟩ hnext => by
        obtain ⟨rest, n, hsounds, -⟩ := hlowered.sounds
        refine (hsounds.heeds ticket hmain).resolve_right fun ⟨p, hp, hmem⟩ => ?_
        exact hlowered.not_stalled hone hworking hnext ⟨p, hp, List.ne_nil_of_mem hmem⟩
  exact ⟨enough, m', hturn, hhalt', hawake, k', hless, hm'⟩

/-- A poll of the main future ends it with everything, or it has to wait and is polled again. -/
theorem hears_performs (S : Solo) (hone : S.count = 1) (hwatches : S.watches = []) :
    Machine.Hears S.pool
      (fun k c m => ∃ got, S.Collects c got ∧ S.Performs c.reading got k m)
      fun items m => items = S.out ∧ m.task? S.first = none ∧ ∃ k, S.Performs .fresh S.out k m where
  poll := by
    rintro k c m ⟨got, hc, hworks, rest, n, hsounds, hbound⟩ hhalt
    obtain ⟨done, c', got', job', hpoll, hpolled⟩ :=
      hsounds.pollMain hc { m.job with mainWoken := false } rfl rfl rfl
    have hpipe : c.pipe = S.base + (S.count - 1) := by
      rw [hone]
      exact hc.pipe
    have hworks' := hworks.pollMain (S.out.length - got.length + 1) hpipe
    rw [hpoll _ (Nat.lt_succ_self _)] at hworks'
    have hmoved : S.Performs c'.reading got' (S.effort got' n { m with job := job' })
        { m with job := job' } := ⟨hworks', rest, n, hpolled.sounds, le_rfl⟩
    refine ⟨S.out.length - got.length + 1, done, c', job', fun fuel hfuel => hpoll fuel hfuel,
      fun hdone => ?_, fun hwaits => ?_⟩
    · obtain ⟨hreading, hgone, rfl⟩ := hpolled.ends hdone
      rw [hreading] at hmoved
      exact ⟨by rw [hpolled.collects.items, List.reverse_reverse], hgone, _, hmoved⟩
    · obtain ⟨⟨ticket, hreading, hparked⟩, hready⟩ := hpolled.waits hwaits
      have hless : S.effort got' n { m with job := job' } ≤ k := by
        refine le_trans ?_ hbound
        rcases hpolled.later.eq_or_lt with hsame | hlater
        · have hready' : job'.ready = m.job.ready := hready hsame.symm
          rw [effort, effort, hready', hsame]
        · have hle := hpolled.sounds.got_le
          rw [effort, effort]
          dsimp only
          split <;> split <;> omega
      obtain ⟨enough, m', hturn, hhalt', hawake, k', hk', hm'⟩ :=
        hmoved.mainWaits hone hwatches hhalt hreading hparked
      exact ⟨enough, m', hturn, hhalt', hawake, k', hk'.trans_le hless, got', hpolled.collects, hm'⟩

/-- **The main future gets everything.** It comes to its end when the stage is over. -/
theorem Performs.runUntil {k : Nat} {m : Machine} {c : Machine.Collector}
    (h : S.Performs c.reading got k m) (hone : S.count = 1) (hwatches : S.watches = [])
    (hc : S.Collects c got) (hhalt : m.halt = none) :
    ∃ enough m', (∀ fuel ≥ enough, m.runUntil fuel S.pool c = (S.out, m')) ∧ m'.halt = none ∧
      m'.task? S.first = none ∧ ∃ k', S.Performs .fresh S.out k' m' := by
  obtain ⟨enough, items, m', hrun, hhalt', rfl, hgone, hread⟩ :=
    (S.hears_performs hone hwatches).runUntil ⟨got, hc, h⟩ hhalt
  exact ⟨enough, m', hrun, hhalt', hgone, hread⟩

/-- When the stage is over nobody is left in the pool. -/
theorem Performs.nobody {k : Nat} {m : Machine} (h : S.Performs main got k m) (hone : S.count = 1)
    (hwatches : S.watches = []) (hgone : m.task? S.first = none) : m.poolTasks S.pool = [] := by
  refine S.toSpan.nobody hwatches h.works fun i hi => ?_
  obtain rfl : i = 0 := by omega
  exact hgone

end Solo

end Pipework
