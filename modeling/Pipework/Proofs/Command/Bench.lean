import Pipework.Proofs.Command.Taking
import Pipework.Proofs.Job.Seated

/-!
# The input of a command on a bench

On a `Bench` an input is asked for items by one call after another, while the stage before it writes,
opens and releases writers as it likes, and the call under way is polled now and then. `Call.effect`
says what a call makes of a list: what it answers, and what it leaves.

However calls, polls and writes are interleaved, the answers are those that the list alone would give
which has the tokens first and then all that the stage before ever writes (`Bench.Faithful.run`).
The proof knows what is still to come, as `Station.Seated` does.
-/

namespace Pipework

namespace Input

/-! ## Calls -/

/-- What an input is asked for. -/
inductive Call where
  /-- One item. -/
  | next
  /-- Up to `n` items. -/
  | take (n : Nat)
  /-- The leading groups of flags. -/
  | flags
  /-- The flags, and then up to the required number of items. -/
  | required
  /-- Everything left. -/
  | rest
  deriving Repr, DecidableEq

namespace Call

/-- The program of a call. Its result is the items that it gives. -/
def program (o : Input) : Call → Behavior (List Value)
  | .next => do return (← o.next).toList
  | .take n => o.take n
  | .flags => do
    o.readFlags
    return []
  | .required => o.readRequired
  | .rest => o.rest

/-- There is room for the items that the call asks for. -/
def Fits (o : Input) : Call → Prop
  | .take n => n ≤ maxTake
  | .required => o.required ≤ maxTake
  | _ => True

instance (o : Input) (call : Call) : Decidable (call.Fits o) :=
  match call with
  | .take n => inferInstanceAs (Decidable (n ≤ maxTake))
  | .required => inferInstanceAs (Decidable (o.required ≤ maxTake))
  | .next | .flags | .rest => inferInstanceAs (Decidable True)

end Call

/-- What a list of items has come to: the flags that have been taken from its front, and the items
that are left. -/
structure Sheet where
  /-- The flags seen. -/
  flags : List Char
  /-- The items left, oldest first. -/
  items : List Value

/-- Take the leading groups of flags, if the input knows flags. -/
def takeFlags (o : Input) (s : Sheet) : Except ShellError Unit × Sheet :=
  match o.flags with
  | none => (.ok (), s)
  | some known =>
    let left := s.items.dropWhile (isGroup known.toList)
    (flagsAnswer known.toList left,
      { flags := s.flags ++ lettersOf (s.items.takeWhile (isGroup known.toList)), items := left })

/-- Without up to `n` items from the front. -/
def Sheet.drop (n : Nat) (s : Sheet) : Sheet := { s with items := s.items.drop n }

/-- What a call makes of a list: the answer, and what it leaves. -/
def Call.effect (o : Input) (s : Sheet) : Call → Except ShellError (List Value) × Sheet
  | .next => (.ok (s.items.take 1), s.drop 1)
  | .take n => (.ok (s.items.take n), s.drop n)
  | .flags =>
    match o.takeFlags s with
    | (.ok (), s) => (.ok [], s)
    | (.error e, s) => (.error e, s)
  | .required =>
    match o.takeFlags s with
    | (.ok (), s) => (.ok (s.items.take o.required), s.drop o.required)
    | (.error e, s) => (.error e, s)
  | .rest => (.ok (if o.flattens then flatten s.items else s.items), { s with items := [] })

/-- What several calls leave of a list. -/
def after (o : Input) (s : Sheet) (calls : List Call) : Sheet :=
  calls.foldl (fun s call => (call.effect o s).2) s

/-- Several calls with their answers. -/
def answers (o : Input) (s : Sheet) : List Call → List (Call × Except ShellError (List Value))
  | [] => []
  | call :: calls => (call, (call.effect o s).1) :: o.answers (call.effect o s).2 calls

section Effects

open Behavior

variable {o : Input} {d : Desk} {s : Sheet}

theorem yields_takeFlags (hd : d.Holds o s.flags s.items) :
    ∃ d', o.readFlags.Yields d [] ((o.takeFlags s).1, d') ∧
      d'.Holds o (o.takeFlags s).2.flags (o.takeFlags s).2.items := by
  cases hflags : o.flags with
  | none =>
    refine ⟨d, ?_, by simpa only [takeFlags, hflags] using hd⟩
    simp only [readFlags, takeFlags, hflags]
    exact yields_result d ()
  | some known =>
    obtain ⟨d', hread, hd'⟩ := yields_readFlags hflags hd
    refine ⟨d', ?_, by simpa only [takeFlags, hflags] using hd'⟩
    simpa only [takeFlags, hflags] using hread

/-- On its own a stage gives to a call the answer that its list gives. -/
theorem Call.yields {call : Call} (hfits : call.Fits o)
    (hd : d.Holds o s.flags s.items) :
    ∃ d', (call.program o).Yields d [] ((call.effect o s).1, d') ∧
      d'.Holds o (call.effect o s).2.flags (call.effect o s).2.items := by
  cases call with
  | next =>
    cases hitems : s.items with
    | nil =>
      rw [hitems] at hd
      obtain ⟨d', hnone, hd'⟩ := (feeds_next o s.flags).nil hd
      refine ⟨d', hnone.then ?_, by simpa [effect, Sheet.drop, hitems] using hd'⟩
      simp only [effect, hitems]
      exact yields_result d' _
    | cons v items =>
      rw [hitems] at hd
      obtain ⟨d', hone, hd'⟩ := (feeds_next o s.flags).cons hd
      refine ⟨d', hone.then ?_, by simpa [effect, Sheet.drop, hitems] using hd'⟩
      simp only [effect, hitems]
      exact yields_result d' _
  | take n => exact yields_take hfits hd
  | flags =>
    obtain ⟨d', hread, hd'⟩ := yields_takeFlags hd
    simp only [effect]
    rcases hflags : o.takeFlags s with ⟨e | u, s'⟩ <;> rw [hflags] at hread hd'
    · exact ⟨d', hread.bind_fail _, hd'⟩
    · exact ⟨d', hread.then (yields_result d' _), hd'⟩
  | required =>
    obtain ⟨d₁, hread, hd₁⟩ := yields_takeFlags hd
    simp only [effect]
    rcases hflags : o.takeFlags s with ⟨e | u, s₁⟩ <;> rw [hflags] at hread hd₁
    · exact ⟨d₁, hread.bind_fail _, hd₁⟩
    · obtain ⟨d', htake, hd'⟩ := yields_take hfits hd₁
      exact ⟨d', hread.then htake, hd'⟩
  | rest => exact yields_rest hd

end Effects

end Input

/-! ## The bench -/

/-- An input that is asked for items at a station. -/
structure Bench where
  /-- Where the calls run. -/
  station : Station
  /-- The job they run in. -/
  job : Job
  /-- The call that has been made, with what is left of its program. -/
  underway : Option (Input.Call × Behavior (List Value)) := none
  /-- The calls that are over, with their answers, oldest first. -/
  settled : List (Input.Call × Except ShellError (List Value)) := []
  /-- All that the other side has put into the pipe, oldest first. -/
  given : List Value := []
  /-- A call has ended the program. -/
  crashed : Bool := false

/-- What may happen on a bench. -/
inductive Bench.Move where
  /-- A call is made, if none is under way. -/
  | call (call : Input.Call)
  /-- The call under way is polled. -/
  | poll (fuel : Nat) (who : Waker)
  /-- The other side tries to write an item. -/
  | write (v : Value)
  /-- The other side polls a write. -/
  | pollWrite (who : Waker) (v : Value)
  /-- The other side opens a writer. -/
  | openWrite
  /-- The other side releases a writer. -/
  | closeWrite

namespace Bench

open Input

variable (o : Input)

/-- The input begins with these items. -/
def start (st : Station) (job : Job) (tokens : List Value) : Bench :=
  let (_, st, job) := st.run 3 .nobody job (o.openWith st.input.isSome tokens)
  { station := st, job := job, given := st.stock job }

/-- The other side uses its pipe; `f` tells with the new pipe which items it has put in. -/
def supply (f : Pipe Value → List Value × Pipe Value × List Pipe.Event) (b : Bench) : Bench :=
  match b.station.input with
  | none => b
  | some i =>
    let (sent, job) := b.job.query i [] f
    { b with job := job, given := b.given ++ sent }

/-- The call under way has been polled, and this has come of it. -/
def polled (call : Call) (b : Bench) : Progress (List Value) × Station × Job → Bench
  | (.done items, st, job) =>
    { b with station := st, job := job, underway := none, settled := b.settled ++ [(call, .ok items)] }
  | (.failed e, st, job) =>
    { b with station := st, job := job, underway := none, settled := b.settled ++ [(call, .error e)] }
  | (.crashed, st, job) => { b with station := st, job := job, underway := none, crashed := true }
  | (.waiting rest, st, job) | (.unfinished rest, st, job) =>
    { b with station := st, job := job, underway := some (call, rest) }

/-- What one move does. -/
def step (b : Bench) : Move → Bench
  | .call call =>
    match b.underway with
    | none => { b with underway := some (call, call.program o) }
    | some _ => b
  | .poll fuel who =>
    match b.underway with
    | none => b
    | some (call, rest) => b.polled call (b.station.run fuel who b.job rest)
  | .write v => b.supply fun p =>
    match p.tryWrite v with
    | (.ok (), p, events) => ([v], p, events)
    | (.error _, p, events) => ([], p, events)
  | .pollWrite who v => b.supply fun p =>
    match p.pollWrite who v with
    | (.ready (.ok ()), p, events) => ([v], p, events)
    | (_, p, events) => ([], p, events)
  | .openWrite => b.supply fun p => ([], p.openWrite)
  | .closeWrite => b.supply fun p => ([], p.closeWrite.2)

/-- What several moves do. -/
def run (b : Bench) (moves : List Move) : Bench := moves.foldl (step o) b

/-- The items that the next calls will take, as far as they are there: those in the queue, then those
in the pipe. -/
def left (b : Bench) : List Value :=
  b.station.arguments.queue ++ (b.station.stock b.job).map o.received

/-- If the move is a call, there is room for the items that it asks for. -/
def Move.Fits : Move → Prop
  | .call asked => asked.Fits o
  | _ => True

instance (move : Move) : Decidable (move.Fits o) :=
  match move with
  | .call call => inferInstanceAs (Decidable (call.Fits o))
  | .poll .. | .write _ | .pollWrite .. | .openWrite | .closeWrite => inferInstanceAs (Decidable True)

variable {o}

/-! ## The calls and the list -/

/-- The list that the calls take their items from, if these are the items still to come. -/
def sheet (o : Input) (tokens : List Value) (b : Bench) (coming : List Value) : Sheet :=
  { flags := [], items := tokens ++ (b.given ++ coming).map o.received }

/-- What the calls that are over have left of it. -/
def leftSheet (o : Input) (tokens : List Value) (b : Bench) (coming : List Value) : Sheet :=
  o.after (b.sheet o tokens coming) (b.settled.map (·.1))

/-- How the call under way stands with the desk `d`, given what is left of the list. -/
def Stands (o : Input) (b : Bench) (s : Sheet) (d : Desk) : Prop :=
  match b.underway with
  | none => d.Holds o s.flags s.items ∧ b.station.reading = .fresh
  | some (call, rest) => b.station.Poised rest ∧ ∃ d', rest.Yields d [] ((call.effect o s).1, d') ∧
      d'.Holds o (call.effect o s).2.flags (call.effect o s).2.items

/-- The answers are those of the list that has the tokens first, then what the other side has put into
the pipe and what it will still put there, whatever that is. -/
structure Faithful (o : Input) (tokens : List Value) (b : Bench) : Prop where
  crashed : b.crashed = false
  answered : ∀ coming, b.station.Open b.job ∨ coming = [] →
    b.settled = o.answers (b.sheet o tokens coming) (b.settled.map (·.1)) ∧
      ∃ d, b.station.Seated b.job coming d ∧ b.Stands o (b.leftSheet o tokens coming) d

/-- A station at which a command may begin: the job has not been interrupted, no read has been begun,
and nobody else reads the pipe. -/
structure Ready (st : Station) (job : Job) : Prop where
  level : job.level = 0
  reading : st.reading = .fresh
  fed : ∃ source, st.Fed job source

variable {tokens coming : List Value} {b : Bench} {st : Station} {job : Job}

theorem start_eq (o : Input) (st : Station) (job : Job) (tokens : List Value) :
    start o st job tokens =
      { station := { st with arguments := { queue := tokens } }
        job := job.log .debug "args"
          s!"{o.name}: queued {tokens.length} arg(s), stdin={st.input.isSome}"
        given := st.stock job } := rfl

theorem faithful_start (hst : Ready st job) (tokens : List Value) :
    Faithful o tokens (start o st job tokens) := by
  obtain ⟨source, hfed⟩ := hst.fed
  rw [start_eq]
  generalize hjob : job.log .debug "args" _ = job'
  have hpipes : job'.pipes = job.pipes := hjob ▸ rfl
  have hlevel : job'.level = 0 := hjob ▸ hst.level
  have hstock : st.stock job = ({ st with arguments := { queue := tokens } } : Station).stock job' := by
    simp only [Station.stock, hpipes]
  refine ⟨rfl, fun coming hcoming => ⟨rfl, ⟨{ queue := tokens }, source.map (·.stock ++ coming)⟩, ?_⟩⟩
  have hfed' : ({ st with arguments := { queue := tokens } } : Station).Fed job' source :=
    hfed.congr rfl rfl hpipes
  have hseated : ({ st with arguments := { queue := tokens } } : Station).Seated job' coming
      ⟨{ queue := tokens }, source.map (·.stock ++ coming)⟩ := by
    refine ⟨hlevel, rfl, source, hfed', rfl, fun p hp hclosed => hcoming.resolve_left ?_⟩
    rintro ⟨q, hq, hopen⟩
    obtain rfl := Option.some.inj ((hfed'.unique hq).symm.trans hp)
    simp [hclosed] at hopen
  refine ⟨hseated, ⟨rfl, ?_⟩, hst.reading⟩
  rw [hseated.getD_input hcoming, ← hstock]
  rfl

/-- A stage of a line is ready whose reader has just been opened on the pipe of the stage before. -/
theorem Ready.of_link {i : Nat} {p : Pipe Value} {writer : Bool} (hlevel : job.level = 0)
    (hreading : st.reading = .fresh) (hinput : st.input = some i) (hp : job.pipes[i]? = some p)
    (hlink : p.Link (some .fresh) writer) : Ready st job where
  level := hlevel
  reading := hreading
  fed := by
    obtain ⟨hstate, htickets⟩ := hlink.tickets .fresh rfl
    refine ⟨some p, .opened hinput hp hlink.readClosed hlink.single ?_ ?_⟩
    · rwa [hreading]
    · rwa [hreading]

/-- It reads from the only pipe of its job. -/
theorem ready_opened (name : String) (capacity : Nat) (shell : Shell) :
    Ready { input := some 0 }
      { shell := shell, pipes := #[(Pipe.create name capacity).1.openRead.1.openWrite.1] } := by
  have hlink : (Pipe.create name capacity : Pipe Value × _).1.openRead.1.openWrite.1.Link
      (some .fresh) true :=
    { single := (Pipe.single_create name capacity).openRead.openWrite
      readers := rfl
      writers := rfl
      readClosed := rfl
      writeClosed := rfl
      tickets := by
        rintro _ ⟨⟩
        exact ⟨by simp, rfl⟩ }
  exact .of_link rfl rfl rfl rfl hlink

/-! ## One move -/

theorem after_concat (o : Input) (s : Sheet) (calls : List Call) (call : Call) :
    o.after s (calls ++ [call]) = (call.effect o (o.after s calls)).2 := by
  rw [Input.after, List.foldl_append]
  rfl

theorem answers_append (o : Input) (s : Sheet) (calls more : List Call) :
    o.answers s (calls ++ more) = o.answers s calls ++ o.answers (o.after s calls) more := by
  induction calls generalizing s with
  | nil => rfl
  | cons call calls ih =>
    show _ :: o.answers _ (calls ++ more) = _ :: (o.answers _ calls ++ _)
    rw [ih]
    rfl

theorem Faithful.call (h : Faithful o tokens b) {call : Call}
    (hfits : call.Fits o) : Faithful o tokens (b.step o (.call call)) := by
  simp only [step]
  cases hunderway : b.underway with
  | some call => exact h
  | none =>
    refine ⟨h.crashed, fun coming hcoming => ?_⟩
    obtain ⟨hanswers, d, hseated, hstands⟩ := h.answered coming hcoming
    refine ⟨hanswers, d, hseated, ?_⟩
    simp only [Stands, hunderway] at hstands
    obtain ⟨d', hyields, hd'⟩ := call.yields hfits hstands.1
    exact ⟨.inl hstands.2, d', hyields, hd'⟩

/-- A call that is over has had the answer of the list. -/
theorem Faithful.settle {call : Call} {answer : Except ShellError (List Value)} {b' : Bench}
    {coming : List Value} {d : Desk}
    (hanswers : b.settled = o.answers (b.sheet o tokens coming) (b.settled.map (·.1)))
    (hanswer : (call.effect o (b.leftSheet o tokens coming)).1 = answer)
    (hsettled : b'.settled = b.settled ++ [(call, answer)]) (hgiven : b'.given = b.given)
    (hunderway : b'.underway = none) (hreading : b'.station.reading = .fresh)
    (hseated : b'.station.Seated b'.job coming d)
    (hd : d.Holds o (call.effect o (b.leftSheet o tokens coming)).2.flags
      (call.effect o (b.leftSheet o tokens coming)).2.items) :
    b'.settled = o.answers (b'.sheet o tokens coming) (b'.settled.map (·.1)) ∧
      ∃ d, b'.station.Seated b'.job coming d ∧ b'.Stands o (b'.leftSheet o tokens coming) d := by
  have hsheet : b'.sheet o tokens coming = b.sheet o tokens coming := by rw [sheet, sheet, hgiven]
  have hleft : b'.leftSheet o tokens coming = (call.effect o (b.leftSheet o tokens coming)).2 := by
    rw [leftSheet, hsheet, hsettled, List.map_append, List.map_singleton, after_concat]
    rfl
  refine ⟨?_, d, hseated, ?_⟩
  · rw [hsheet, hsettled, List.map_append, List.map_singleton, answers_append, ← hanswers]
    show _ = _ ++ [(call, (call.effect o (b.leftSheet o tokens coming)).1)]
    rw [hanswer]
  · simp only [Stands, hunderway, hleft]
    exact ⟨hd, hreading⟩

/-- A poll agrees with the call's effect on the list, and comes to an end or waits if it has enough
steps. -/
theorem Faithful.agrees (h : Faithful o tokens b) {call : Call} {rest : Behavior (List Value)}
    (hunderway : b.underway = some (call, rest)) {coming : List Value}
    (hcoming : b.station.Open b.job ∨ coming = []) :
    ∃ n d', d'.Holds o (call.effect o (b.leftSheet o tokens coming)).2.flags
        (call.effect o (b.leftSheet o tokens coming)).2.items ∧
      ∀ fuel who,
        Station.Agrees b.station b.job coming ((call.effect o (b.leftSheet o tokens coming)).1, d')
          (b.station.run fuel who b.job rest) ∧
        (n ≤ fuel → ∀ rest' st' job',
          b.station.run fuel who b.job rest ≠ (.unfinished rest', st', job')) := by
  obtain ⟨-, d, hseated, hstands⟩ := h.answered coming hcoming
  simp only [Stands, hunderway] at hstands
  obtain ⟨hpoised, d', ⟨n, hruns⟩, hd'⟩ := hstands
  exact ⟨n, d', hd', hseated.run hruns hpoised⟩

theorem Faithful.polled (h : Faithful o tokens b) {call : Call} {rest : Behavior (List Value)}
    (hunderway : b.underway = some (call, rest)) (fuel : Nat) (who : Waker) :
    Faithful o tokens (b.polled call (b.station.run fuel who b.job rest)) := by
  -- how the poll ends does not depend on what is still to come
  obtain ⟨_, _, -, hnow⟩ := h.agrees hunderway (.inr rfl)
  have hnow := (hnow fuel who).1
  rcases hrun : b.station.run fuel who b.job rest with ⟨items | e | _ | rest' | rest', st', job'⟩ <;>
    rw [hrun] at hnow
  · refine ⟨h.crashed, fun coming hcoming => ?_⟩
    have hbefore := hcoming.imp_left hnow.2.1.opens
    obtain ⟨_, d', hd', hagrees⟩ := h.agrees hunderway hbefore
    obtain ⟨hanswer, hkeeps, hfresh⟩ := hrun ▸ (hagrees fuel who).1
    exact Faithful.settle (h.answered coming hbefore).1 hanswer rfl rfl rfl hfresh hkeeps.seated hd'
  · refine ⟨h.crashed, fun coming hcoming => ?_⟩
    have hbefore := hcoming.imp_left hnow.2.1.opens
    obtain ⟨_, d', hd', hagrees⟩ := h.agrees hunderway hbefore
    obtain ⟨hanswer, hkeeps, hfresh⟩ := hrun ▸ (hagrees fuel who).1
    exact Faithful.settle (h.answered coming hbefore).1 hanswer rfl rfl rfl hfresh hkeeps.seated hd'
  · exact hnow.elim
  · obtain ⟨_, _, hkept, -⟩ := hnow
    refine ⟨h.crashed, fun coming hcoming => ?_⟩
    have hbefore := hcoming.imp_left hkept.opens
    obtain ⟨_, d', hd', hagrees⟩ := h.agrees hunderway hbefore
    obtain ⟨d₁, hyields, hkeeps, hpoised, -⟩ := hrun ▸ (hagrees fuel who).1
    exact ⟨(h.answered coming hbefore).1, d₁, hkeeps.seated, hpoised, d', hyields, hd'⟩
  · obtain ⟨_, _, hkept, -⟩ := hnow
    refine ⟨h.crashed, fun coming hcoming => ?_⟩
    have hbefore := hcoming.imp_left hkept.opens
    obtain ⟨_, d', hd', hagrees⟩ := h.agrees hunderway hbefore
    obtain ⟨d₁, hyields, hkeeps, hpoised⟩ := hrun ▸ (hagrees fuel who).1
    exact ⟨(h.answered coming hbefore).1, d₁, hkeeps.seated, hpoised, d', hyields, hd'⟩

theorem Faithful.poll (h : Faithful o tokens b) (fuel : Nat) (who : Waker) :
    Faithful o tokens (b.step o (.poll fuel who)) := by
  simp only [step]
  split
  · exact h
  · rename_i hunderway
    exact h.polled hunderway fuel who

/-- What the other side does to the pipe, with the items that it puts in. -/
def Supplying (f : Pipe Value → List Value × Pipe Value × List Pipe.Event) : Prop :=
  ∀ p, Station.Supplies p (f p).2.1 (f p).1

theorem Faithful.supply (h : Faithful o tokens b)
    {f : Pipe Value → List Value × Pipe Value × List Pipe.Event} (hf : Supplying f) :
    Faithful o tokens (b.supply f) := by
  unfold Bench.supply
  cases hinput : b.station.input with
  | none => exact h
  | some i =>
    cases hp : b.job.pipes[i]? with
    | none => simpa [Job.query, hp] using h
    | some p =>
      simp only [Job.query_eq hp]
      refine ⟨h.crashed, fun coming hcoming => ?_⟩
      obtain ⟨-, d₀, hseated₀, -⟩ := h.answered [] (.inr rfl)
      obtain ⟨source, hfed, -, -⟩ := hseated₀.input
      -- what has been put in just now was still to come before
      have hbefore : b.station.Open b.job ∨ (f p).1 ++ coming = [] := by
        by_cases hsent : (f p).1 = []
        · rcases hcoming with hopen | rfl
          · exact .inl (hfed.open_of_supplied (f p).2.2 hinput hp (hf p) (.inl hopen))
          · exact .inr (by rw [hsent]; rfl)
        · exact .inl (hfed.open_of_supplied (f p).2.2 hinput hp (hf p) (.inr hsent))
      obtain ⟨hanswers, d, hseated, hstands⟩ := h.answered _ hbefore
      have hsheet : ∀ b' : Bench, b'.given = b.given ++ (f p).1 →
          b'.sheet o tokens coming = b.sheet o tokens ((f p).1 ++ coming) := by
        intro b' hgiven
        rw [sheet, sheet, hgiven, List.append_assoc]
      refine ⟨?_, d, hseated.supplied hinput hp (hf p) (f p).2.2 hcoming, ?_⟩
      · rw [hsheet _ rfl]
        exact hanswers
      · rw [leftSheet, hsheet _ rfl]
        exact hstands

theorem supplying_write (v : Value) : Supplying fun p =>
    match p.tryWrite v with
    | (.ok (), p, events) => ([v], p, events)
    | (.error _, p, events) => ([], p, events) := by
  intro p
  have hoffer := Station.supplies_offer p v none
  simp only [Pipe.tryWrite]
  rcases hanswer : p.offer v none with ⟨_ | _ | _, p', events⟩ <;>
    rw [hanswer] at hoffer <;> simpa using hoffer

theorem supplying_pollWrite (who : Waker) (v : Value) : Supplying fun p =>
    match p.pollWrite who v with
    | (.ready (.ok ()), p, events) => ([v], p, events)
    | (_, p, events) => ([], p, events) := by
  intro p
  have hoffer := Station.supplies_offer p v (some who)
  simp only [Pipe.pollWrite]
  rcases hanswer : p.offer v (some who) with ⟨_ | _ | _, p', events⟩ <;>
    rw [hanswer] at hoffer <;> simpa using hoffer

theorem supplying_openWrite : Supplying fun p => ([], p.openWrite) := Station.supplies_openWrite

theorem supplying_closeWrite : Supplying fun p => ([], p.closeWrite.2) := Station.supplies_closeWrite

/-- **One move keeps the answers those of the list.** -/
theorem Faithful.step (h : Faithful o tokens b) {move : Move} (hfit : move.Fits o) :
    Faithful o tokens (b.step o move) := by
  cases move with
  | call call => exact h.call hfit
  | poll fuel who => exact h.poll fuel who
  | write v => exact h.supply (supplying_write v)
  | pollWrite who v => exact h.supply (supplying_pollWrite who v)
  | openWrite => exact h.supply supplying_openWrite
  | closeWrite => exact h.supply supplying_closeWrite

/-- The answers are those of the list, however calls, polls and writes are interleaved. -/
theorem Faithful.run (h : Faithful o tokens b) {moves : List Move}
    (hfit : ∀ move ∈ moves, move.Fits o) : Faithful o tokens (b.run o moves) := by
  induction moves generalizing b with
  | nil => exact h
  | cons move moves ih =>
    rw [List.forall_mem_cons] at hfit
    exact ih (h.step hfit.1) hfit.2

end Bench

end Pipework
