import Pipework.Proofs.Job.Actions
import Pipework.Proofs.Job.Alone
import Pipework.Proofs.Pipe.Link

/-!
# A stage at its station, as a stage on its own

At its station a stage may have to wait for input. What it makes of the input is what it would make of
it at a desk (`Desk`) that has all the items from the beginning: those that its pipe holds, and those
still to come.

* `Station.Fed` — the reader of the station is open on a pipe that nobody else reads, or gives nothing;
* `Station.Seated st job coming d` — with the items `coming` still to come, the desk `d` has what the
  station has;
* `Station.Seated.run` — a behavior that runs at the desk, and writes nothing, is brought to the same end
  at the station, or it waits for input; what is left of it then still runs to that end.

The items to come are whatever the other side will still write, so these facts are used for all of them
at once.
-/

namespace Pipework

/-- The behavior begins with a read. -/
def Behavior.BeginsRead {α : Type} : Behavior α → Prop
  | .act .read _ => True
  | _ => False

namespace Station

/-! ## The reader -/

/-- The reader of the station, with its pipe if it is open there. -/
inductive Fed (st : Station) (job : Job) : Option (Pipe Value) → Prop where
  /-- There is no reader. -/
  | absent (hinput : st.input = none) (hfresh : st.reading = .fresh) : Fed st job none
  /-- The pipe has been closed for reading. -/
  | shut {i : Nat} {p : Pipe Value} (hinput : st.input = some i) (hp : job.pipes[i]? = some p)
    (hclosed : p.readClosed = true) (hempty : p.stock = []) (hfresh : st.reading = .fresh) :
    Fed st job none
  /-- The pipe is open for reading, and nobody else reads it. -/
  | opened {i : Nat} {p : Pipe Value} (hinput : st.input = some i) (hp : job.pipes[i]? = some p)
    (hopen : p.readClosed = false) (hsingle : p.Single) (hreading : st.reading ≠ .finished)
    (htickets : p.tickets = st.reading.ticket?.toList) : Fed st job (some p)

/-- Items may still come: the pipe is open on both sides. -/
def Open (st : Station) (job : Job) : Prop := ∃ p, st.Fed job (some p) ∧ p.writeClosed = false

/-- The reader waits: there is nothing to take, and items may still come. -/
def Parked (st : Station) (job : Job) : Prop :=
  ∃ p, st.Fed job (some p) ∧ p.stock = [] ∧ p.writeClosed = false

/-- With these items still to come the desk has what the station has. -/
structure Seated (st : Station) (job : Job) (coming : List Value) (d : Desk) : Prop where
  level : job.level = 0
  arguments : d.arguments = st.arguments
  /-- What its pipe holds comes before what is still to come, which is nothing once the pipe has been
  closed for writing. -/
  input : ∃ source, st.Fed job source ∧ d.input = source.map (fun p => p.stock ++ coming) ∧
    ∀ p ∈ source, p.writeClosed = true → coming = []

variable {st st' : Station} {job job' : Job} {source : Option (Pipe Value)} {coming : List Value}
  {d d' : Desk} {α β : Type}

/-- Only the pipes matter, not the rest of the job. -/
theorem Fed.congr (h : st.Fed job source) (hinput : st'.input = st.input)
    (hreading : st'.reading = st.reading) (hpipes : job'.pipes = job.pipes) : st'.Fed job' source := by
  cases h with
  | absent h hfresh => exact .absent (hinput.trans h) (hreading.trans hfresh)
  | shut h hp hclosed hempty hfresh =>
    exact .shut (hinput.trans h) (hpipes ▸ hp) hclosed hempty (hreading.trans hfresh)
  | opened h hp hopen hsingle hstate htickets =>
    exact .opened (hinput.trans h) (hpipes ▸ hp) hopen hsingle (hreading ▸ hstate) (hreading ▸ htickets)

/-- There is one reader. -/
theorem Fed.unique {source' : Option (Pipe Value)} (h : st.Fed job source) (h' : st.Fed job source') :
    source = source' := by
  cases h <;> cases h' <;> simp_all

/-- The reader is closed, or there is none, exactly if it gives nothing. -/
theorem Fed.orAbsent (h : st.Fed job source) :
    Station.orAbsent st.input job (·.readClosed) = source.isNone := by
  cases h with
  | absent hinput => simp [Station.orAbsent, hinput]
  | shut hinput hp hclosed => simp [Station.orAbsent, hinput, hp, hclosed]
  | opened hinput hp hopen => simp [Station.orAbsent, hinput, hp, hopen]

theorem station_closeInput (st : Station) (job : Job) :
    (st.closeInput job).1 = { st with input := none } := by
  obtain ⟨_ | i, _, _, _, _, _⟩ := st <;> rfl

theorem level_closeInput (st : Station) (job : Job) : (st.closeInput job).2.level = job.level := by
  unfold closeInput
  split
  · rename_i i _
    cases hp : job.pipes[i]? with
    | none => simp [Job.closeRead, Job.query, hp]
    | some p => simp [Job.closeRead, Job.query_eq hp, Job.store]
  · rfl

/-- What one action of the stage keeps: the desk, now `d'`, has what the station has, and no items come
that could not have come before. -/
structure Keeps (st : Station) (job : Job) (coming : List Value) (st' : Station) (job' : Job)
    (d' : Desk) : Prop where
  seated : st'.Seated job' coming d'
  opens : st'.Open job' → st.Open job

/-- An action that changes neither the reader nor the pipes. -/
theorem Seated.keeps (h : st.Seated job coming d) (hinput : st'.input = st.input)
    (hreading : st'.reading = st.reading) (hpipes : job'.pipes = job.pipes)
    (hlevel : job'.level = job.level) (harguments : d'.arguments = st'.arguments)
    (hd : d'.input = d.input) : Keeps st job coming st' job' d' where
  seated :=
    have ⟨source, hfed, hstock, hcoming⟩ := h.input
    ⟨hlevel.trans h.level, harguments, source, hfed.congr hinput hreading hpipes, hd.trans hstock,
      hcoming⟩
  opens := fun ⟨p, hfed, hopen⟩ =>
    ⟨p, hfed.congr hinput.symm hreading.symm hpipes.symm, hopen⟩

/-- What a read finds: nothing for good, the head of what its pipe holds, or nothing yet. -/
theorem Seated.tryRead (h : st.Seated job coming d) (who : Waker) :
    (∃ answer d' st' job', d.answer .read = some (answer, [], d') ∧
      st.tryRead who job = (.ready answer, st', job') ∧ Keeps st job coming st' job' d' ∧
      st'.reading = .fresh) ∨
    ∃ st' job', st.tryRead who job = (.pending, st', job') ∧ Keeps st job coming st' job' d ∧
      st'.Parked job' := by
  obtain ⟨arguments, input⟩ := d
  obtain ⟨hlevel, harguments, source, hfed, rfl, hcoming⟩ := h
  cases hfed with
  | absent hinput hfresh =>
    refine .inl ⟨none, _, st, job, rfl, tryRead_none hinput, ⟨⟨hlevel, harguments, none, ?_⟩, id⟩,
      hfresh⟩
    exact ⟨.absent hinput hfresh, rfl, hcoming⟩
  | @shut i p hinput hp hclosed hempty hfresh =>
    have hpoll : p.pollRead who st.reading = (.ready none, .finished, p, []) := by
      rw [hfresh]
      simp [Pipe.pollRead, hclosed]
    have hfed : ({ st with reading := .fresh } : Station).Fed (job.store i p []) none :=
      .shut hinput (Job.store_self hp p []) hclosed hempty rfl
    refine .inl ⟨none, _, { st with reading := .fresh }, job.store i p [], rfl, ?_,
      ⟨⟨hlevel, harguments, none, hfed, rfl, hcoming⟩, ?_⟩, rfl⟩
    · rw [tryRead_eq hinput hp, hpoll]
    · rintro ⟨q, hopen, -⟩
      exact absurd (hfed.unique hopen) (by simp)
  | @opened i p hinput hp hopen hsingle hreading htickets =>
    have hends := p.sameEnds_pollRead who st.reading
    have hsingle' := hsingle.pollRead who htickets
    have hfed : st.Fed job (some p) := .opened hinput hp hopen hsingle hreading htickets
    rw [tryRead_eq hinput hp]
    -- the pipe after the poll is open as before, and read in the state that the poll has left
    have hkeeps : ∀ (p' : Pipe Value) (events : List Pipe.Event) (reading : ReadState)
        (input : Option (List Value)), Pipe.SameEnds p p' → p'.Single → reading ≠ .finished →
        p'.tickets = reading.ticket?.toList → input = some (p'.stock ++ coming) →
        Keeps st job coming { st with reading := reading } (job.store i p' events) ⟨arguments, input⟩ := by
      intro p' events reading input hends hsingle hreading htickets hinput'
      have hfed' : ({ st with reading := reading } : Station).Fed (job.store i p' events) (some p') :=
        .opened hinput (Job.store_self hp p' events) (hends.readClosed.trans hopen) hsingle hreading
          htickets
      refine ⟨⟨by simpa [Job.store] using hlevel, harguments, some p', hfed', hinput', ?_⟩, ?_⟩
      · rintro _ ⟨⟩ hclosed
        exact hcoming p rfl (hends.writeClosed ▸ hclosed)
      · rintro ⟨q, hq, hwrite⟩
        obtain rfl : p' = q := Option.some.inj (hfed'.unique hq)
        exact ⟨p, hfed, hends.writeClosed ▸ hwrite⟩
    obtain ⟨ticket, p', hpoll, hparked, htickets', hstock, hstock'⟩ |
      ⟨v, p', events, hpoll, htickets', hstock⟩ |
      ⟨p', events, hpoll, htickets', hstock, hstock', hclosed⟩ :=
        hsingle.poll who htickets hreading hopen <;>
      rw [hpoll] at hends hsingle' ⊢
    · have hkept := hkeeps p' [] (.parked ticket) (some (p.stock ++ coming)) hends hsingle' (by simp)
        htickets' (by rw [hstock, hstock'])
      refine .inr ⟨_, _, rfl, hkept, p', ?_, hstock', ?_⟩
      · exact .opened hinput (Job.store_self hp p' []) (hends.readClosed.trans hopen) hsingle' (by simp)
          htickets'
      · exact (hsingle'.sound.parked (List.ne_nil_of_mem hparked)).2.2
    · refine .inl ⟨some v, ⟨arguments, some (p'.stock ++ coming)⟩, _, _, ?_, rfl, hkeeps p' events .fresh _
        hends hsingle' (by simp) htickets' rfl, rfl⟩
      simp [Desk.answer, hstock]
    · obtain rfl : coming = [] := hcoming p rfl hclosed
      refine .inl ⟨none, ⟨arguments, some (p'.stock ++ [])⟩, _, _, ?_, rfl, hkeeps p' events .fresh _
        hends hsingle' (by simp) htickets' rfl, rfl⟩
      simp [Desk.answer, hstock, hstock']

/-! ## Actions and runs -/

/-- The station is at the beginning of the behavior: no read has been begun but the one that comes
next. -/
def Poised (st : Station) (b : Behavior α) : Prop := st.reading = .fresh ∨ b.BeginsRead

/-- An action that the desk answers, and that writes nothing, is answered in the same way, or it is a read
that has to wait. -/
theorem Seated.attempt {action : Action β} {next : β → Behavior α} {answer : β}
    (h : st.Seated job coming d) (hanswer : d.answer action = some (answer, [], d'))
    (hpoised : st.Poised (.act action next)) (who : Waker) :
    (∃ st' job', st.attempt who action job = (.ready answer, st', job') ∧
      Keeps st job coming st' job' d' ∧ st'.reading = .fresh) ∨
    ∃ st' job', st.attempt who action job = (.pending, st', job') ∧ Keeps st job coming st' job' d ∧
      st'.Parked job' ∧ (Behavior.act action next).BeginsRead := by
  cases action with
  | read =>
    obtain ⟨answer', d₁, st', job', hdesk, hread, hkeeps, hfresh⟩ | ⟨st', job', hread, hkeeps, hparked⟩ :=
      h.tryRead who
    · obtain ⟨rfl, -, rfl⟩ :=
        Prod.mk.inj (Option.some.inj (hdesk.symm.trans hanswer)) |>.imp_right Prod.mk.inj
      exact .inl ⟨st', job', hread, hkeeps, hfresh⟩
    · exact .inr ⟨st', job', hread, hkeeps, hparked, trivial⟩
  | write v => simp [Desk.answer] at hanswer
  | closeInput =>
    have hfresh : st.reading = .fresh := hpoised.resolve_right id
    obtain rfl : { d with input := none } = d' := by simpa [Desk.answer] using hanswer
    have hfed : { st with input := none }.Fed (st.closeInput job).2 none := .absent rfl hfresh
    refine .inl ⟨{ st with input := none }, (st.closeInput job).2, ?_,
      ⟨⟨?_, h.arguments, none, hfed, rfl, by simp⟩, ?_⟩, hfresh⟩
    · rw [← station_closeInput st job]
      rfl
    · rw [level_closeInput]
      exact h.level
    · rintro ⟨p, hopen, -⟩
      exact absurd (hfed.unique hopen) (by simp)
  | inputClosed =>
    have hfresh : st.reading = .fresh := hpoised.resolve_right id
    obtain ⟨rfl, rfl⟩ : d.input.isNone = answer ∧ d = d' := by simpa [Desk.answer] using hanswer
    refine .inl ⟨st, job, ?_, h.keeps rfl rfl rfl rfl h.arguments rfl, hfresh⟩
    obtain ⟨source, hfed, hinput, -⟩ := h.input
    rw [Station.attempt, hfed.orAbsent, hinput, Option.isNone_map]
  | level =>
    have hfresh : st.reading = .fresh := hpoised.resolve_right id
    obtain ⟨rfl, rfl⟩ : 0 = answer ∧ d = d' := by simpa [Desk.answer] using hanswer
    refine .inl ⟨st, job, ?_, h.keeps rfl rfl rfl rfl h.arguments rfl, hfresh⟩
    rw [Station.attempt, h.level]
  | log level subsystem message =>
    have hfresh : st.reading = .fresh := hpoised.resolve_right id
    obtain rfl : d = d' := by simpa [Desk.answer] using hanswer
    exact .inl ⟨st, _, rfl, h.keeps rfl rfl rfl rfl h.arguments rfl, hfresh⟩
  | report message =>
    have hfresh : st.reading = .fresh := hpoised.resolve_right id
    obtain rfl : d = d' := by simpa [Desk.answer] using hanswer
    exact .inl ⟨st, _, rfl, h.keeps rfl rfl rfl rfl h.arguments rfl, hfresh⟩
  | arguments =>
    have hfresh : st.reading = .fresh := hpoised.resolve_right id
    obtain ⟨rfl, rfl⟩ : d.arguments = answer ∧ d = d' := by simpa [Desk.answer] using hanswer
    refine .inl ⟨st, job, ?_, h.keeps rfl rfl rfl rfl h.arguments rfl, hfresh⟩
    rw [Station.attempt, h.arguments]
  | setArguments a =>
    have hfresh : st.reading = .fresh := hpoised.resolve_right id
    obtain rfl : { d with arguments := a } = d' := by simpa [Desk.answer] using hanswer
    exact .inl ⟨{ st with arguments := a }, job, rfl, h.keeps rfl rfl rfl rfl rfl rfl, hfresh⟩
  | _ => simp [Desk.answer] at hanswer

/-- What a run at the desk to the end `r` makes of a run at the station: it comes to this end, or what is
left of it still runs to it. -/
def Agrees (st : Station) (job : Job) (coming : List Value) (r : Except ShellError α × Desk) :
    Progress α × Station × Job → Prop
  | (.done a, st', job') => r.1 = .ok a ∧ Keeps st job coming st' job' r.2 ∧ st'.reading = .fresh
  | (.failed e, st', job') => r.1 = .error e ∧ Keeps st job coming st' job' r.2 ∧ st'.reading = .fresh
  | (.crashed, _, _) => False
  | (.waiting rest, st', job') => ∃ d', rest.Yields d' [] r ∧ Keeps st job coming st' job' d' ∧
      st'.Poised rest ∧ st'.Parked job'
  | (.unfinished rest, st', job') => ∃ d', rest.Yields d' [] r ∧ Keeps st job coming st' job' d' ∧
      st'.Poised rest

theorem Keeps.trans {coming : List Value} {st'' : Station} {job'' : Job} {d' d'' : Desk}
    (h : Keeps st job coming st' job' d') (h' : Keeps st' job' coming st'' job'' d'') :
    Keeps st job coming st'' job'' d'' :=
  ⟨h'.seated, fun hopen => h.opens (h'.opens hopen)⟩

theorem Agrees.trans {r : Except ShellError α × Desk} {outcome : Progress α × Station × Job}
    (h : Keeps st job coming st' job' d') (h' : Agrees st' job' coming r outcome) :
    Agrees st job coming r outcome := by
  rcases outcome with ⟨_ | _ | _ | _ | _, st'', job''⟩
  · exact ⟨h'.1, h.trans h'.2.1, h'.2.2⟩
  · exact ⟨h'.1, h.trans h'.2.1, h'.2.2⟩
  · exact h'
  · obtain ⟨d'', hyields, hkeeps, hrest⟩ := h'
    exact ⟨d'', hyields, h.trans hkeeps, hrest⟩
  · obtain ⟨d'', hyields, hkeeps, hrest⟩ := h'
    exact ⟨d'', hyields, h.trans hkeeps, hrest⟩

theorem Seated.refl (h : st.Seated job coming d) : Keeps st job coming st job d := ⟨h, id⟩

/-- **A run at a station, where reads may wait, agrees with the run at the desk.** With as many steps as
the run at the desk takes it is over, or it waits. -/
theorem Seated.run {n : Nat} {b : Behavior α} {r : Except ShellError α × Desk} (h : st.Seated job coming d)
    (hb : b.Runs n d [] r) (hpoised : st.Poised b) (fuel : Nat) (who : Waker) :
    Agrees st job coming r (st.run fuel who job b) ∧
      (n ≤ fuel → ∀ rest st' job', st.run fuel who job b ≠ (.unfinished rest, st', job')) := by
  induction fuel generalizing n b st job d with
  | zero =>
    refine ⟨⟨d, ⟨n, hb⟩, h.refl, hpoised⟩, fun hn => ?_⟩
    obtain rfl : n = 0 := Nat.le_zero.mp hn
    exact hb.elim
  | succ fuel ih =>
    cases n with
    | zero => exact hb.elim
    | succ n =>
      cases b with
      | result a =>
        obtain ⟨-, rfl⟩ := hb
        exact ⟨⟨rfl, h.refl, hpoised.resolve_right id⟩, by simp [Station.run]⟩
      | fail e =>
        obtain ⟨-, rfl⟩ := hb
        exact ⟨⟨rfl, h.refl, hpoised.resolve_right id⟩, by simp [Station.run]⟩
      | crash => exact hb.elim
      | loop s body next =>
        have hround : (Behavior.unfold s body next).Runs n d [] r := hb
        obtain ⟨hagrees, hover⟩ := ih h hround (.inl (hpoised.resolve_right id))
        exact ⟨hagrees, fun hn => hover (by omega)⟩
      | act action next =>
        obtain ⟨answer, written, d', rest, hanswer, -, hout, hrest⟩ := hb
        obtain ⟨rfl, rfl⟩ : written = [] ∧ rest = [] := by simpa using hout
        obtain ⟨st', job', hattempt, hkeeps, hfresh⟩ | ⟨st', job', hattempt, hkeeps, hparked, hread⟩ :=
          h.attempt hanswer hpoised who
        · obtain ⟨hagrees, hover⟩ := ih hkeeps.seated hrest (.inl hfresh)
          simp only [Station.run, hattempt]
          exact ⟨hagrees.trans hkeeps, fun hn => hover (by omega)⟩
        · simp only [Station.run, hattempt]
          refine ⟨⟨d, ⟨n + 1, answer, [], d', [], hanswer, ?_, rfl, hrest⟩, hkeeps, .inr hread, hparked⟩,
            by simp⟩
          cases action with
          | write v => exact absurd hanswer (by simp [Desk.answer])
          | _ => trivial

/-! ## The other side -/

/-- What the pipe of the reader holds. -/
def stock (st : Station) (job : Job) : List Value :=
  match st.input.bind (job.pipes[·]?) with
  | some p => p.stock
  | none => []

theorem Fed.stock (h : st.Fed job source) : st.stock job = source.elim [] (·.stock) := by
  cases h with
  | absent hinput => simp [Station.stock, hinput]
  | shut hinput hp hclosed hempty => simp [Station.stock, hinput, hp, hempty]
  | opened hinput hp => simp [Station.stock, hinput, hp]

/-- The desk has what the pipe holds, and then what is still to come. -/
theorem Seated.getD_input (h : st.Seated job coming d) (hcoming : st.Open job ∨ coming = []) :
    d.input.getD [] = st.stock job ++ coming := by
  obtain ⟨source, hfed, hinput, -⟩ := h.input
  rw [hfed.stock, hinput]
  cases source with
  | some p => rfl
  | none =>
    have hnone : coming = [] := by
      refine hcoming.resolve_left ?_
      rintro ⟨p, hopen, -⟩
      exact absurd (hfed.unique hopen) (by simp)
    simp [hnone]

/-- An operation of the other side: it puts `sent` at the end of the stock, and reads stay as they are. -/
structure Supplies (p p' : Pipe Value) (sent : List Value) : Prop where
  single : p.Single → p'.Single
  tickets : p'.tickets.Perm p.tickets
  stock : p.Single ∨ p.readClosed = true → p'.stock = p.stock ++ sent
  readClosed : p'.readClosed = p.readClosed
  writeClosed : p.writeClosed = true → p'.writeClosed = true
  /-- Nothing is sent through a pipe that has been closed. -/
  sent : sent ≠ [] → p.readClosed = false ∧ p.writeClosed = false

theorem supplies_offer (p : Pipe Value) (v : Value) (waker : Option Waker) :
    Supplies p (p.offer v waker).2.1 (if (p.offer v waker).1 = .accepted then [v] else []) where
  single h := h.offer v waker
  tickets := p.tickets_offer v waker
  stock := by
    rintro (h | h)
    · exact h.stock_offer v waker
    · simp [Pipe.offer, h]
  readClosed := (p.sameEnds_offer v waker).readClosed
  writeClosed h := (p.sameEnds_offer v waker).writeClosed ▸ h
  sent := by
    obtain ⟨-, ho⟩ | ⟨-, -, ho⟩ | ⟨hread, hwrite, -⟩ := p.offer_cases v waker
    · simp [ho]
    · simp [ho]
    · exact fun _ => ⟨hread, hwrite⟩

theorem supplies_openWrite (p : Pipe Value) : Supplies p p.openWrite.1 [] where
  single h := h.openWrite
  tickets := .refl _
  stock _ := (List.append_nil _).symm
  readClosed := rfl
  writeClosed := id
  sent h := absurd rfl h

theorem supplies_closeWrite (p : Pipe Value) : Supplies p p.closeWrite.2.1 [] := by
  have hfinish : ∀ q : Pipe Value, q.finishWrite.2.1.tickets.Perm q.tickets ∧
      q.finishWrite.2.1.readClosed = q.readClosed ∧ q.finishWrite.2.1.writeClosed = true := by
    intro q
    unfold Pipe.finishWrite
    split
    · rename_i hclosed
      exact ⟨.refl _, rfl, hclosed⟩
    · exact ⟨q.tickets_endParked, rfl, rfl⟩
  refine ⟨fun h => h.closeWrite, ?_, fun _ => p.stock_closeWrite.trans (List.append_nil _).symm, ?_, ?_,
    fun h => absurd rfl h⟩
  all_goals obtain ⟨-, hc⟩ | ⟨-, hc⟩ | ⟨n, -, hc⟩ := p.closeWrite_cases <;> rw [hc]
  · exact (hfinish _).1
  · exact .refl _
  · exact (hfinish _).2.1
  · exact id
  · exact fun _ => (hfinish _).2.2
  · exact id

section Supplied

variable {i : Nat} {p p' : Pipe Value} {sent : List Value}

/-- The reader has what the other side has made of the pipe. -/
theorem Fed.supplied (h : st.Fed job source) (hinput : st.input = some i) (hp : job.pipes[i]? = some p)
    (hsupplies : Supplies p p' sent) (events : List Pipe.Event) :
    st.Fed (job.store i p' events) (source.map fun _ => p') := by
  have hp' := Job.store_self hp p' events
  cases h with
  | absent hnone => simp [hnone] at hinput
  | @shut j q hj hq hclosed hempty hfresh =>
    obtain rfl : i = j := Option.some.inj (hinput.symm.trans hj)
    obtain rfl : p = q := Option.some.inj (hp.symm.trans hq)
    have hsent : sent = [] := by
      by_contra hne
      exact absurd (hsupplies.sent hne).1 (by simp [hclosed])
    refine .shut hinput hp' (hsupplies.readClosed.trans hclosed) ?_ hfresh
    rw [hsupplies.stock (.inr hclosed), hempty, hsent]
    rfl
  | @opened j q hj hq hopen hsingle hreading htickets =>
    obtain rfl : i = j := Option.some.inj (hinput.symm.trans hj)
    obtain rfl : p = q := Option.some.inj (hp.symm.trans hq)
    exact .opened hinput hp' (hsupplies.readClosed.trans hopen) (hsupplies.single hsingle) hreading
      (Pipe.tickets_of_perm hsupplies.tickets htickets)

/-- An open reader is open on the pipe. -/
theorem Fed.eq_some {q : Pipe Value} (h : st.Fed job (some q)) (hinput : st.input = some i)
    (hp : job.pipes[i]? = some p) : q = p ∧ p.Single := by
  cases h with
  | opened hj hq hopen hsingle =>
    obtain rfl := Option.some.inj (hinput.symm.trans hj)
    obtain rfl := Option.some.inj (hp.symm.trans hq)
    exact ⟨rfl, hsingle⟩

/-- What has been sent was still to come before. -/
theorem Seated.supplied (hinput : st.input = some i) (hp : job.pipes[i]? = some p)
    (hsupplies : Supplies p p' sent) (events : List Pipe.Event)
    (h : st.Seated job (sent ++ coming) d) (hcoming : st.Open (job.store i p' events) ∨ coming = []) :
    st.Seated (job.store i p' events) coming d := by
  obtain ⟨hlevel, harguments, source, hfed, hd, -⟩ := h
  have hfed' := hfed.supplied hinput hp hsupplies events
  refine ⟨by simpa [Job.store] using hlevel, harguments, _, hfed', ?_, ?_⟩
  · rw [hd]
    cases source with
    | none => rfl
    | some q =>
      obtain ⟨rfl, hsingle⟩ := hfed.eq_some hinput hp
      simp only [Option.map_some]
      rw [hsupplies.stock (.inl hsingle), List.append_assoc]
  · intro q hq hclosed
    refine hcoming.resolve_left ?_
    rintro ⟨q', hq', hwrite⟩
    obtain rfl : q' = q := Option.some.inj ((hfed'.unique hq').symm.trans hq)
    simp [hclosed] at hwrite

/-- The other side sends only through an open pipe, and does not open one that has been closed. -/
theorem Fed.open_of_supplied (h : st.Fed job source) (events : List Pipe.Event)
    (hinput : st.input = some i) (hp : job.pipes[i]? = some p) (hsupplies : Supplies p p' sent)
    (hopen : st.Open (job.store i p' events) ∨ sent ≠ []) : st.Open job := by
  have hfed' := h.supplied hinput hp hsupplies events
  cases source with
  | none =>
    rcases hopen with ⟨q, hq, -⟩ | hsent
    · exact absurd (hfed'.unique hq) (by simp)
    · cases h with
      | absent hnone => simp [hnone] at hinput
      | shut hj hq hclosed =>
        obtain rfl := Option.some.inj (hinput.symm.trans hj)
        obtain rfl := Option.some.inj (hp.symm.trans hq)
        exact absurd (hsupplies.sent hsent).1 (by simp [hclosed])
  | some q =>
    obtain ⟨rfl, -⟩ := h.eq_some hinput hp
    refine ⟨q, h, ?_⟩
    rcases hopen with ⟨q', hq', hwrite⟩ | hsent
    · obtain rfl : p' = q' := Option.some.inj (hfed'.unique hq')
      by_contra hclosed
      exact absurd (hsupplies.writeClosed (by simpa using hclosed)) (by simp [hwrite])
    · exact (hsupplies.sent hsent).2

end Supplied

end Station

end Pipework
