import Pipework.Command.Input
import Pipework.Proofs.Job.Alone

/-!
# What the input of a command makes of a list

A stage on its own `Desk.Holds` a list: the items queued from its argument text, then those of its
reader, which are split where the input says so. `Input` takes this list from the front, wherever an
item comes from:

* `next` takes an item, `take` several and `rest` all (`feeds_next`, `yields_take`, `yields_rest`);
* `readFlags` takes the leading groups of flags, and fails if an unknown flag comes next
  (`yields_readFlags`);
* `readRequired` and `require` take the flags and then several items (`yields_readRequired`,
  `yields_require`).

`flagged` is what commands see of this: the flags and the items after them, if there are no unknown
flags. An input is *plain* if it leaves texts and lists as they are.
-/

namespace Pipework

/-- The stage has seen these flags and will take these items. -/
structure Desk.Holds (o : Input) (flags : List Char) (items : List Value) (d : Desk) : Prop where
  flags : d.arguments.flags = flags
  items : d.arguments.queue ++ (d.input.getD []).map o.received = items

/-- The items of an argument text. -/
def wordItems (args : Option String) : List Value :=
  (args.map fun text => (wordsOf (trimmed text)).map .text).getD []

/-- The letters of the leading groups of flags, and the items after these groups; nothing if one of
the flags is not known. -/
def flagged (known : List Char) : List Value → Option (List Char × List Value)
  | [] => some ([], [])
  | v :: items =>
    match Input.flagLetters? v with
    | none => some ([], v :: items)
    | some letters =>
      if letters.all known.contains then
        (flagged known items).map fun (flags, left) => (letters ++ flags, left)
      else none

namespace Input

open Behavior

/-- The input leaves texts and lists as they are. -/
structure Plain (o : Input) : Prop where
  separator : o.separator = none
  splitsInput : o.splitsInput = false
  flattens : o.flattens = false

variable {o : Input} {d : Desk} {flags : List Char} {items : List Value}

theorem Plain.received (ho : o.Plain) (v : Value) : o.received v = v := by
  cases v <;> simp [Input.received, ho.splitsInput]

theorem Plain.map_received (ho : o.Plain) (items : List Value) : items.map o.received = items := by
  rw [List.map_congr_left fun v _ => ho.received v, List.map_id']

theorem Plain.getD_split (ho : o.Plain) (args : Option String) :
    (args.map o.split).getD [] = wordItems args := by
  cases args with
  | none => simp only [wordItems, Option.map_none]
  | some text =>
    simp only [wordItems, Option.map_some, Option.getD_some, split, ho.separator]
    generalize trimmed text = text
    split
    · rename_i hempty
      simp [String.isEmpty_iff.mp hempty, wordsOf, Text.words, Text.pieces]
    · rfl

/-! ## Taking items -/

theorem yields_openWith (o : Input) (hasInput : Bool) (tokens : List Value) (d : Desk) :
    ∃ d', (o.openWith hasInput tokens).Yields d [] (.ok (), d') ∧
      d'.Holds o [] (tokens ++ (d.input.getD []).map o.received) := by
  refine ⟨{ d with arguments := { queue := tokens } }, ?_, rfl, rfl⟩
  unfold openWith
  exact (yields_perform rfl).then (yields_perform rfl)

theorem yields_openText (ho : o.Plain) (hasInput : Bool) (args : Option String) (d : Desk) :
    ∃ d', (o.openText hasInput args).Yields d [] (.ok (), d') ∧
      d'.Holds o [] (wordItems args ++ d.input.getD []) := by
  have hopen := yields_openWith o hasInput (wordItems args) d
  rw [ho.map_received] at hopen
  unfold openText
  rw [ho.getD_split]
  exact hopen

theorem yields_undisturbed (d : Desk) : undisturbed.Yields d [] (.ok true, d) :=
  (yields_perform rfl).then (yields_result d true)

/-- Items are taken one after another. -/
theorem feeds_next (o : Input) (flags : List Char) : Feeds o.next (Desk.Holds o flags) where
  cons {v items d} := by
    rintro ⟨hflags, hitems⟩
    obtain ⟨⟨_ | ⟨first, queue⟩, seen⟩, input⟩ := d
    · cases input with
      | none => simp at hitems
      | some input =>
        obtain ⟨w, rest, rfl, rfl, rfl⟩ :
            ∃ w rest, input = w :: rest ∧ o.received w = v ∧ rest.map o.received = items := by
          simpa [List.map_eq_cons_iff] using hitems
        refine ⟨⟨⟨[], seen⟩, some rest⟩, ?_, hflags, rfl⟩
        refine (yields_undisturbed _).then ((yields_perform rfl).then ?_)
        refine (yields_perform rfl).then ((yields_perform rfl).then ?_)
        exact yields_result _ _
    · obtain ⟨rfl, rfl⟩ : first = v ∧ queue ++ (input.getD []).map o.received = items := by
        simpa using hitems
      refine ⟨⟨⟨queue, seen⟩, input⟩, ?_, hflags, rfl⟩
      refine (yields_undisturbed _).then ((yields_perform rfl).then ?_)
      exact (yields_perform rfl).then (yields_result _ _)
  nil {d} := by
    rintro ⟨hflags, hitems⟩
    obtain ⟨⟨_ | ⟨first, queue⟩, seen⟩, input⟩ := d
    · refine ⟨⟨⟨[], seen⟩, input⟩, ?_, hflags, hitems⟩
      refine (yields_undisturbed _).then ((yields_perform rfl).then ?_)
      cases input with
      | none => exact (yields_perform rfl).then (yields_result _ _)
      | some input =>
        obtain rfl : input = [] := by simpa using hitems
        refine (yields_perform rfl).then ?_
        exact (yields_read_nil rfl).then (yields_result _ _)
    · simp at hitems

/-- An item that is put back is the next one. -/
theorem yields_putBack (v : Value) (hd : d.Holds o flags items) :
    ∃ d', (putBack v).Yields d [] (.ok (), d') ∧ d'.Holds o flags (v :: items) :=
  ⟨{ d with arguments := { d.arguments with queue := v :: d.arguments.queue } },
    (yields_perform rfl).then (yields_perform rfl), hd.flags, congrArg (v :: ·) hd.items⟩

theorem yields_rest (hd : d.Holds o flags items) :
    ∃ d', o.rest.Yields d [] (.ok (if o.flattens then flatten items else items), d') ∧
      d'.Holds o flags [] := by
  obtain ⟨d', hread, hargs, hinput⟩ := yields_readAll
    (d := { d with arguments := { d.arguments with queue := [] } }) ⟨rfl, rfl⟩
  refine ⟨d', (yields_perform rfl).then ((yields_perform rfl).then (hread.then ?_)), ?_, ?_⟩
  · rw [← hd.items]
    exact yields_result d' _
  · rw [hargs]
    exact hd.flags
  · rw [hargs, hinput]
    rfl

/-- A number of items that can be asked for. -/
theorem yields_take {n : Nat} (hn : n ≤ maxTake) (hd : d.Holds o flags items) :
    ∃ d', (o.take n).Yields d [] (.ok (items.take n), d') ∧ d'.Holds o flags (items.drop n) := by
  unfold take
  rw [if_neg (by omega)]
  suffices h : ∃ r, (forever (n, []) _).Yields d [] r ∧
      r.1 = .ok (([] : List Value).reverse ++ items.take n) ∧ r.2.Holds o flags (items.drop n) by
    obtain ⟨⟨_, d'⟩, h, rfl, hd'⟩ := h
    exact ⟨d', h, hd'⟩
  refine yields_loop (fun _ _ => [])
    (fun s items r => r.1 = .ok (s.2.reverse ++ items.take s.1) ∧
      r.2.Holds o flags (items.drop s.1)) (fun s items d hd => ?_) (n, []) hd
  obtain ⟨left, got⟩ := s
  cases left with
  | zero => exact .inl ⟨(.ok got.reverse, d), yields_result d _, by simp, hd⟩
  | succ left =>
    cases items with
    | nil =>
      obtain ⟨d', hnone, hd'⟩ := (feeds_next o flags).nil hd
      exact .inl ⟨(.ok got.reverse, d'), hnone.then (yields_result d' _), by simp, hd'⟩
    | cons v items =>
      obtain ⟨d', htaken, hd'⟩ := (feeds_next o flags).cons hd
      refine .inr ⟨[], (left, v :: got), items, d', htaken.then (yields_result d' _), hd',
        Nat.lt_succ_self _, rfl, fun r hr => ⟨hr.1.trans ?_, hr.2⟩⟩
      simp

/-! ## Flags -/

/-- The letters among these that are no known flags. -/
def unknownAmong (known letters : List Char) : List Char := letters.filter fun c => !known.contains c

/-- The item is a group of known flags. -/
def isGroup (known : List Char) (v : Value) : Bool :=
  (flagLetters? v).any fun letters => (unknownAmong known letters).isEmpty

/-- The letters of some groups of flags. -/
def lettersOf (groups : List Value) : List Char := groups.flatMap fun v => (flagLetters? v).getD []

/-- Why an item is refused as a group of flags: its letters that are not known, in order. -/
def refusal? (known : List Char) (v : Value) : Option ShellError :=
  (flagLetters? v).bind fun letters =>
    let unknown := unknownAmong known letters
    if unknown.isEmpty then none
    else
      let listed := unknown.mergeSort fun a b => a ≤ b
      let names := joined "," (listed.map (String.singleton ·))
      some (.invalidArgument s!"unrecognized flags: {names}")

/-- The answer to a list that begins with the item after the groups of flags. -/
def flagsAnswer (known : List Char) (left : List Value) : Except ShellError Unit :=
  match left.head?.bind (refusal? known) with
  | some e => .error e
  | none => .ok ()

/-- The groups of flags at the front are taken. If the next item has the form of a group with unknown
flags, that is an error, and the item stays. -/
theorem yields_readFlags {known : String} (hknown : o.flags = some known) (hd : d.Holds o flags items) :
    ∃ d', o.readFlags.Yields d [] (flagsAnswer known.toList (items.dropWhile (isGroup known.toList)), d') ∧
      d'.Holds o (flags ++ lettersOf (items.takeWhile (isGroup known.toList)))
        (items.dropWhile (isGroup known.toList)) := by
  unfold readFlags
  simp only [hknown]
  induction items generalizing d flags with
  | nil =>
    obtain ⟨d', hnone, hd'⟩ := (feeds_next o flags).nil hd
    refine ⟨d', .stop (hnone.then (yields_result d' _)), ?_⟩
    simpa [lettersOf] using hd'
  | cons v items ih =>
    obtain ⟨d', htaken, hd'⟩ := (feeds_next o flags).cons hd
    obtain ⟨d₁, hback, hd₁⟩ := yields_putBack v hd'
    obtain hletters | ⟨letters, hletters⟩ := Option.eq_none_or_eq_some (flagLetters? v)
    · have hgroup : isGroup known.toList v = false := by simp [isGroup, hletters]
      rw [List.dropWhile_cons_of_neg (by simp [hgroup]), List.takeWhile_cons_of_neg (by simp [hgroup])]
      refine ⟨d₁, ?_, by simpa [lettersOf] using hd₁⟩
      have hanswer : flagsAnswer known.toList (v :: items) = .ok () := by
        simp [flagsAnswer, refusal?, hletters]
      rw [hanswer]
      refine .stop (htaken.then ?_)
      simp only [hletters]
      exact hback.then (yields_result d₁ _)
    · cases hall : (unknownAmong known.toList letters).isEmpty with
      | false =>
        have hgroup : isGroup known.toList v = false := by simp [isGroup, hletters, hall]
        rw [List.dropWhile_cons_of_neg (by simp [hgroup]), List.takeWhile_cons_of_neg (by simp [hgroup])]
        refine ⟨d₁, ?_, by simpa [lettersOf] using hd₁⟩
        simp only [flagsAnswer, refusal?, List.head?_cons, Option.bind_some, hletters, hall,
          Bool.false_eq_true, if_false]
        refine .break (htaken.then ?_)
        simp only [hletters]
        rw [if_neg (by rw [← unknownAmong, hall]; simp)]
        exact hback.then (yields_fail d₁ _)
      | true =>
        have hgroup : isGroup known.toList v = true := by simp [isGroup, hletters, hall]
        rw [List.dropWhile_cons_of_pos hgroup, List.takeWhile_cons_of_pos hgroup]
        set d₂ : Desk :=
          { d' with arguments := { d'.arguments with flags := d'.arguments.flags ++ letters } }
        have hd₂ : d₂.Holds o (flags ++ letters) items := ⟨congrArg (· ++ letters) hd'.flags, hd'.items⟩
        obtain ⟨d₃, hrest, hd₃⟩ := ih hd₂
        refine ⟨d₃, .again (htaken.then ?_) hrest, ?_⟩
        · simp only [hletters]
          rw [if_pos (by rw [← unknownAmong, hall])]
          refine (yields_perform rfl).then ((yields_perform rfl).then ?_)
          exact (yields_perform rfl).then (yields_result d₂ _)
        · simpa [lettersOf, hletters] using hd₃

theorem unknownAmong_isEmpty (known letters : List Char) :
    (unknownAmong known letters).isEmpty = letters.all known.contains := by
  unfold unknownAmong
  induction letters with
  | nil => rfl
  | cons c letters ih =>
    cases hc : known.contains c <;> simp_all

/-- What commands see of the flags. -/
theorem flagged_eq (known : List Char) (items : List Value) :
    flagged known items = match flagsAnswer known (items.dropWhile (isGroup known)) with
      | .ok () => some (lettersOf (items.takeWhile (isGroup known)), items.dropWhile (isGroup known))
      | .error _ => none := by
  induction items with
  | nil => rfl
  | cons v items ih =>
    obtain hletters | ⟨letters, hletters⟩ := Option.eq_none_or_eq_some (flagLetters? v)
    · have hgroup : isGroup known v = false := by simp [isGroup, hletters]
      rw [List.dropWhile_cons_of_neg (by simp [hgroup]), List.takeWhile_cons_of_neg (by simp [hgroup])]
      simp [flagged, flagsAnswer, refusal?, hletters, lettersOf]
    · cases hall : (unknownAmong known letters).isEmpty with
      | false =>
        have hgroup : isGroup known v = false := by simp [isGroup, hletters, hall]
        rw [List.dropWhile_cons_of_neg (by simp [hgroup]), List.takeWhile_cons_of_neg (by simp [hgroup])]
        simp only [flagged, hletters, ← unknownAmong_isEmpty, hall, flagsAnswer, refusal?,
          List.head?_cons, Option.bind_some, Bool.false_eq_true, if_false]
      | true =>
        have hgroup : isGroup known v = true := by simp [isGroup, hletters, hall]
        rw [List.dropWhile_cons_of_pos hgroup, List.takeWhile_cons_of_pos hgroup]
        simp only [flagged, hletters, ← unknownAmong_isEmpty, hall, if_true, ih]
        split <;> simp_all [lettersOf]

section Required

variable {known : String} {seen : List Char} {left : List Value}

/-- The flags have been seen, and the items after them are next. -/
theorem yields_flagged (hknown : o.flags = some known) (hd : d.Holds o flags items)
    (hflagged : flagged known.toList items = some (seen, left)) :
    ∃ d', o.readFlags.Yields d [] (.ok (), d') ∧ d'.Holds o (flags ++ seen) left := by
  obtain ⟨d', hread, hd'⟩ := yields_readFlags hknown hd
  rw [flagged_eq] at hflagged
  split at hflagged
  · rename_i hanswer
    obtain ⟨rfl, rfl⟩ := Prod.mk.inj (Option.some.inj hflagged)
    exact ⟨d', hanswer ▸ hread, hd'⟩
  · simp at hflagged

/-- There is an unknown flag. -/
theorem yields_flagged_none (hknown : o.flags = some known) (hd : d.Holds o flags items)
    (hflagged : flagged known.toList items = none) :
    ∃ e d', o.readFlags.Yields d [] (.error e, d') := by
  obtain ⟨d', hread, -⟩ := yields_readFlags hknown hd
  rw [flagged_eq] at hflagged
  split at hflagged
  · simp at hflagged
  · rename_i e hanswer
    exact ⟨e, d', hanswer ▸ hread⟩

/-- The required items come after the flags. -/
theorem yields_require (hknown : o.flags = some known) (hrequired : o.required ≤ maxTake)
    (hd : d.Holds o flags items) (hflagged : flagged known.toList items = some (seen, left))
    (henough : o.required ≤ left.length) :
    ∃ d', o.require.Yields d [] (.ok (left.take o.required), d') ∧
      d'.Holds o (flags ++ seen) (left.drop o.required) := by
  obtain ⟨d₁, hflags, hd₁⟩ := yields_flagged hknown hd hflagged
  obtain ⟨d', htake, hd'⟩ := yields_take hrequired hd₁
  refine ⟨d', Yields.then (hflags.then htake) ?_, hd'⟩
  rw [if_neg (by rw [List.length_take]; omega)]
  exact yields_result d' _

/-- Without enough items, or with an unknown flag, the stage fails. -/
theorem yields_require_none (hknown : o.flags = some known)
    (hrequired : o.required ≤ maxTake) (hd : d.Holds o flags items)
    (hfew : ∀ seen left, flagged known.toList items = some (seen, left) → left.length < o.required) :
    ∃ e d', o.require.Yields d [] (.error e, d') := by
  obtain hunknown | ⟨⟨seen, left⟩, hflagged⟩ :=
    Option.eq_none_or_eq_some (flagged known.toList items)
  · obtain ⟨e, d₁, hflags⟩ := yields_flagged_none hknown hd hunknown
    exact ⟨e, d₁, (hflags.bind_fail _).bind_fail _⟩
  · obtain ⟨d₁, hflags, hd₁⟩ := yields_flagged hknown hd hflagged
    obtain ⟨d', htake, -⟩ := yields_take hrequired hd₁
    refine ⟨.missingArgument o.name o.required (left.take o.required).length, d',
      Yields.then (hflags.then htake) ?_⟩
    have hlength := hfew seen left hflagged
    rw [if_pos (by rw [List.length_take]; omega)]
    exact yields_fail d' _

end Required

/-- An input that knows no flags takes the required items from the front. -/
theorem yields_require_flagless (hflags : o.flags = none) (hrequired : o.required ≤ maxTake)
    (hd : d.Holds o flags items) (henough : o.required ≤ items.length) :
    ∃ d', o.require.Yields d [] (.ok (items.take o.required), d') ∧
      d'.Holds o flags (items.drop o.required) := by
  obtain ⟨d', htake, hd'⟩ := yields_take hrequired hd
  have hread : o.readRequired.Yields d [] (.ok (items.take o.required), d') := by
    unfold readRequired readFlags
    rw [hflags]
    exact (yields_result d ()).then htake
  refine ⟨d', hread.then ?_, hd'⟩
  rw [if_neg (by rw [List.length_take]; omega)]
  exact yields_result d' _

theorem yields_hasFlag (c : Char) (hd : d.Holds o flags items) :
    (hasFlag c).Yields d [] (.ok (flags.contains c), d) := by
  rw [← hd.flags]
  exact (yields_perform rfl).then (yields_result _ _)

end Input

end Pipework
