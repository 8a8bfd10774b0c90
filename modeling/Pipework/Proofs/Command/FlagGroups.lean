import Pipework.Proofs.Command.InOrder

/-!
# Groups of flags

`readFlags` takes the longest prefix of texts that show known flags, and what it answers is decided by
the item after it (`Bench.flag_groups_taken`):

* `FlagText letters v` — the item shows these letters as flags: it is a hyphen and then these letters,
  one or more. Several hyphens do as well, and then there need not be any letter (`FlagText.several`);
* `FlagsEnd known left answer` — the items that are left are a reason to stop with this answer;
* `Bench.ReadsFlags` — what has become of a bench once the flags have been read.
-/

namespace Pipework

namespace Input

variable {v : Value} {letters : List Char} {known : List Char} {text : String}

/-! ## The form of a group -/

/-- The item shows these letters as flags. -/
inductive FlagText : List Char → Value → Prop where
  /-- A hyphen and one or more letters. -/
  | one {c : Char} {letters : List Char} (hc : c ≠ '-') :
    FlagText (c :: letters) (.text (String.ofList ('-' :: c :: letters)))
  /-- Two hyphens or more, and any number of letters. -/
  | several (more : Nat) {letters : List Char} (hfirst : letters.head? ≠ some '-') :
    FlagText letters (.text (String.ofList (List.replicate (more + 2) '-' ++ letters)))

/-- The item is a group of known flags. -/
def FlagGroup (known : List Char) (v : Value) (letters : List Char) : Prop :=
  FlagText letters v ∧ ∀ c ∈ letters, c ∈ known

/-- Why reading flags stops with this answer, if these items are left. -/
inductive FlagsEnd (known : List Char) : List Value → Except ShellError (List Value) → Prop where
  /-- There are no more items. -/
  | nothing : FlagsEnd known [] (.ok [])
  /-- The next item is no text. -/
  | noText {v : Value} {left : List Value} (hv : ∀ text, v ≠ .text text) :
    FlagsEnd known (v :: left) (.ok [])
  /-- The next item does not begin with a hyphen. -/
  | noHyphen {text : String} {left : List Value} (hfirst : text.toList.head? ≠ some '-') :
    FlagsEnd known (.text text :: left) (.ok [])
  /-- The next item is a hyphen alone. -/
  | hyphen {left : List Value} : FlagsEnd known (.text "-" :: left) (.ok [])
  /-- The next item shows flags that are not known. -/
  | unknown {v : Value} {left : List Value} {letters : List Char} (hv : FlagText letters v)
    (hunknown : ¬ ∀ c ∈ letters, c ∈ known) :
    FlagsEnd known (v :: left) (.error (.invalidArgument ("unrecognized flags: " ++
      joined "," (((unknownAmong known letters).mergeSort fun a b => a ≤ b).map String.singleton))))

theorem flagLetters?_hyphen {rest : List Char} (hrest : rest ≠ []) :
    flagLetters? (.text (String.ofList ('-' :: rest))) = some (rest.dropWhile (· == '-')) := by
  obtain ⟨c, rest, rfl⟩ := List.exists_cons_of_ne_nil hrest
  have hlong : 1 < (String.ofList ('-' :: c :: rest)).utf8ByteSize := by
    have hsize := c.utf8Size_pos
    have hhyphen : Char.utf8Size '-' = 1 := rfl
    simp only [String.utf8ByteSize_ofList, String.utf8Len_cons]
    omega
  simp only [flagLetters?, decide_eq_true hlong, String.toList_ofList]
  rfl

theorem flagLetters?_of_flagText (h : FlagText letters v) : flagLetters? v = some letters := by
  cases h with
  | @one c letters hc =>
    rw [flagLetters?_hyphen (by simp), List.dropWhile_cons_of_neg (by simpa using hc)]
  | several more hfirst =>
    show flagLetters? (.text (String.ofList ('-' :: (List.replicate (more + 1) '-' ++ letters)))) = _
    rw [flagLetters?_hyphen (by simp [List.replicate_succ]), List.dropWhile_append_of_pos (by simp)]
    cases letters with
    | nil => rfl
    | cons c letters => rw [List.dropWhile_cons_of_neg (by simpa using hfirst)]

/-- A text begins with so many hyphens. -/
theorem exists_hyphens (chars : List Char) :
    ∃ n letters, chars = List.replicate n '-' ++ letters ∧ letters.head? ≠ some '-' := by
  induction chars with
  | nil => exact ⟨0, [], rfl, by simp⟩
  | cons c chars ih =>
    by_cases hc : c = '-'
    · obtain ⟨n, letters, rfl, hfirst⟩ := ih
      exact ⟨n + 1, letters, by rw [hc]; rfl, hfirst⟩
    · exact ⟨0, c :: chars, rfl, by simpa using hc⟩

/-- An item is no text, does not begin with a hyphen, is a hyphen alone, or shows flags. -/
theorem flagText_cases (v : Value) :
    (∀ text, v ≠ .text text) ∨ (∃ text, v = .text text ∧ text.toList.head? ≠ some '-') ∨
      v = .text "-" ∨ ∃ letters, FlagText letters v := by
  cases v with
  | text text =>
    obtain ⟨n, letters, hchars, hfirst⟩ := exists_hyphens text.toList
    obtain rfl : text = String.ofList (List.replicate n '-' ++ letters) := by
      rw [← hchars, String.ofList_toList]
    refine .inr ?_
    -- the texts without a hyphen, with one and with several
    match n, letters with
    | 0, letters => exact .inl ⟨_, rfl, by simpa using hfirst⟩
    | 1, [] => exact .inr (.inl rfl)
    | 1, c :: letters => exact .inr (.inr ⟨c :: letters, .one (by simpa using hfirst)⟩)
    | n + 2, letters => exact .inr (.inr ⟨letters, .several n hfirst⟩)
  | _ => exact .inl fun text => by simp

theorem flagLetters?_eq_some_iff : flagLetters? v = some letters ↔ FlagText letters v := by
  refine ⟨fun h => ?_, flagLetters?_of_flagText⟩
  obtain hv | ⟨text, rfl, hfirst⟩ | rfl | ⟨letters', hv⟩ := flagText_cases v
  · cases v with
    | text text => exact absurd rfl (hv text)
    | _ => simp [flagLetters?] at h
  · simp [flagLetters?, hfirst] at h
  · have hnone : flagLetters? (.text "-") = none := rfl
    simp [hnone] at h
  · obtain rfl := Option.some.inj ((flagLetters?_of_flagText hv).symm.trans h)
    exact hv

theorem unknownAmong_eq_nil_iff : unknownAmong known letters = [] ↔ ∀ c ∈ letters, c ∈ known := by
  simp [unknownAmong]

theorem flagGroup_iff : FlagGroup known v letters ↔
    flagLetters? v = some letters ∧ isGroup known v = true := by
  rw [FlagGroup, flagLetters?_eq_some_iff]
  refine and_congr_right fun hv => ?_
  simp [isGroup, flagLetters?_of_flagText hv, unknownAmong_eq_nil_iff]

/-- The prefix that is taken consists of groups. -/
theorem flagGroups_takeWhile (known : List Char) (items : List Value) :
    ∃ letters, List.Forall₂ (FlagGroup known) (items.takeWhile (isGroup known)) letters ∧
      lettersOf (items.takeWhile (isGroup known)) = letters.flatten := by
  refine ⟨_, List.forall₂_map_right_iff.mpr (List.forall₂_same.mpr fun v hv => ?_),
    List.flatMap_def⟩
  have hgroup : isGroup known v = true := List.mem_takeWhile_imp hv
  obtain ⟨letters, hletters⟩ : ∃ letters, flagLetters? v = some letters := by
    refine Option.ne_none_iff_exists'.mp fun hnone => ?_
    simp [isGroup, hnone] at hgroup
  exact flagGroup_iff.mpr ⟨by rw [hletters]; rfl, hgroup⟩

/-- What is left after that prefix decides what is answered. -/
theorem flagsEnd_dropWhile (known : List Char) (items : List Value) :
    FlagsEnd known (items.dropWhile (isGroup known))
      ((flagsAnswer known (items.dropWhile (isGroup known))).map fun _ => []) := by
  have hhead := List.head?_dropWhile_not (isGroup known) items
  cases hleft : items.dropWhile (isGroup known) with
  | nil => exact .nothing
  | cons v left =>
    rw [hleft] at hhead
    have hplain : flagLetters? v = none →
        (flagsAnswer known (v :: left)).map (fun _ => ([] : List Value)) = .ok [] := by
      intro hnone
      simp [flagsAnswer, refusal?, hnone, Except.map]
    obtain hv | ⟨text, rfl, hfirst⟩ | rfl | ⟨letters, hv⟩ := flagText_cases v
    · rw [hplain]
      · exact .noText hv
      · cases v with
        | text text => exact absurd rfl (hv text)
        | _ => rfl
    · rw [hplain (by simp [flagLetters?, hfirst])]
      exact .noHyphen hfirst
    · rw [hplain rfl]
      exact .hyphen
    · have hletters := flagLetters?_of_flagText hv
      have hunknown : unknownAmong known letters ≠ [] := by
        intro hnone
        simp [isGroup, hletters, hnone] at hhead
      have hanswer : (flagsAnswer known (v :: left)).map (fun _ => ([] : List Value)) =
          .error (.invalidArgument ("unrecognized flags: " ++ joined ","
            (((unknownAmong known letters).mergeSort fun a b => a ≤ b).map String.singleton))) := by
        simp only [flagsAnswer, refusal?, List.head?_cons, hletters, Option.bind_some,
          List.isEmpty_iff, hunknown, if_false, Except.map]
        rfl
      rw [hanswer]
      exact .unknown hv (mt unknownAmong_eq_nil_iff.mpr hunknown)

end Input

namespace Bench

open Input

variable {o : Input} {tokens : List Value} {b : Bench} {st : Station} {job : Job}
  {moves more : List Move} {known : String}

/-! ## Reading the flags -/

/-- What has become of a bench once the flags have been read: these groups, which show these letters,
are gone from the front, and this is the answer. -/
structure ReadsFlags (o : Input) (known : List Char) (b b' : Bench) (groups : List Value)
    (letters : List (List Char)) (answer : Except ShellError (List Value)) : Prop where
  settled : b'.settled = b.settled ++ [(.flags, answer)]
  shown : List.Forall₂ (FlagGroup known) groups letters
  /-- The groups come first among the items that were there and those that have come meanwhile. -/
  items : b.left o ++ (b'.given.drop b.given.length).map o.received = groups ++ b'.left o
  flags : b'.station.arguments.flags = b.station.arguments.flags ++ letters.flatten
  /-- There is a reason not to take more. -/
  ends : FlagsEnd known (b'.left o) answer
  /-- If the other side may still write, no group can come from it. -/
  waits : b'.left o = [] → b'.station.Open b'.job →
    ∀ v letters, ¬ FlagGroup known (o.received v) letters

theorem effect_flags (hknown : o.flags = some known) (s : Sheet) :
    Call.flags.effect o s =
      ((flagsAnswer known.toList (s.items.dropWhile (isGroup known.toList))).map fun _ => [],
        { flags := s.flags ++ lettersOf (s.items.takeWhile (isGroup known.toList))
          items := s.items.dropWhile (isGroup known.toList) }) := by
  simp only [Call.effect, takeFlags, hknown]
  cases flagsAnswer known.toList (s.items.dropWhile (isGroup known.toList)) <;> rfl

theorem Faithful.readsFlags {b' : Bench} (h : Faithful o tokens b) (hidle : b.underway = none)
    (h' : Faithful o tokens b') (hidle' : b'.underway = none) (hfollows : Follows b b')
    (hcalls : b'.calls = b.calls ++ [.flags]) (hknown : o.flags = some known) :
    ∃ groups letters answer, ReadsFlags o known.toList b b' groups letters answer := by
  obtain ⟨answer, sent, hsettled, hgiven, hcall⟩ := h.called hidle h' hidle' hfollows hcalls
  simp only [effect_flags hknown, Prod.mk.injEq, Sheet.mk.injEq] at hcall
  obtain ⟨hanswer, hflags, hleft⟩ := hcall [] (.inr rfl)
  rw [List.append_nil] at hanswer hleft hflags
  rw [List.map_nil, List.append_nil] at hleft
  obtain ⟨letters, hshown, hletters⟩ :=
    flagGroups_takeWhile known.toList (b.left o ++ sent.map o.received)
  refine ⟨_, letters, answer, hsettled, hshown, ?_, ?_, ?_, ?_⟩
  · rw [hgiven, List.drop_left, ← hleft, List.takeWhile_append_dropWhile]
  · rw [← hflags, hletters]
  · rw [← hanswer, ← hleft]
    exact flagsEnd_dropWhile _ _
  · intro hnone hopen v letters hgroup
    -- if this group came, it would be left, though it follows nothing but groups
    obtain ⟨-, -, hleft⟩ := hcall [v] (.inl hopen)
    have hhead := List.head?_dropWhile_not (isGroup known.toList)
      (b.left o ++ (sent ++ [v]).map o.received)
    rw [hleft, hnone] at hhead
    exact absurd (flagGroup_iff.mp hgroup).2 (by simpa using hhead)

/-- **Reading the flags takes the longest prefix of groups.** Calls, polls and writes have come as they
like, and no call is under way. Now the flags are read, while there are more polls and writes. Once the
call is over the groups are gone; until then each poll with enough steps comes to this end or waits for
the other side. -/
theorem flag_groups_taken (hst : Ready st job) (tokens : List Value)
    (hfit : ∀ move ∈ moves, move.Fits o)
    (hidle : ((start o st job tokens).run o moves).underway = none) (hknown : o.flags = some known)
    (hmore : ∀ call, .call call ∉ more) :
    let b := (start o st job tokens).run o moves
    let b' := (b.step o (.call .flags)).run o more
    b'.crashed = false ∧
      (b'.underway = none →
        ∃ groups letters answer, ReadsFlags o known.toList b b' groups letters answer) ∧
      ∃ n, ∀ fuel who, n ≤ fuel → (b'.step o (.poll fuel who)).underway = none ∨
        (b'.step o (.poll fuel who)).station.Parked (b'.step o (.poll fuel who)).job := by
  intro b b'
  have h : Faithful o tokens b := (faithful_start hst tokens).run hfit
  have hfitMore : ∀ move ∈ more, move.Fits o :=
    fun move hmove => fits_of_ne_call fun call hcall => hmore call (hcall ▸ hmove)
  have hcalled : Faithful o tokens (b.step o (.call .flags)) := h.call trivial
  have h' : Faithful o tokens b' := hcalled.run hfitMore
  have hcalls : b'.calls = b.calls ++ [.flags] := by
    rw [hcalled.calls_run hmore]
    simp [calls, Bench.step, show b.underway = none from hidle]
  exact ⟨h'.crashed, fun hidle' => h.readsFlags hidle h' hidle'
    ((h.follows_step _).trans (hcalled.follows_run hfitMore)) hcalls hknown, h'.progress⟩

set_option maxRecDepth 4000 in
/-- One group is among the tokens, one is in the pipe, and after them comes an item that shows a flag
that is not known. -/
theorem flag_groups_taken_boundary :
    let o : Input := { name := "grep", flags := some "gi" }
    let job : Job :=
      { shell := {}, pipes := #[(Pipe.create "p" 1).1.openRead.1.openWrite.1] }
    let b := (start o { input := some 0 } job [.text "-g"]).run o [.write (.text "-ig")]
    let b' := (b.step o (.call .flags)).run o
      [.poll 99 .nobody, .write (.text "-ix"), .poll 99 .nobody]
    b'.underway = none ∧ b'.settled = [(.flags, .error (.invalidArgument "unrecognized flags: x"))] ∧
      ∃ groups letters answer, ReadsFlags o "gi".toList b b' groups letters answer :=
  ⟨Option.isNone_iff_eq_none.mp (by cbv), by cbv,
    (flag_groups_taken (ready_opened "p" 1 {}) [.text "-g"] (by decide) rfl rfl (by simp)).2.1
      (Option.isNone_iff_eq_none.mp (by cbv))⟩

set_option maxRecDepth 4000 in
/-- Texts of several hyphens are taken for groups, though a hyphen is not a known flag. -/
theorem flags_take_hyphens :
    let o : Input := { name := "grep", flags := some "gi" }
    let b := (start o {} { shell := {} } [.text "--", .text "--g", .text "a"]).run o
      [.call .flags, .poll 99 .nobody]
    b.settled = [(.flags, .ok [])] ∧ b.left o = [.text "a"] ∧ b.station.arguments.flags = ['g'] :=
  ⟨by cbv, by cbv, by cbv⟩

end Bench

end Pipework
