import Pipework.Proofs.Command.Feeding
import Pipework.Proofs.Job.SoloLine

/-!
# Slices of a list

`head`, `drop`, `tail` and `chunk` slice the list before them at a count, each with a loop of its own,
and they slice it at the same places (`slices_agree`): what `head` and `drop` write is the whole list,
`tail` is `head` from the other end, and the lists of `chunk` (`chunked_eq`) are full, but for the last
one, and make up the whole list.

A `chunk` that asks for more items at once than can be addressed ends the program, whatever there is to
gather (`crashes_chunk`).
-/

namespace Pipework

/-- A line that ends the program has no output. -/
theorem Machine.Crashes.not_outputs {m : Machine} {line : String} (h : m.Crashes line) (out : List Value) :
    ¬ m.Outputs line out := by
  rintro ⟨enough', errors, m', hrun, hhalt⟩
  obtain ⟨enough, hcrashes⟩ := h
  have hcrashed := (hcrashes (max enough enough') (le_max_left ..)).2
  rw [hrun _ (le_max_right ..), hhalt] at hcrashed
  simp at hcrashed

namespace Command

open Behavior

/-! ## Chunks -/

/-- Lists of some length that make up a list: none is empty, and only the last may be shorter. -/
structure Chunks (n : Nat) (items : List Value) (lists : List (List Value)) : Prop where
  nonempty : ∀ l ∈ lists, l ≠ []
  bounded : ∀ l ∈ lists, l.length ≤ n
  full : ∀ l ∈ lists.dropLast, l.length = n
  all : lists.flatten = items

theorem chunks_nil (n : Nat) : Chunks n [] [] := ⟨by simp, by simp, by simp, rfl⟩

/-- One more list before others. It is full if there are any. -/
theorem Chunks.cons {n : Nat} {l items : List Value} {lists : List (List Value)}
    (h : Chunks n items lists) (hl : l ≠ []) (hbounded : l.length ≤ n)
    (hfull : items ≠ [] → l.length = n) : Chunks n (l ++ items) (l :: lists) where
  nonempty := List.forall_mem_cons.mpr ⟨hl, h.nonempty⟩
  bounded := List.forall_mem_cons.mpr ⟨hbounded, h.bounded⟩
  full := by
    cases lists with
    | nil => simp
    | cons l' lists =>
      have hitems : items ≠ [] := by
        rw [← h.all, List.flatten_cons]
        exact List.append_ne_nil_of_left_ne_nil (h.nonempty l' List.mem_cons_self) _
      rw [List.dropLast_cons_cons]
      exact List.forall_mem_cons.mpr ⟨hfull hitems, h.full⟩
  all := by rw [List.flatten_cons, h.all]

/-- The lists of `chunk` make up what there is to gather. -/
theorem chunked_eq {n : Nat} (hn : 0 < n) (items : List Value) :
    ∃ lists, chunked n items = lists.map .list ∧ Chunks n items lists := by
  -- one list after another is cut off, and each makes the rest shorter
  induction hlength : items.length using Nat.strong_induction_on generalizing items with
  | _ length ih =>
    subst hlength
    cases items with
    | nil => exact ⟨[], by rw [chunked, List.map_nil], chunks_nil n⟩
    | cons v items =>
      have hless : (items.drop (n - 1)).length < (v :: items).length := by
        rw [List.length_drop, List.length_cons]
        omega
      obtain ⟨lists, hlists, hchunks⟩ := ih _ hless (items.drop (n - 1)) rfl
      refine ⟨(v :: items.take (n - 1)) :: lists, by rw [chunked, hlists, List.map_cons], ?_⟩
      have hcons := hchunks.cons (l := v :: items.take (n - 1)) (by simp)
        (by rw [List.length_cons, List.length_take]; omega) fun hmore => by
          have hlong := List.length_pos_iff.mpr hmore
          rw [List.length_drop] at hlong
          rw [List.length_cons, List.length_take]
          omega
      rwa [List.cons_append, List.take_append_drop] at hcons

/-! ## Chunks that cannot be addressed -/

/-- Room for so many items is asked for before the first one is read. -/
theorem plays_chunk_crash (hasInput : Bool) {args : Option String}
    (hfar : Input.maxTake < countOr 5 args) (r : Room) :
    (chunk hasInput args).Plays r [] (.crashed, { r with arguments := {} }) := by
  refine ((plays_note r _ _).then (plays_perform rfl)).then ⟨2, ?_⟩
  unfold Input.take
  rw [if_pos hfar]
  exact ⟨rfl, rfl⟩

/-- A line of such a `chunk` alone. -/
theorem crashes_chunk {m : Machine} (hm : m.Prompt) (hprograms : m.programs = program?) {line typed : String}
    {args : Option String} (htyped : m.Calls typed "chunk")
    (hline : Stage.parseLine line = [⟨typed, args⟩]) (hfar : Input.maxTake < countOr 5 args) :
    m.Crashes line := by
  obtain ⟨spec, hspec, hname⟩ := Option.map_eq_some_iff.mp htyped.resolves
  exact Machine.runLine_crashed hm.named hprograms hm.orderly hm.level hm.halt hline hspec
    (by rw [hname]; rfl) (plays_chunk_crash false hfar _)

/-! ## Lines -/

section Lines

variable {m : Machine} {front : List Stage} {xs : List Value} {typed : String → String}
  {args : Option String} {n : Nat}

/-- **The slices agree.** Whatever stands before them in their lines, what `head` and `drop` write for a
count is the whole list; `tail` writes what `head` gives of the reversed list, reversed; and `chunk`, for
a count that can be addressed, writes lists that make up the whole list. -/
theorem slices_agree (hm : m.Prompt) (hfront : m.Supplies front xs)
    (hcalls : ∀ name ∈ ["chunk", "drop", "head", "reverse", "tail"], m.Calls (typed name) name)
    (hcount : countOr 5 args = n) :
    (∀ line line', Stage.parseLine line = front ++ [⟨typed "head", args⟩] →
      Stage.parseLine line' = front ++ [⟨typed "drop", args⟩] →
      ∃ first rest, m.Outputs line first ∧ m.Outputs line' rest ∧ first ++ rest = xs ∧
        first.length = min n xs.length) ∧
    (∀ line line', Stage.parseLine line = front ++ [⟨typed "tail", args⟩] →
      Stage.parseLine line' =
        front ++ [⟨typed "reverse", none⟩, ⟨typed "head", args⟩, ⟨typed "reverse", none⟩] →
      ∃ out, m.Outputs line out ∧ m.Outputs line' out) ∧
    (n ≤ Input.maxTake → ∀ line, Stage.parseLine line = front ++ [⟨typed "chunk", args⟩] →
      ∃ lists, m.Outputs line (lists.map .list) ∧ Chunks n xs lists) := by
  subst hcount
  have hpos : 0 < countOr 5 args := countOr_pos args (by decide)
  have hhead := (hcalls "head" (by decide)).maps rfl (computes_head args)
  have hreverse := (hcalls "reverse" (by decide)).maps rfl (computes_reverse none)
  refine ⟨fun line line' hline hline' => ⟨xs.take _, xs.drop _, hfront.outputs hm (.cons hhead .nil) hline,
    hfront.outputs hm (.cons ((hcalls "drop" (by decide)).maps rfl (computes_drop args)) .nil) hline',
    List.take_append_drop _ xs, List.length_take⟩, fun line line' hline hline' =>
    ⟨xs.drop (xs.length - countOr 5 args),
      hfront.outputs hm (.cons ((hcalls "tail" (by decide)).maps rfl (computes_tail args)) .nil) hline, ?_⟩,
    fun hfits line hline => ?_⟩
  · -- the first items from the other end are the last ones
    have hout := hfront.outputs hm (.cons hreverse (.cons hhead (.cons hreverse .nil))) hline'
    have hsame : composed [fun items => (wordItems none ++ items).reverse,
        fun items => items.take (countOr 5 args), fun items => (wordItems none ++ items).reverse] xs =
        xs.drop (xs.length - countOr 5 args) := by
      change ((xs.reverse).take (countOr 5 args)).reverse = _
      rw [List.take_reverse, List.reverse_reverse]
    rwa [hsame] at hout
  · obtain ⟨lists, hlists, hchunks⟩ := chunked_eq hpos xs
    refine ⟨lists, ?_, hchunks⟩
    rw [← hlists]
    exact hfront.outputs hm
      (.cons ((hcalls "chunk" (by decide)).maps rfl (computes_chunk args hfits)) .nil) hline

/-- Three items, sliced at two. -/
theorem slices_agree_two :
    let m := Machine.ofShell {}
    let xs : List Value := [.text "a", .text "b", .text "c"]
    (∃ first rest, m.Outputs "echo a | reverse c b | head 2" first ∧
        m.Outputs "echo a | reverse c b | drop 2" rest ∧ first ++ rest = xs ∧ first.length = 2) ∧
      (∃ out, m.Outputs "echo a | reverse c b | tail 2" out ∧
        m.Outputs "echo a | reverse c b | reverse | head 2 | reverse" out) ∧
      ∃ lists, m.Outputs "echo a | reverse c b | chunk 2" (lists.map .list) ∧ Chunks 2 xs lists := by
  intro m xs
  have hcalls : ∀ name, (Registry.builtin.lookup? name).map (·.name) = some name → m.Calls name name :=
    fun name hname => Machine.calls_builtin rfl rfl hname
  have hfront : m.Supplies [⟨"echo", some "a"⟩, ⟨"reverse", some "c b"⟩] xs :=
    (Machine.supplies_nil.concat ((hcalls "echo" (by decide +kernel)).maps rfl (computes_echo _))).concat
      ((hcalls "reverse" (by decide +kernel)).maps rfl (computes_reverse (some "c b")))
  have hslices : ∀ name ∈ ["chunk", "drop", "head", "reverse", "tail"], m.Calls (id name) name := by
    have hbuiltin : ∀ name ∈ ["chunk", "drop", "head", "reverse", "tail"],
        (Registry.builtin.lookup? name).map (·.name) = some name := by decide +kernel
    exact fun name hname => hcalls name (hbuiltin name hname)
  have hcount : countOr 5 (some "2") = 2 := by decide +kernel
  obtain ⟨hends, htail, hchunk⟩ :=
    slices_agree (Machine.prompt_ofShell Registry.named_builtin) hfront hslices hcount
  exact ⟨hends _ _ (by decide +kernel) (by decide +kernel),
    htail _ _ (by decide +kernel) (by decide +kernel), hchunk (by decide) _ (by decide +kernel)⟩

/-- The greatest count. There are no items to gather, and no list is written, but the program ends. -/
theorem slices_agree_unaddressable :
    let m := Machine.ofShell {}
    let line := "chunk 18446744073709551615"
    let args := some "18446744073709551615"
    m.Prompt ∧ m.Supplies [] [] ∧ m.Calls "chunk" "chunk" ∧ countOr 5 args = 18446744073709551615 ∧
      Stage.parseLine line = [⟨"chunk", args⟩] ∧ m.Crashes line ∧
      ¬ ∃ lists, m.Outputs line (lists.map .list) ∧ Chunks 18446744073709551615 [] lists := by
  intro m line args
  have hprompt : m.Prompt := Machine.prompt_ofShell Registry.named_builtin
  have hchunk : m.Calls "chunk" "chunk" := Machine.calls_builtin rfl rfl (by decide +kernel)
  have hline : Stage.parseLine line = [⟨"chunk", args⟩] := by decide +kernel
  have hcount : countOr 5 args = 18446744073709551615 := by decide +kernel
  have hcrashes : m.Crashes line := crashes_chunk hprompt rfl hchunk hline (by rw [hcount]; decide)
  exact ⟨hprompt, Machine.supplies_nil, hchunk, hcount, hline, hcrashes,
    fun ⟨_, hout, _⟩ => hcrashes.not_outputs _ hout⟩

end Lines

end Command

end Pipework
