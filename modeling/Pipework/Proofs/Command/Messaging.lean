import Pipework.Proofs.Command.Feeding
import Pipework.Proofs.Command.Registry
import Pipework.Proofs.Command.Taking
import Pipework.Proofs.Host
import Pipework.Proofs.Job.SoloLine

/-!
# Messages to the host

`background` sends a message to the host of the shell and writes the answer as a line of text.

* Whatever it is given and however it is disturbed, it writes the texts of answers without errors and
  nothing else (`relaying_background`).
* A line of a single message writes the text of the answer, or reports the errors in it
  (`AsksHost.completes`).
* **`answers_read_back`**: which answers their texts are read as.
* `answers_confused`: answers that their texts are not read as, one of each kind.
-/

namespace Pipework

namespace Action

/-- The action leaves the shell alone, and writes nothing but the text of an answer without errors. -/
def Relays (host : Host) : {β : Type} → Action β → Prop
  | _, .write v => ∃ target command payload,
      (host.send target command payload).isError = false ∧
        v = .text (host.send target command payload).text
  | _, action => action.Quiet

/-- The shell has this host. -/
def AnsweredAt (host : Host) : {β : Type} → Action β → β → Prop
  | _, .shell, s => s.host = host
  | _, _, _ => True

end Action

/-- As is due to a stage that passes on the answers of a host. -/
def Manners.relaying (host : Host) : Manners := ⟨Action.Relays host, Action.AnsweredAt host⟩

namespace Command

open Behavior

/-- Whatever it is given and however it is disturbed, it writes only the texts of answers without
errors. -/
theorem relaying_background (host : Host) (hasInput : Bool) (args : Option String) :
    (background hasInput args).Obeys (.relaying host) := by
  -- input is taken without a write and without a look at the shell
  have hreceiving : ∀ {α : Type} {b : Behavior α}, b.Obeys .receiving → b.Obeys (.relaying host) := by
    intro α b hb
    refine hb.of_receiving fun action haction => ?_
    cases action with
    | read | inputClosed | level | log | arguments | setArguments => trivial
    | _ => exact haction.elim
  refine Obeys.bind (hreceiving (Input.receiving_openText _ _ _)) fun _ => ?_
  refine Obeys.bind (hreceiving (Input.receiving_require _)) fun required => ?_
  split
  · trivial
  · rename_i target command _
    refine Obeys.bind (hreceiving (Input.receiving_rest _)) fun items => ?_
    refine Obeys.bind (.perform trivial) fun _ => ⟨trivial, ?_⟩
    rintro s (rfl : s.host = host)
    dsimp only [Behavior.bind]
    split
    · trivial
    · rename_i herror
      refine ⟨⟨target, command, _, by simpa using herror, rfl⟩, fun answer _ => ?_⟩
      exact Obeys.ofExcept answer

/-! ## What is asked, and what becomes of the answer -/

/-- The items of the argument text; without it and without input, the list of commands is asked for. -/
def askedItems (hasInput : Bool) (args : Option String) : List Value :=
  wordItems (if !hasInput && args.isNone then some "background:listCommands" else args)

/-- What is written of an answer. -/
def answerOutput (r : HostResponse) : List Value := if r.isError then [] else [.text r.text]

/-- How a stage ends that has been answered. -/
def answerOutcome (r : HostResponse) : Except ShellError Unit :=
  if r.isError then .error (.host (joined ", " r.errors)) else .ok ()

variable {hasInput : Bool} {args : Option String} {v : Value} {items : List Value}
  {target command : String}

theorem plays_background {r : Room} (hitems : askedItems hasInput args ++ r.input.getD [] = v :: items)
    (htarget : splitTarget? v.display = some (target, command)) {answer : HostResponse}
    (hanswer : r.shell.host.send target command (payloadOf (items.map (·.display))) = answer) :
    ∃ d, (background hasInput args).Plays r (answerOutput answer)
      (.ofExcept (answerOutcome answer), ⟨d, r.shell⟩) := by
  obtain ⟨desk, shell⟩ := r
  set o : Input := { name := "background", required := 1 } with ho
  have hplain : o.Plain := ⟨rfl, rfl, rfl⟩
  obtain ⟨d₁, hopen, hd₁⟩ := Input.yields_openText hplain hasInput
    (if !hasInput && args.isNone then some "background:listCommands" else args) desk
  rw [show wordItems _ ++ _ = v :: items from hitems] at hd₁
  obtain ⟨d₂, hrequire, hd₂⟩ := Input.yields_require_flagless rfl (by decide) hd₁ (by simp [ho])
  obtain ⟨d₃, hrest, -⟩ := Input.yields_rest hd₂
  refine ⟨d₃, ?_⟩
  refine (hopen.plays (o.receiving_openText _ _) shell).then ?_
  refine (hrequire.plays o.receiving_require shell).then ?_
  have hfirst : ((v :: items).take o.required).headD .null = v := rfl
  rw [hfirst, htarget]
  refine (hrest.plays o.receiving_rest shell).then ?_
  refine (plays_note _ _ _).then ((plays_shell _).then ?_)
  have hothers : (if o.flattens then flatten ((v :: items).drop o.required) else
      (v :: items).drop o.required) = items := rfl
  rw [hothers, hanswer]
  dsimp only [answerOutput, answerOutcome]
  split
  · exact plays_fail _ _
  · exact plays_write _ _

/-! ## Lines -/

/-- A line of a single message to the host, on a machine at its prompt, and what the host answers. -/
structure AsksHost (m : Machine) (line : String) (answer : HostResponse) : Prop where
  prompt : m.Prompt
  programs : m.programs = Command.program?
  message : ∃ stage spec v items target command, Stage.parseLine line = [stage] ∧
    m.job.shell.command? stage.command = some spec ∧ spec.name = "background" ∧
    askedItems false stage.args = v :: items ∧ splitTarget? v.display = some (target, command) ∧
    m.job.shell.host.send target command (payloadOf (items.map (·.display))) = answer

/-- The line writes the answer, or reports the errors in it. -/
theorem AsksHost.completes {m : Machine} {line : String} {answer : HostResponse}
    (h : AsksHost m line answer) :
    m.Completes line (answerOutput answer) (m.job.errors ++ Machine.reported (answerOutcome answer))
      m.job.shell := by
  obtain ⟨stage, spec, v, items, target, command, hline, hspec, hname, hitems, htarget, hanswer⟩ :=
    h.message
  have hprogram : Command.program? spec.name = some background := by rw [hname]; rfl
  have hroom : askedItems false stage.args ++ (⟨{}, m.job.shell⟩ : Room).input.getD [] = v :: items := by
    rw [hitems]
    exact List.append_nil _
  obtain ⟨d, hplays⟩ := plays_background hroom htarget hanswer
  exact Machine.runLine_solo h.prompt.named h.programs h.prompt.orderly h.prompt.level h.prompt.halt
    hline hspec hprogram hplays

/-- **Answers read back.** A response whose data is as values are stored, and has no field named
`errors`, reads back from its text as itself exactly when the data nests less deep than the limit and
every number in it survives; whatever is read of it has the same errors, and is a failure if it is one.
A stage that asks a host writes the texts of its answers without errors and nothing else, whatever
happens around it, and a line that asks for such an answer writes its text. -/
theorem answers_read_back {r : HostResponse} (hstored : (Json.object r.data).Stored)
    (herrors : "errors" ∉ r.data.keys) :
    (HostResponse.ofText? r.text = some r ↔ (Json.object r.data).nesting < Json.nestingLimit ∧
      ∀ x, .number x ∈ (Json.object r.data).parts → Json.Survives x) ∧
    (∀ r', HostResponse.ofText? r.text = some r' →
      r'.errors = r.errors ∧ r'.isError = r.isError) ∧
    (∀ host hasInput args, (background hasInput args).Obeys (.relaying host)) ∧
    ∀ m line, AsksHost m line r →
      m.Completes line (if r.isError then [] else [.text r.text])
        (m.job.errors ++ if r.isError then [(ShellError.host (joined ", " r.errors)).message] else [])
        m.job.shell := by
  refine ⟨HostResponse.ofText?_text_eq_self_iff hstored herrors, fun r' h => ?_,
    relaying_background, fun m line hasks => ?_⟩
  · have hsame := HostResponse.errors_of_ofText?_text hstored herrors h
    exact ⟨hsame, by rw [HostResponse.isError, hsame, HostResponse.isError]⟩
  · have hreported : Machine.reported (answerOutcome r) =
        if r.isError then [(ShellError.host (joined ", " r.errors)).message] else [] := by
      unfold answerOutcome
      split <;> rfl
    rw [← hreported]
    exact hasks.completes

/-- A machine whose shell has this host. -/
def machineAt (host : Host) : Machine := .ofShell { host := host }

theorem asks_machineAt (host : Host) {line : String} {args : Option String} {v : Value}
    {items : List Value} {target command : String}
    (hline : Stage.parseLine line = [⟨"background", args⟩]) (hitems : askedItems false args = v :: items)
    (htarget : splitTarget? v.display = some (target, command)) :
    AsksHost (machineAt host) line
      (host.send target command (payloadOf (items.map (·.display)))) := by
  have hbuiltin : (Registry.builtin.lookup? "background").map (·.name) = some "background" := by
    decide +kernel
  obtain ⟨spec, hspec, hname⟩ := Shell.command?_builtin (s := { host := host }) rfl hbuiltin
  exact ⟨Machine.prompt_ofShell Registry.named_builtin, rfl, ⟨"background", args⟩, spec, v, items,
    target, command, hline, hspec, hname, hitems, htarget, rfl⟩

/-- An answer with values of all kinds, some of them inside others. -/
def tabState : HostResponse := .ok
  [("active", .bool true), ("count", .integer (-3)),
    ("tabs", .array [.object [("title", .text "a \"b\""), ("zoom", .number 2.5)], .null])]

/-- A host that has this answer to one message. -/
def tabHost : Host := .local [⟨"tabs", "state", fun _ => tabState⟩]

/-- An answer of several levels is written by a line, and reads back. -/
theorem answers_read_back_nested :
    (Json.object tabState.data).Stored ∧ "errors" ∉ tabState.data.keys ∧
      AsksHost (machineAt tabHost) "background tabs:state" tabState ∧
      HostResponse.ofText? tabState.text = some tabState ∧
      (machineAt tabHost).Completes "background tabs:state" [.text tabState.text] []
        (machineAt tabHost).job.shell := by
  have hstored : (Json.object tabState.data).Stored := by decide
  have herrors : "errors" ∉ tabState.data.keys := by decide
  have hline : Stage.parseLine "background tabs:state" = [⟨"background", some "tabs:state"⟩] := by
    decide +kernel
  have hitems : askedItems false (some "tabs:state") = [.text "tabs:state"] := rfl
  have htarget : splitTarget? (Value.text "tabs:state").display = some ("tabs", "state") := by
    decide +kernel
  have hasks := asks_machineAt tabHost hline hitems htarget
  obtain ⟨hreads, -, -, hcompletes⟩ := answers_read_back hstored herrors
  refine ⟨hstored, herrors, hasks, hreads.mpr ⟨by decide, fun x hx => ?_⟩, hcompletes _ _ hasks⟩
  obtain rfl : x = 2.5 := by
    simpa [tabState, HostResponse.ok, Json.parts, Json.partsOfFields, Json.partsOfItems] using hx
  decide +kernel

/-- A host that answers with the fields of the message. -/
def echoHost : Host := .local [⟨"background", "echo", .ok⟩]

/-- So many arrays, each the only element of the one around it. -/
def arrays : Nat → Json
  | 0 => .null
  | n + 1 => .array [arrays n]

theorem nesting_arrays (n : Nat) : (arrays n).nesting = n := by
  induction n with
  | zero => rfl
  | succ n ih => simp [arrays, Json.nesting, Json.nestingOfItems, ih]

theorem stored_arrays (n : Nat) : (arrays n).Stored := by
  induction n with
  | zero => decide
  | succ n ih => simpa [arrays, Json.Stored, Json.parts, Json.partsOfItems, Json.Held] using ih

/-- A success with one field. -/
def singleField (name : String) (j : Json) : HostResponse := .ok [(name, j)]

theorem stored_singleField (name : String) {j : Json} (h : j.Stored) :
    (Json.object (singleField name j).data).Stored := by
  have hone : Keyed.Ordered [(name, j)] := List.pairwise_singleton ..
  simpa [singleField, HostResponse.ok, Json.Stored, Json.parts, Json.partsOfFields, Json.Held, hone]
    using h

theorem ofText?_singleField (name : String) {j : Json} (h : j.Stored) :
    HostResponse.ofText? (singleField name j).text =
      (Json.reread Json.nestingLimit (.object [(name, j)])).bind HostResponse.ofJson? := by
  rw [HostResponse.ofText?, HostResponse.text, Json.read?_compact]
  · rfl
  · intro n hn
    exact stored_singleField name h _ hn

/-- Answers that do not read back: a field `errors` that is no list is refused where the errors should
stand, and a list is taken for the errors; a number comes back as its neighbour; and too many levels are
refused. -/
theorem answers_confused :
    let refused := singleField "errors" (.text "x")
    let failed := singleField "errors" (.array [.text "x"])
    let near := singleField "x" (.number 9007199254740991.0)
    let deep := singleField "x" (arrays 127)
    (Json.object refused.data).Stored ∧ HostResponse.ofText? refused.text = none ∧
      (machineAt echoHost).Completes "background background:echo errors:x" [.text refused.text] []
        (machineAt echoHost).job.shell ∧
      (Json.object failed.data).Stored ∧ failed.isError = false ∧
      HostResponse.ofText? failed.text = some (.error "x") ∧ (HostResponse.error "x").isError = true ∧
      (Json.object near.data).Stored ∧ HostResponse.ofText? near.text ≠ some near ∧
      (Json.object deep.data).Stored ∧ HostResponse.ofText? deep.text ≠ some deep := by
  have hnear : (Json.object (singleField "x" (.number 9007199254740991.0)).data).Stored := by decide
  have hdeep := stored_singleField "x" (stored_arrays 127)
  have hline : Stage.parseLine "background background:echo errors:x" =
      [⟨"background", some "background:echo errors:x"⟩] := by decide +kernel
  have hitems : askedItems false (some "background:echo errors:x") =
      [.text "background:echo", .text "errors:x"] := rfl
  have htarget : splitTarget? (Value.text "background:echo").display =
      some ("background", "echo") := by decide +kernel
  refine ⟨by decide, ?_, (asks_machineAt echoHost hline hitems htarget).completes, by decide, rfl, ?_,
    rfl, hnear, ?_, hdeep, ?_⟩
  · rw [ofText?_singleField _ (by decide)]
    rfl
  · rw [ofText?_singleField _ (by decide)]
    rfl
  · rw [Ne, HostResponse.ofText?_text_eq_self_iff hnear (by decide)]
    rintro ⟨-, hsurvives⟩
    have hx := hsurvives 9007199254740991.0
      (by simp [singleField, HostResponse.ok, Json.parts, Json.partsOfFields])
    revert hx
    decide +kernel
  · rw [Ne, HostResponse.ofText?_text_eq_self_iff hdeep (by decide)]
    rintro ⟨hnesting, -⟩
    simp [singleField, HostResponse.ok, Json.nesting, Json.nestingOfFields, nesting_arrays,
      Json.nestingLimit] at hnesting

end Command

end Pipework
