import Pipework.Json.Printer

/-!
# The host

The shell runs inside a host that answers messages: a target, a command and a payload of fields.
A host response is a list of errors, which is empty for a success, and fields of data.

* A shell without a host gets an error for every message.
* A local host answers from its handlers; the command `listCommands` lists the commands of a target
  unless a handler takes it.
-/

namespace Pipework

/-- The answer of a host. -/
structure HostResponse where
  /-- What went wrong; empty for a success. -/
  errors : List String := []
  /-- The fields of the answer. -/
  data : Keyed Json := []
  deriving Inhabited

namespace HostResponse

/-- The response is a failure. -/
def isError (r : HostResponse) : Bool := !r.errors.isEmpty

/-- A success. -/
def ok (data : Keyed Json) : HostResponse := { data := data }

/-- A failure with one error. -/
def error (message : String) : HostResponse := { errors := [message] }

/-- The response as one object: the errors, if there are any, before the fields of data. -/
def toJson (r : HostResponse) : Json :=
  let errors := if r.errors.isEmpty then [] else [("errors", Json.array (r.errors.map .text))]
  .object (errors ++ r.data)

/-- The response that an object stands for: its field `errors` is a list of texts and may be absent,
but not stand twice; all other fields are data. -/
def ofJson? : Json → Option HostResponse
  | .object fields =>
    let data := match (Json.object (fields.filter (·.1 != "errors"))).canonical with
      | .object data => data
      | _ => []
    match fields.filter (·.1 == "errors") with
    | [] => some { data := data }
    | [(_, j)] => j.texts?.map fun errors => { errors := errors, data := data }
    | _ => none
  | _ => none

end HostResponse

/-- What a local host does with one command of one target. -/
structure Handler where
  /-- The target. -/
  target : String
  /-- The command. -/
  command : String
  /-- The answer to a payload. -/
  reply : Keyed Json → HostResponse

/-- Who answers the messages of a shell. -/
inductive Host where
  /-- Nobody. -/
  | absent
  /-- Handlers in the same process; the last one for a command counts. -/
  | local (handlers : List Handler)

namespace Host

/-- The commands that have a handler for a target, in order, each once. -/
def commandsOf (handlers : List Handler) (target : String) : List String :=
  (Keyed.ofList ((handlers.filter (·.target == target)).map fun h => (h.command, ()))).keys

/-- Answer a message. -/
def send (host : Host) (target command : String) (payload : Keyed Json) : HostResponse :=
  match host with
  | .absent => .error s!"no host attached for {target}:{command}"
  | .local handlers =>
    match handlers.reverse.find? fun h => h.target == target && h.command == command with
    | some h => h.reply payload
    | none =>
      if command == "listCommands" then
        .ok [("commands", .array ((commandsOf handlers target).map .text))]
      else .error s!"unknown command {target}:{command}"

end Host

end Pipework
