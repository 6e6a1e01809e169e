import NodeSidecar.Http.Status
import NodeSidecar.Json.Read
import NodeSidecar.Management.Link
import NodeSidecar.Text.Utf8
/-!
# Management — the agent

Managed objects are reached through an agent on the node. A request to it is a
JSON object, and so is its answer: an envelope with a status and either a value
or the reason why there is none. What goes wrong on the way is told apart from
what goes wrong at the managed object.
-/

namespace NodeSidecar.Management

namespace Agent

/-- Where the agent is asked, at an endpoint. -/
def url (s : LinkSettings) : String :=
  (if s.encrypted then "https" else "http") ++ "://" ++ s.endpoint ++ "/jolokia/"

/-- The request that a connection begins with. -/
def versionRequest : Json :=
  .object [("type", .string "version")]

/-- An operation with the types of its parameters, which tell it from others of
its name. -/
def operationText (operation : String) (signature : List String) : String :=
  if signature.isEmpty then operation
  else operation ++ "(" ++ String.intercalate "," signature ++ ")"

/-- A request as the agent is asked it. -/
def requestJson : Request → Json
  | .read object name =>
    .object [("type", .string "read"), ("mbean", .string object.text), ("attribute", .string name)]
  | .invoke object operation signature arguments =>
    .object [("type", .string "exec"), ("mbean", .string object.text),
      ("operation", .string (operationText operation signature)),
      ("arguments", .array (arguments.map Value.toJson))]

/-- The object and the member that a request is about. -/
def subject : Option Request → String × String
  | none => ("jolokia", "version")
  | some (.read object name) => (object.text, name)
  | some (.invoke object operation _ _) => (object.text, operation)

/-- What an answer carries. -/
structure Envelope where
  /-- How the managed object fared. -/
  status : Nat
  /-- What it answered. -/
  value : Json
  /-- What went wrong. -/
  error : Option String
  /-- What kind of thing went wrong. -/
  errorType : Option String

namespace Envelope

/-- The status that an envelope says has a value. -/
def success : Nat := 200

/-- A status of sixteen bits. -/
def readStatus : Json → Option Nat
  | .number (.whole n) => if 0 ≤ n ∧ n.toNat ≤ Text.max16 then some n.toNat else none
  | _ => none

/-- A text that may be null or left out. -/
def readText : Option Json → Option (Option String)
  | none | some .null => some none
  | some (.string s) => some (some s)
  | _ => none

/-- The parts of an envelope. -/
def ofParts (status : Option Json) (value error errorType : Option Json) : Option Envelope := do
  let status ← status.bind readStatus
  let error ← readText error
  let errorType ← readText errorType
  return ⟨status, (value.map Json.canonical).getD .null, error, errorType⟩

/-- The field of a name, if it is there; it must not be there twice. -/
def field? (fields : List (String × Json)) (name : String) : Option (Option Json) :=
  match fields.filter (·.1 = name) with
  | [] => some none
  | [f] => some (some f.2)
  | _ => none

/-- The envelope in a JSON value, which may also be the row of its parts. -/
def ofJson? : Json → Option Envelope
  | .object fields => do
    let status ← field? fields "status"
    let value ← field? fields "value"
    let error ← field? fields "error"
    let errorType ← field? fields "error_type"
    ofParts status value error errorType
  | .array items =>
    if 4 < items.length then none else ofParts items[0]? items[1]? items[2]? items[3]?
  | _ => none

/-- Why an envelope has no value. -/
def reason (e : Envelope) : String :=
  match e.error, e.errorType with
  | some error, _ => error
  | none, some errorType => errorType
  | none, none => s!"status {e.status}"

end Envelope

/-- What comes back from the agent. -/
inductive Reply where
  /-- A response with a status code and a body. -/
  | response (status : Nat) (body : Text.Octets)
  /-- Nothing, because the agent is out of reach. -/
  | outOfReach (reason : String)

/-- The envelope in a body. -/
def readBody (body : Text.Octets) : Option Envelope :=
  match Text.decodeUtf8 body with
  | .ok text => (Json.read? text).bind Envelope.ofJson?
  | .error _ => none

/-- The value that the agent answers a request with; at the beginning of a
connection there is no request yet. -/
def answer (endpoint : String) (request : Option Request) : Reply → Except Fault Json
  | .outOfReach reason => .error (.managementUnavailable endpoint reason)
  | .response status body =>
    if status = 401 ∨ status = 403 then
      .error (.managementUnavailable endpoint
        ("authentication rejected (" ++ Http.statusText status ++ ")"))
    else if !Http.isSuccess status then
      .error (.managementUnavailable endpoint ("unexpected HTTP status " ++ Http.statusText status))
    else
      match readBody body with
      | none => .error (.managementUnavailable endpoint "invalid response: not an envelope")
      | some e =>
        if e.status = Envelope.success then .ok e.value
        else .error (.remoteInvocation (subject request).1 (subject request).2 e.reason)

/-- What comes of opening a connection to the agent. -/
def opened (endpoint : String) (reply : Reply) : Except Fault Unit :=
  (answer endpoint none reply).map fun _ => ()

/-- What comes of a request. -/
def answered (endpoint : String) (request : Request) (reply : Reply) : Except Fault Value :=
  (answer endpoint (some request) reply).map Value.ofJson

end Agent

end NodeSidecar.Management
