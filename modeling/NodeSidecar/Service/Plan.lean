import NodeSidecar.Fleet.Metrics
import NodeSidecar.Json.Read
import NodeSidecar.Roster
import NodeSidecar.Service.Demand
import NodeSidecar.Text.Blank
/-!
# Service — how a demand is met

A demand is either met at once, from what the monitors know, or by a call on
one node whose result is turned into a response. Calls run beside the request
and go on when the request has run out of time.
-/

namespace NodeSidecar.Service

open Http (Response)

/-! ## Responses -/

/-- The status code and the word for a fault. -/
def refusal : Fault → Nat × String
  | .invalidArgument .. | .malformedJson .. => (400, "invalid_request")
  | .instanceNotFound .. => (404, "instance_not_found")
  | .adapterUnavailable .. | .sessionUnavailable .. | .managementUnavailable ..
  | .timeout .. => (503, "unavailable")
  | .remoteInvocation .. => (500, "remote_invocation_failed")
  | _ => (500, "internal_error")

/-- The response to a fault. -/
def faultResponse (f : Fault) : Response :=
  .json (refusal f).1
    (.object [("error", .string (refusal f).2), ("message", .string f.message)])

/-- The response that something is up. -/
def upResponse : Response :=
  .json 200 (.object [("status", .string "OK")])

/-- The response that something is not up. -/
def downResponse : Response :=
  .json 503 (.object [("status", .string "NOT_OK")])

/-- The response with what a node says of itself. -/
def settingsResponse : Option NodeSettings → Response
  | some s =>
    .json 200 (.object
      [("releaseVersion", .string s.releaseVersion), ("partitioner", .string s.partitioner)])
  | none => downResponse

/-- The response to a snapshot that was asked for. -/
def snapshotResponse : Except Fault Management.Value → Response
  | .ok _ => .json 200 (.object [("result", .string "Success")])
  | .error f => faultResponse f

/-! ## Options of a snapshot -/

/-- The names and texts of an object; every value, also one whose name comes
again, must be a text. -/
def optionsOf? : Json → Option (List (String × String))
  | .object fields =>
    match fields.mapM fun f => f.2.string? with
    | none => none
    | some _ => (Json.object fields).canonical.texts?
  | _ => none

/-- The options in the body of a request. A blank body has none. -/
def readOptions (body : Text.Octets) : Except Fault (Option (List (String × String))) :=
  if body.all Text.isAsciiBlank then .ok none
  else
    match Text.decodeUtf8 body with
    | .error flaw => .error (.malformedJson flaw.message)
    | .ok text =>
      match (Json.read? text).bind optionsOf? with
      | some options => .ok (some options)
      | none => .error (.malformedJson "not an object of texts")

/-! ## Plans -/

/-- How a demand is met. -/
inductive Plan where
  /-- By a response at once. -/
  | now (r : Response)
  /-- By a call on the node with this index. -/
  | call (index : Nat) (c : Node.Call) (operation : String) (response : Node.Result → Response)

/-- The response to what came of reading the settings of a node. -/
def settingsAnswer : Node.Result → Response
  | .settings s => settingsResponse s
  | _ => downResponse

/-- The response to what came of a snapshot. -/
def snapshotAnswer : Node.Result → Response
  | .value r => snapshotResponse r
  | _ => snapshotResponse (.ok .null)

/-- The response to a call that took too long. -/
def timeoutResponse (operation : String) (millis : Nat) : Response :=
  faultResponse (.timeout operation millis)

/-- The response to a demand that is met by a plan: the result of its call goes
in, or none if that took longer than the milliseconds it was given. -/
def Plan.response (millis : Nat) : Plan → Option Node.Result → Response
  | .now r, _ => r
  | .call _ _ _ response, some result => response result
  | .call _ _ operation _, none => timeoutResponse operation millis

/-- The response with what is exposed about the nodes. -/
def metricsResponse (metrics : Metrics) : Response where
  status := 200
  content := .exposition metrics.text
  allow := []

/-- Whether the node with this index is up, as its monitor knows. -/
def healthResponse (monitors : List Monitor) (index : Nat) : Response :=
  match monitors[index]? with
  | some m => if m.isUp then upResponse else downResponse
  | none => downResponse

/-- The plan for a snapshot. Its body is read first, then its node is looked
up; all else is up to the node. -/
def planSnapshot (roster : Roster) (keyspace table tag : String) (id : Option Nat)
    (body : Text.Octets) : Plan :=
  match readOptions body with
  | .error f => .now (faultResponse f)
  | .ok options =>
    match roster.indexOrFirst id with
    | .error f => .now (faultResponse f)
    | .ok index => .call index (.snapshot ⟨tag, keyspace, table, options⟩) "snapshot" snapshotAnswer

/-- The plan for a demand. -/
def plan (roster : Roster) (monitors : List Monitor) (metrics : Metrics) (body : Text.Octets) :
    Demand → Plan
  | .health => .now upResponse
  | .nodeHealth id =>
    match roster.indexOrFirst id with
    | .error f => .now (faultResponse f)
    | .ok index => .now (healthResponse monitors index)
  | .settings id =>
    match roster.indexOrFirst id with
    | .error f => .now (faultResponse f)
    | .ok index => .call index .readSettings "settings" settingsAnswer
  | .snapshot keyspace table tag id => planSnapshot roster keyspace table tag id body
  | .metrics => .now (metricsResponse metrics)

/-- The samples after a demand: they are taken when they are asked for. -/
def sampled (monitors : List Monitor) (metrics : Metrics) : Demand → Metrics
  | .metrics => metrics.refresh monitors
  | _ => metrics

end NodeSidecar.Service
