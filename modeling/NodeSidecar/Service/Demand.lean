import NodeSidecar.Http.Response
import NodeSidecar.Http.Target
/-!
# Service — what callers can ask

The resources of the service, the paths they are at, and what a request for
one of them asks once its path and query have been read. A request that
cannot be read is refused here, before its body is looked at.
-/

namespace NodeSidecar.Service

open Text (Octets)
open Http (Target Response)

/-- What is at a path. Names in a path are still undecoded. -/
inductive Resource where
  /-- Whether the service is up. -/
  | health
  /-- Whether a node is up, the node given by the query. -/
  | nodeHealth
  /-- Whether a node is up, the node given by the path. -/
  | nodeHealthAt (id : List Char)
  /-- What a node says of itself. -/
  | settings
  /-- A snapshot of a table. -/
  | snapshot (keyspace table tag : List Char)
  /-- What is exposed about the nodes. -/
  | metrics
  deriving DecidableEq, Repr

namespace Resource

/-- The resource at a path. A name in the middle of a path may be empty, the
last one may not. -/
def at? (segments : List (List Char)) : Option Resource :=
  match segments with
  | [a] => if a = "metrics".toList then some metrics else none
  | [a, b, c] =>
    if [a, b, c] = ["api", "v1", "__health"].map String.toList then some health else none
  | [a, b, c, d] =>
    if [a, b, c, d] = ["api", "v1", "cassandra", "__health"].map String.toList then
      some nodeHealth
    else if [a, b, c, d] = ["api", "v1", "cassandra", "settings"].map String.toList then
      some settings
    else none
  | [a, b, c, d, id, e] =>
    if [a, b, c, d, e] = ["api", "v1", "cassandra", "instance", "__health"].map String.toList then
      some (nodeHealthAt id)
    else none
  | [a, b, c, keyspace, d, table, e, tag] =>
    if [a, b, c, d, e] = ["api", "v1", "keyspace", "table", "snapshots"].map String.toList
        ∧ tag ≠ [] then
      some (snapshot keyspace table tag)
    else none
  | _ => none

/-- The methods that a resource takes. -/
def methods : Resource → List String
  | snapshot .. => ["PUT"]
  | _ => ["GET", "HEAD"]

end Resource

/-- What is asked. -/
inductive Demand where
  /-- Whether the service is up. -/
  | health
  /-- Whether a node is up. -/
  | nodeHealth (id : Option Nat)
  /-- What a node says of itself. -/
  | settings (id : Option Nat)
  /-- A snapshot of a table. -/
  | snapshot (keyspace table tag : String) (id : Option Nat)
  /-- What is exposed about the nodes. -/
  | metrics
  deriving DecidableEq, Repr

namespace Demand

/-- The id that a text spells. -/
def id? (text : String) : Option Nat :=
  Text.number? Text.max32 text.toList

/-- The id in a query, which may be left out but not given twice. -/
def queryId? (t : Target) : Option (Option Nat) :=
  match t.values "instanceId" with
  | [] => some none
  | [some text] => (id? text).map some
  | _ => none

/-- What a request for a resource asks, if its target can be read. -/
def read? (resource : Resource) (t : Target) : Option Demand :=
  match resource with
  | .health => some health
  | .metrics => some metrics
  | .nodeHealth => (queryId? t).map nodeHealth
  | .settings => (queryId? t).map settings
  | .nodeHealthAt id => ((Http.segmentText? id).bind id?).map fun id => nodeHealth (some id)
  | .snapshot keyspace table tag => do
    let keyspace ← Http.segmentText? keyspace
    let table ← Http.segmentText? table
    let tag ← Http.segmentText? tag
    let id ← queryId? t
    return snapshot keyspace table tag id

/-- The longest body that is read, in octets. -/
def longestBody : Nat := 2097152

/-- What a request asks, or the response that refuses it. -/
def ofRequest (method : String) (t : Target) (body : Octets) : Except Response Demand :=
  match Resource.at? t.segments with
  | none => .error .notFound
  | some resource =>
    if method ∉ resource.methods then .error (.methodNotAllowed resource.methods)
    else
      match read? resource t with
      | none => .error .badTarget
      | some (.snapshot keyspace table tag id) =>
        if longestBody < body.length then .error .tooLong
        else .ok (.snapshot keyspace table tag id)
      | some demand => .ok demand

end Demand

end NodeSidecar.Service
