import NodeSidecar.Management.Proxy
import NodeSidecar.Text.Blank
/-!
# Management — the storage service

The managed object through which a node's storage is run, the uses that are
made of it, and the order for a snapshot of a table.
-/

namespace NodeSidecar.Management

namespace Storage

/-- The name of the object. -/
def objectName : String :=
  "org.apache.cassandra.db:type=StorageService"

/-- The interface of the object. -/
def declaration : Declaration where
  name := "StorageServiceMBean"
  members :=
    [⟨"take_snapshot", "takeSnapshot",
        .operation ["java.lang.String", "java.util.Map", "[Ljava.lang.String;"]⟩,
      ⟨"operation_mode", "OperationMode", .attributeRead⟩,
      ⟨"release_version", "ReleaseVersion", .attributeRead⟩,
      ⟨"refresh_size_estimates", "refreshSizeEstimates", .operation []⟩]

/-- The proxy for the object. -/
def proxy : Except Fault Proxy :=
  Proxy.bind objectName declaration

/-- Takes a snapshot of these entities under a tag. Left-out options are no
options. -/
def takeSnapshot (tag : String) (options : Option (List (String × String)))
    (entities : List String) : Use :=
  .call "take_snapshot" [.text tag, .table (options.getD []), .texts entities]

/-- Reads the node's mode of operation. -/
def operationMode : Use :=
  .get "operation_mode"

/-- Reads the node's release. -/
def releaseVersion : Use :=
  .get "release_version"

/-- Has the sizes of tables estimated anew. -/
def refreshSizeEstimates : Use :=
  .call "refresh_size_estimates" []

end Storage

/-- An order for a snapshot of one table. -/
structure SnapshotOrder where
  /-- What the snapshot is called. -/
  tag : String
  /-- The keyspace of the table. -/
  keyspace : String
  /-- The table. -/
  table : String
  /-- Options, such as `ttl`. -/
  options : Option (List (String × String))
  deriving DecidableEq, Repr

namespace SnapshotOrder

/-- The first part of the order that is blank, by the name that callers know
it by. -/
def blankPart? (o : SnapshotOrder) : Option String :=
  if Text.isAllBlank o.tag.toList then some "snapshot tag"
  else if Text.isAllBlank o.keyspace.toList then some "keyspace"
  else if Text.isAllBlank o.table.toList then some "table"
  else none

/-- The table as the storage service names it. -/
def entity (o : SnapshotOrder) : String :=
  s!"{o.keyspace}.{o.table}"

/-- The use that carries the order out, and of which proxy; an order with a
blank part is refused. -/
def use (o : SnapshotOrder) : Except Fault (Proxy × Use) :=
  match o.blankPart? with
  | some part => .error (.invalidArgument s!"{part} must be non-empty")
  | none =>
    match Storage.proxy with
    | .error fault => .error fault
    | .ok p => .ok (p, Storage.takeSnapshot o.tag o.options [o.entity])

/-- The request that the order comes to. -/
def request (o : SnapshotOrder) : Except Fault Request :=
  match o.use with
  | .error fault => .error fault
  | .ok (p, u) => u.request p

end SnapshotOrder

end NodeSidecar.Management
