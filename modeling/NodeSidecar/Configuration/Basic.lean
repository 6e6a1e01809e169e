import NodeSidecar.Fleet.Basic
import NodeSidecar.Roster
import NodeSidecar.Text.Blank
import NodeSidecar.Text.Split
/-!
# Configuration — what is configured

The sections of a configuration with their defaults, when a configuration can
be used, and the roster of the nodes it configures. Nodes are configured in a
list, or as a single node that takes the place of the list.
-/

namespace NodeSidecar

namespace Configuration

/-- How the service is offered. -/
structure ServiceSection where
  /-- The host it listens on. -/
  host : String
  /-- The port it listens on. -/
  port : Nat
  /-- How long the work on one request may take, in milliseconds. -/
  requestTimeout : Nat
  deriving DecidableEq, Repr

/-- The service when nothing is said of it. -/
def ServiceSection.standard : ServiceSection :=
  ⟨"0.0.0.0", 9043, 5000⟩

/-- How nodes are probed. -/
structure ProbeSection where
  /-- The time between two probes, in milliseconds. -/
  period : Nat
  deriving DecidableEq, Repr

/-- Probing when nothing is said of it. -/
def ProbeSection.standard : ProbeSection :=
  ⟨1000⟩

/-- One node. -/
structure NodeSection where
  /-- The node's id. -/
  id : Nat
  /-- The host its queries go to. -/
  host : String
  /-- The port its queries go to. -/
  port : Nat
  /-- Where it keeps its data, separated by commas. -/
  directories : String
  /-- The host of its management endpoint. -/
  linkHost : String
  /-- The port of its management endpoint. -/
  linkPort : Nat
  /-- The role to manage it in. -/
  role : Option String
  /-- The password of the role. -/
  password : Option String
  /-- Whether the management connection is encrypted. -/
  encrypted : Bool
  deriving DecidableEq, Repr

namespace NodeSection

/-- The id of a node that is given none. -/
def standardId : Nat := 1

/-- The host of the management endpoint of a node that is given none. -/
def standardLinkHost : String := "127.0.0.1"

/-- The directories, one by one. -/
def directoryList (s : NodeSection) : List String :=
  (((Text.pieces ',' s.directories.toList).map Text.trim).filter (!·.isEmpty)).map String.ofList

/-- The management endpoint, when connecting and requests may take so many
milliseconds. -/
def link (s : NodeSection) (timeout : Nat) : Management.LinkSettings :=
  ⟨s.linkHost, s.linkPort, s.role, s.password, s.encrypted, timeout⟩

/-- The node, as it is managed. -/
def managed (s : NodeSection) (timeout : Nat) : Managed :=
  ⟨s.id, s.host, s.port, s.directoryList, s.link timeout⟩

/-- The first reason why a node cannot be managed so. -/
def flaw? (s : NodeSection) : Option String :=
  if Text.isAllBlank s.host.toList then some "host must be set"
  else if s.port = 0 then some "port must be non-zero"
  else if Text.isAllBlank s.linkHost.toList then some "jmx_host must be set"
  else if s.linkPort = 0 then some "jmx_port must be non-zero"
  else if s.directoryList.isEmpty then some "at least one data directory is required"
  else if s.role.isSome ≠ s.password.isSome then
    some "jmx_role and jmx_role_password must be set together"
  else none

end NodeSection

end Configuration

/-- A configuration. -/
structure Configuration where
  /-- How the service is offered. -/
  service : Configuration.ServiceSection
  /-- How nodes are probed. -/
  probes : Configuration.ProbeSection
  /-- The single node, if there is one. -/
  single : Option Configuration.NodeSection
  /-- The list of nodes. -/
  several : List Configuration.NodeSection
  deriving DecidableEq, Repr

namespace Configuration

/-- The nodes that are managed: the single one if there is one, those of the
list otherwise. -/
def nodes (c : Configuration) : List NodeSection :=
  match c.single with
  | some s => [s]
  | none => c.several

/-- The first flaw among nodes that follow nodes with these ids. Each node is
looked at by itself before its id is compared with those before it. -/
def firstFlaw? : (seen : List Nat) → List NodeSection → Option Fault
  | _, [] => none
  | seen, s :: rest =>
    match s.flaw? with
    | some reason => some (.configuration s!"instance {s.id}: {reason}")
    | none =>
      if s.id ∈ seen then some (.configuration s!"duplicate instance id {s.id}")
      else firstFlaw? (s.id :: seen) rest

/-- The first reason why a configuration cannot be used. -/
def flaw? (c : Configuration) : Option Fault :=
  if c.nodes.isEmpty then
    some (.configuration "at least one cassandra instance must be configured")
  else if c.probes.period = 0 then
    some (.configuration "healthcheck.poll_freq_millis must be positive")
  else if c.service.requestTimeout = 0 then
    some (.configuration "sidecar.request_timeout_millis must be positive")
  else firstFlaw? [] c.nodes

/-- The configuration, if it can be used. -/
def validate (c : Configuration) : Except Fault Configuration :=
  match c.flaw? with
  | some fault => .error fault
  | none => .ok c

/-- The roster of the configured nodes. -/
def roster (c : Configuration) : Except Fault Roster :=
  Roster.ofList (c.nodes.map (·.managed c.service.requestTimeout))

/-- The fleet of the nodes of a roster, all served from one catalog. -/
def fleet (catalog : Catalog) (r : Roster) : Fleet :=
  .fresh (r.toList.map fun m => .fresh m.id catalog)

end Configuration

end NodeSidecar
