import NodeSidecar.Node.Calls
/-!
# Rehearsal — scripted surroundings of a node

What a node's surroundings do is written down in a script: what the node says
of itself, whether it can be reached, what its managed objects answer, and
where calls are held up. A tally counts what was asked of the surroundings.
-/

namespace NodeSidecar.Rehearsal

open Management (Request Value)

/-- Where calls can be held up. -/
inductive Gate where
  /-- Before a session is given out. -/
  | connect
  /-- Before a query is answered. -/
  | query
  /-- Before a management connection is opened. -/
  | linkConnect
  /-- Before a managed object answers. -/
  | linkCall
  deriving DecidableEq, Repr

/-- What the surroundings of a node do. -/
structure Script where
  /-- The release the node reports. -/
  version : String
  /-- The rows it answers queries with, in place of one row of its own. -/
  rows : Option (List Wire.Row)
  /-- Sessions to it can be opened. -/
  reachable : Bool
  /-- Why queries fail, if they do. -/
  failure : Option Fault
  /-- The gates that are shut. -/
  shut : List Gate
  /-- Its management endpoint. -/
  linkEndpoint : String
  /-- Why management connections cannot be opened, if they cannot. -/
  linkRefusal : Option String
  /-- Management connections are broken. -/
  linkBroken : Bool
  /-- The values of its attributes, the one set last first. -/
  attributes : List (String × Value)
  /-- What its operations answer, the one set last first. -/
  results : List (String × Value)
  /-- Why its operations fail, if they do. -/
  failures : List (String × String)

namespace Script

/-- The surroundings of a node that is well and runs a release. -/
def well (version linkEndpoint : String) : Script where
  version := version
  rows := none
  reachable := true
  failure := none
  shut := []
  linkEndpoint := linkEndpoint
  linkRefusal := none
  linkBroken := false
  attributes := []
  results := []
  failures := []

/-- The node runs a release from now on, and says so in a row of its own. -/
def runRelease (s : Script) (version : String) : Script :=
  { s with version := version, rows := none }

/-- Calls are held up at a gate from now on. -/
def shutGate (s : Script) (g : Gate) : Script :=
  { s with shut := g :: s.shut }

/-- Calls pass a gate from now on. -/
def openGate (s : Script) (g : Gate) : Script :=
  { s with shut := s.shut.filter (· ≠ g) }

/-- An operation fails for a reason from now on, or works again. -/
def failOperation (s : Script) (name : String) (reason : Option String) : Script :=
  let others := s.failures.filter (·.1 ≠ name)
  match reason with
  | some reason => { s with failures := (name, reason) :: others }
  | none => { s with failures := others }

/-- Where queries to the node go. -/
def queryEndpoint : String :=
  "127.0.0.1:9042"

/-- The row a node says of itself. -/
def ownRow (s : Script) : Wire.Row :=
  .ofTexts [("release_version", s.version),
    ("partitioner", "org.apache.cassandra.dht.Murmur3Partitioner")]

/-- What a query is answered on a session that is open, or not. -/
def answerQuery (s : Script) (isOpen : Bool) : Except Fault (List Wire.Row) :=
  if !isOpen then .error (.sessionUnavailable queryEndpoint "connection reset")
  else
    match s.failure with
    | some fault => .error fault
    | none => .ok (s.rows.getD [s.ownRow])

/-- What comes of opening a management connection. -/
def answerConnect (s : Script) : Except Fault Unit :=
  match s.linkRefusal with
  | none => .ok ()
  | some reason => .error (.managementUnavailable s.linkEndpoint reason)

/-- What a managed object answers. -/
def answerRequest (s : Script) (r : Request) : Except Fault Value :=
  if s.linkBroken then .error (.managementUnavailable s.linkEndpoint "connection reset")
  else
    match r with
    | .read object name =>
      match s.attributes.lookup name with
      | some v => .ok v
      | none => .error (.remoteInvocation object.text name "attribute not found")
    | .invoke object operation _ _ =>
      match s.failures.lookup operation with
      | some reason => .error (.remoteInvocation object.text operation reason)
      | none => .ok ((s.results.lookup operation).getD .null)

end Script

/-- What was asked of the surroundings. -/
structure Tally where
  /-- The queries. -/
  queries : Nat
  /-- The management connections that were asked for. -/
  attempts : Nat
  /-- The management connections that were opened. -/
  connects : Nat
  /-- The management connections that were closed. -/
  closes : Nat
  /-- The requests to managed objects, the last one first. -/
  requests : List Request

/-- Nothing has been asked. -/
def Tally.zero : Tally :=
  ⟨0, 0, 0, 0, []⟩

/-- The gate in front of what a call waits for. -/
def gate? : Node.Wait → Option Gate
  | .connecting _ | .adapterConnecting => some .connect
  | .querying _ | .adapterQuerying _ => some .query
  | .linkConnecting _ => some .linkConnect
  | .requesting .. => some .linkCall
  | _ => none

/-- Counts what a call begins to wait for. -/
def Tally.note (t : Tally) : Node.Wait → Tally
  | .querying _ | .adapterQuerying _ => { t with queries := t.queries + 1 }
  | .linkConnecting _ => { t with attempts := t.attempts + 1 }
  | .requesting _ r => { t with requests := r :: t.requests }
  | _ => t

end NodeSidecar.Rehearsal
