import NodeSidecar.Management.Link
/-!
# Roster — the managed nodes as configured

Which nodes are managed, and how each of them is found: by id, by host, or by
default, which is the first one. There is always a first node, and no two
nodes share an id.
-/

namespace NodeSidecar

/-- One managed node as configured. -/
structure Managed where
  /-- The node's id. -/
  id : Nat
  /-- The host its queries go to. -/
  host : String
  /-- The port its queries go to. -/
  port : Nat
  /-- Where it keeps its data. -/
  directories : List String
  /-- Its management endpoint. -/
  link : Management.LinkSettings
  deriving DecidableEq, Repr

namespace Managed

/-- Where the node's queries go, as text. -/
def queryEndpoint (m : Managed) : String :=
  s!"{m.host}:{m.port}"

end Managed

/-- The first number that has been there before. -/
def firstRepeated? : (seen rest : List Nat) → Option Nat
  | _, [] => none
  | seen, n :: rest => if n ∈ seen then some n else firstRepeated? (n :: seen) rest

/-- The managed nodes, in the order they were configured. -/
structure Roster where
  /-- The first node. -/
  first : Managed
  /-- The other nodes. -/
  others : List Managed
  deriving DecidableEq, Repr

namespace Roster

/-- The roster of these nodes. There must be one, and no two may have the same
id. -/
def ofList : List Managed → Except Fault Roster
  | [] => .error (.configuration "no instances configured")
  | first :: others =>
    match firstRepeated? [] ((first :: others).map (·.id)) with
    | some id => .error (.configuration s!"duplicate instance id {id}")
    | none => .ok ⟨first, others⟩

/-- The nodes, in the order they were configured. -/
def toList (r : Roster) : List Managed :=
  r.first :: r.others

/-- How many nodes there are. -/
def size (r : Roster) : Nat :=
  r.toList.length

/-- The place of the node with this id. -/
def index (r : Roster) (id : Nat) : Except Fault Nat :=
  match r.toList.findIdx? (·.id = id) with
  | some index => .ok index
  | none => .error (.instanceNotFound id)

/-- The place of the node with this id, or of the first node when no id is
given. -/
def indexOrFirst (r : Roster) : Option Nat → Except Fault Nat
  | none => .ok 0
  | some id => r.index id

/-- The nodes by their ids, put into a table one after the other; a node takes
the place of one with its id. -/
def tableOf (nodes : List Managed) : Nat → Option Managed :=
  nodes.foldl (fun table m id => if id = m.id then some m else table id) fun _ => none

/-- The node with this id, from the table by ids. -/
def find (r : Roster) (id : Nat) : Except Fault Managed :=
  match tableOf r.toList id with
  | some m => .ok m
  | none => .error (.instanceNotFound id)

/-- The node with this id, or the first node when no id is given. -/
def findOrFirst (r : Roster) : Option Nat → Except Fault Managed
  | none => .ok r.first
  | some id => r.find id

/-- Two hosts that differ at most in the case of ASCII letters. -/
def sameHost (a b : String) : Bool :=
  a.toList.map Char.toLower = b.toList.map Char.toLower

/-- The first node with this host; the case of ASCII letters does not
matter. -/
def onHost? (r : Roster) (host : String) : Option Managed :=
  r.toList.find? (sameHost ·.host host)

end Roster

end NodeSidecar
