import NodeSidecar.Management.Proxy
/-!
# Management — the link to a node's management endpoint

One connection to the endpoint is shared by all requests. It is opened when
it is first needed, and forgotten when a request on it fails for want of a
connection. This file holds the settings of a link and its state; the calls
that work on it are those of the node.
-/

namespace NodeSidecar.Management

/-- The port that the management agent of a node listens on. -/
def defaultPort : Nat := 8778

/-- Where the endpoint is and how to get in. -/
structure LinkSettings where
  /-- The host of the endpoint. -/
  host : String
  /-- Its port. -/
  port : Nat
  /-- The role to act in. -/
  role : Option String
  /-- The password of the role. -/
  password : Option String
  /-- Whether the connection is encrypted. -/
  encrypted : Bool
  /-- How long connecting and each request may take, in milliseconds. -/
  timeout : Nat
  deriving DecidableEq, Repr

namespace LinkSettings

/-- The settings of a link to the node's own machine. -/
def standard : LinkSettings :=
  ⟨"127.0.0.1", defaultPort, none, none, false, 5000⟩

/-- The endpoint as text. -/
def endpoint (s : LinkSettings) : String :=
  s!"{s.host}:{s.port}"

/-- Role and password, when both are there. -/
def credentials (s : LinkSettings) : Option (String × String) :=
  match s.role, s.password with
  | some role, some password => some (role, password)
  | _, _ => none

end LinkSettings

/-- The state of a link. Connections are numbered in the order they were
opened. -/
structure Link where
  /-- The connection in use. -/
  slot : Option Nat
  /-- A call is opening or forgetting a connection; no other may. -/
  locked : Bool
  /-- How many connections have been opened. -/
  opened : Nat
  deriving DecidableEq, Repr

namespace Link

/-- A link that has not been used. -/
def unused : Link :=
  ⟨none, false, 0⟩

/-- A connection is in use. -/
def isConnected (l : Link) : Bool :=
  l.slot.isSome

/-- Takes the lock. -/
def lock (l : Link) : Link :=
  { l with locked := true }

/-- Gives the lock back. -/
def unlock (l : Link) : Link :=
  { l with locked := false }

/-- Puts a newly opened connection to use. -/
def install (l : Link) : Link :=
  { l with slot := some l.opened, opened := l.opened + 1 }

/-- Forgets a connection, unless another one has taken its place. -/
def evict (l : Link) (connection : Nat) : Link :=
  if l.slot = some connection then { l with slot := none } else l

/-- Leaves the link without a connection. -/
def release (l : Link) : Link :=
  { l with slot := none }

end Link

end NodeSidecar.Management
