/-!
# Session — where queries go

The settings of the query sessions to a node.
-/

namespace NodeSidecar.Session

/-- The port that a node takes queries on. -/
def defaultPort : Nat := 9042

/-- Where queries go, and how long they may take. -/
structure Settings where
  /-- The host of the node. -/
  host : String
  /-- Its port. -/
  port : Nat
  /-- How long opening a session may take, in milliseconds. -/
  connectTimeout : Nat
  /-- How long one query may take, in milliseconds. -/
  requestTimeout : Nat
  deriving DecidableEq, Repr

/-- Sessions to the node on the same machine. -/
def Settings.standard : Settings :=
  ⟨"127.0.0.1", defaultPort, 5000, 5000⟩

end NodeSidecar.Session
