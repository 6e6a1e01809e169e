import NodeSidecar.Interleaving
import NodeSidecar.Management.Link
import NodeSidecar.Management.Storage
import NodeSidecar.Monitor.Update
/-!
# Node — one managed node and the calls on it

A managed node is its monitor and its management link. This file names the
calls that can be made on it, what they can wait for, what they can be
answered, and their results. `Node.Calls` says how they run.
-/

namespace NodeSidecar

/-- A managed node. -/
structure Node where
  /-- The watch over it. -/
  monitor : Monitor
  /-- The link to its management endpoint. -/
  link : Management.Link
  deriving DecidableEq, Repr

namespace Node

/-- A node before anything has happened. -/
def fresh (id : Nat) (catalog : Catalog) : Node :=
  ⟨.fresh id catalog, .unused⟩

/-- What can be done to a node. The last three are done by its surroundings. -/
inductive Call where
  /-- Find out whether it is up and what it runs. -/
  | probe
  /-- Make sure of a session. -/
  | ensureSession
  /-- Ask for what it last said of itself. -/
  | readSettings
  /-- Let its adapter ask for its settings. -/
  | adapterSettings
  /-- Take a snapshot. -/
  | snapshot (order : Management.SnapshotOrder)
  /-- Make sure of a management connection. -/
  | openLink
  /-- Ask something of a managed object. -/
  | manage (request : Management.Request)
  /-- Give up the management connection. -/
  | closeLink
  /-- End the watch. -/
  | close
  /-- Note that it was reported down. -/
  | reportDown
  /-- A session pushes an event. -/
  | event (session : Nat) (e : Host.Event)
  /-- A session is opened. -/
  | sessionOpened
  /-- A session is lost. -/
  | sessionLost (session : Nat)

/-- What a session is wanted for. -/
inductive Purpose where
  /-- To hand it out. -/
  | session
  /-- To have tried before the settings are told. -/
  | settings
  /-- To probe the node on it. -/
  | probe
  deriving DecidableEq, Repr

/-- What the monitor's lock is wanted for. -/
inductive MonitorWork where
  /-- To open a session. -/
  | connect (purpose : Purpose)
  /-- To give up a session that failed. -/
  | evict (session : Nat)
  /-- To give up the session in use for good. -/
  | shut
  deriving DecidableEq, Repr

/-- What a management connection is wanted for. -/
inductive LinkUse where
  /-- To have it. -/
  | opening
  /-- To send a request on it. -/
  | request (r : Management.Request)

/-- What the link's lock is wanted for. -/
inductive LinkWork where
  /-- To open a connection. -/
  | connect (use : LinkUse)
  /-- To forget a connection that failed, and then to answer this. -/
  | evict (connection : Nat) (answer : Fault)

/-- What a call can wait for. -/
inductive Wait where
  /-- The monitor's lock. -/
  | monitorLock (work : MonitorWork)
  /-- A session from the provider of sessions; holds the monitor's lock. -/
  | connecting (purpose : Purpose)
  /-- The rows of the probe's query. -/
  | querying (session : Nat)
  /-- The end of a session's closing, before a probe is over. -/
  | dropping (session : Nat)
  /-- The end of a session's closing, before the watch is over. -/
  | shutting (session : Nat)
  /-- The end of the closing of the provider of sessions. -/
  | closingProvider
  /-- A session from the provider, for the adapter. -/
  | adapterConnecting
  /-- The rows of the adapter's query. -/
  | adapterQuerying (session : Nat)
  /-- The link's lock. -/
  | linkLock (work : LinkWork)
  /-- A management connection; holds the link's lock. -/
  | linkConnecting (use : LinkUse)
  /-- The answer to a request. -/
  | requesting (connection : Nat) (r : Management.Request)
  /-- The end of a connection's closing. -/
  | linkClosing (connection : Nat)

/-- What a call that waits can be answered. -/
inductive Answer where
  /-- The lock is there. -/
  | granted
  /-- A session, or none because the node is out of reach. -/
  | session (s : Option Nat)
  /-- The rows of a query. -/
  | rows (r : Except Fault (List Wire.Row))
  /-- A management connection was opened, or not. -/
  | connected (r : Except Fault Unit)
  /-- The answer to a request. -/
  | value (r : Except Fault Management.Value)
  /-- What was to be closed is closed. -/
  | closed

/-- What a call results in. -/
inductive Result where
  /-- Nothing to tell. -/
  | finished
  /-- A session, or none. -/
  | session (s : Option Nat)
  /-- What the node last said of itself. -/
  | settings (s : Option NodeSettings)
  /-- What the adapter was told. -/
  | adapterSettings (r : Except Fault (Option NodeSettings))
  /-- What a managed object answered. -/
  | value (r : Except Fault Management.Value)

/-- A stretch of a call on a node. -/
abbrev Step := Stretch Node Call Wait Result

/-- The call waits. -/
def waits (n : Node) (w : Wait) : Step :=
  ⟨n, .wait w, []⟩

/-- The call is over. -/
def ends (n : Node) (r : Result) : Step :=
  ⟨n, .done r, []⟩

/-- The node with its monitor changed. -/
def onMonitor (n : Node) (f : Monitor → Monitor) : Node :=
  { n with monitor := f n.monitor }

/-- The node with its link changed. -/
def onLink (n : Node) (f : Management.Link → Management.Link) : Node :=
  { n with link := f n.link }

end Node

end NodeSidecar
