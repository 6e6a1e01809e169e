import NodeSidecar.Catalog
import NodeSidecar.Host.Listeners
import NodeSidecar.NodeSettings
/-!
# Monitor — the state of one node's watch

The monitor of a node keeps a query session open, remembers what the node
last said of itself, and holds the adapter for the release it last reported.
This file holds the state; `Monitor.Update` what can happen to it in one go.
-/

namespace NodeSidecar

/-- How a node is doing, as far as its monitor knows. -/
inductive Phase where
  /-- Nothing has been tried yet. -/
  | uninitialized
  /-- The first session is being opened. -/
  | connecting
  /-- The last probe succeeded. -/
  | healthy
  /-- The last probe failed, or the node was reported down since. -/
  | down
  /-- The watch is over. -/
  | closed
  deriving DecidableEq, Repr

namespace Phase

/-- The phase in words. -/
def display : Phase → String
  | uninitialized => "uninitialized"
  | connecting => "connecting"
  | healthy => "healthy"
  | down => "down"
  | closed => "closed"

/-- The phase as callers are told. -/
def code : Phase → String
  | uninitialized => "UNINITIALIZED"
  | connecting => "CONNECTING"
  | healthy => "HEALTHY"
  | down => "DOWN"
  | closed => "CLOSED"

end Phase

/-- What a monitor does when it is told of a change. -/
inductive Reaction where
  /-- It probes the node. -/
  | probe
  /-- It forgets what the node said of itself. -/
  | forget
  deriving DecidableEq, Repr

/-- The listener of a monitor: word that a host is down makes it forget, any
other change makes it probe. -/
def monitorListener : Host.Listener Reaction :=
  ⟨some .probe, some .probe, some .forget, some .probe⟩

/-- A query session to the node. -/
structure QuerySession where
  /-- It was closed or lost. -/
  closed : Bool
  /-- Who wants to be told of changes. -/
  listeners : Host.Listeners Reaction
  deriving DecidableEq, Repr

/-- A session that was just opened. -/
def QuerySession.opened : QuerySession :=
  ⟨false, Host.Listeners.empty⟩

/-- The adapter in use. -/
structure Adapter where
  /-- The release it was built for. -/
  version : Version
  /-- The factory that built it. -/
  factory : Factory
  /-- Which of the factory's adapters it is, counted from one. -/
  serial : Nat
  deriving DecidableEq, Repr

/-- What a monitor counts. -/
structure Counts where
  /-- Probes that ran. -/
  probes : Nat
  /-- Probes left out because one was running. -/
  skipped : Nat
  /-- Adapters put to use. -/
  swaps : Nat
  /-- Probes that found the node down. -/
  failures : Nat
  deriving DecidableEq, Repr

/-- What a monitor warns of. -/
inductive Warning where
  /-- The node is down. -/
  | down (reason : String)
  /-- The node runs a release that cannot be served. -/
  | rejected (version : String) (fault : Fault)
  deriving DecidableEq, Repr

/-- The state of the watch of one node. Sessions are numbered in the order
they were opened. -/
structure Monitor where
  /-- The node's id. -/
  id : Nat
  /-- The adapters to choose from. -/
  catalog : Catalog
  /-- How the node is doing. -/
  phase : Phase
  /-- Every session opened so far, by this monitor or for an adapter. -/
  sessions : List QuerySession
  /-- The session in use. -/
  slot : Option Nat
  /-- The monitor listens on the session in use. -/
  registered : Bool
  /-- The id under which it listens there. -/
  listener : Option Nat
  /-- A call is opening or giving up a session; no other may. -/
  locked : Bool
  /-- The adapter in use. -/
  adapter : Option Adapter
  /-- The factories of all adapters built so far, the last one first. -/
  built : List Factory
  /-- What the node last said of itself, while it is up. -/
  settings : Option NodeSettings
  /-- A probe is running. -/
  probing : Bool
  /-- The release that was last turned down, since an adapter was installed. -/
  rejected : Option String
  /-- What was counted. -/
  counts : Counts
  /-- Some probe has succeeded. -/
  succeeded : Bool
  /-- What was warned of, the last warning first. -/
  warnings : List Warning
  deriving DecidableEq, Repr

namespace Monitor

/-- The watch of a node before anything has happened. -/
def fresh (id : Nat) (catalog : Catalog) : Monitor where
  id := id
  catalog := catalog
  phase := .uninitialized
  sessions := []
  slot := none
  registered := false
  listener := none
  locked := false
  adapter := none
  built := []
  settings := none
  probing := false
  rejected := none
  counts := ⟨0, 0, 0, 0⟩
  succeeded := false
  warnings := []

/-- The watch is over. -/
def isClosed (m : Monitor) : Bool :=
  m.phase = .closed

/-- The last probe reached the node, and nothing to the contrary was heard
since. -/
def isUp (m : Monitor) : Bool :=
  m.settings.isSome

/-- The monitor listens on the session in use. -/
def hasListener (m : Monitor) : Bool :=
  m.registered

/-- The session with this number is there and open. -/
def isOpen (m : Monitor) (s : Nat) : Bool :=
  match m.sessions[s]? with
  | some session => !session.closed
  | none => false

/-- The session in use, if it is open. -/
def usable (m : Monitor) : Option Nat :=
  m.slot.filter m.isOpen

/-- The release that the adapter in use was built for. -/
def version (m : Monitor) : Option Version :=
  m.adapter.map (·.version)

/-- A warning as it is logged. -/
def warningText (m : Monitor) : Warning → String
  | .down reason => s!"Instance {m.id} is down: {reason}"
  | .rejected version fault =>
    s!"Instance {m.id}: keeping current adapter, cannot serve version {version}: {fault.message}"

end Monitor

end NodeSidecar
