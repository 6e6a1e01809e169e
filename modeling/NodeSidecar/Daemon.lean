import NodeSidecar.Configuration.Basic
import NodeSidecar.Service.Server
/-!
# Daemon — starting and stopping

The program as a whole: it starts when its server can listen, then probes every
node and keeps probing, and it stops for good.
-/

namespace NodeSidecar

/-- How far the program has come in its life. -/
structure Lifecycle where
  /-- Requests are served. -/
  serving : Bool
  /-- It was told to stop. -/
  stopped : Bool
  deriving DecidableEq, Repr

namespace Lifecycle

/-- The program before it is started. -/
def unstarted : Lifecycle :=
  ⟨false, false⟩

/-- Starts serving at an address, given what comes of listening there. What was
stopped cannot be started again. -/
def start (l : Lifecycle) (address : String) (bound : Except String Unit) :
    Except Fault Lifecycle :=
  if l.stopped then .error (.internal "daemon already stopped")
  else
    match bound with
    | .error reason =>
      .error (.internal s!"Failed to bind REST server on {address}: {reason}")
    | .ok () => .ok ⟨true, false⟩

/-- Stops for good. -/
def stop (_ : Lifecycle) : Lifecycle :=
  ⟨false, true⟩

end Lifecycle

/-- The program. -/
structure Daemon where
  /-- The nodes as configured. -/
  roster : Roster
  /-- Its server. -/
  server : Service.ServerSettings
  /-- The time between two probes of a node, in milliseconds. -/
  period : Nat
  /-- How far it has come. -/
  lifecycle : Lifecycle
  /-- The nodes and the clock. -/
  fleet : Fleet

namespace Daemon

/-- The program of a configuration, its adapters taken from the catalog that
ships. -/
def ofConfiguration (c : Configuration) : Except Fault Daemon :=
  match c.roster with
  | .error fault => .error fault
  | .ok roster =>
    match Service.ServerSettings.ofHost c.service.host c.service.port c.service.requestTimeout with
    | .error fault => .error fault
    | .ok server =>
      .ok ⟨roster, server, c.probes.period, .unstarted, Configuration.fleet .standard roster⟩

/-- The timer is running. -/
def isRunning (d : Daemon) : Bool :=
  d.fleet.clock.isRunning

/-- Makes a call on a node and lets it run its first stretch. -/
def begin (calls : Node.Calls) (c : Node.Call) : Node.Calls :=
  let submitted := calls.submit c
  (submitted.apply Node.system (.start calls.nextId)).getD submitted

/-- Starts the program, given what comes of listening at its address: every
node is probed once, and the timer is started. -/
def start (d : Daemon) (bound : Except String Unit) : Daemon × Except Fault Unit :=
  match d.lifecycle.start d.server.address.display bound with
  | .error fault => (d, .error fault)
  | .ok lifecycle =>
    let fleet := d.fleet.check
    ({ d with
      lifecycle := lifecycle
      fleet := { fleet with clock := fleet.clock.start d.period } }, .ok ())

/-- Stops the program for good: the timer is stopped, and the watch of every
node is ended. -/
def stop (d : Daemon) : Daemon :=
  { d with
    lifecycle := d.lifecycle.stop
    fleet :=
      { nodes := d.fleet.nodes.map (begin · .close)
        clock := d.fleet.clock.stop.1 } }

end Daemon

end NodeSidecar
