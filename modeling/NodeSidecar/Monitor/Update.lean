import NodeSidecar.Monitor.Basic
import NodeSidecar.Version.Parse
/-!
# Monitor — what can happen to it

The changes to a monitor that are made in one go, without waiting for
anything. The calls of a node are put together from them.
-/

namespace NodeSidecar.Monitor

/-- Changes the phase, unless the watch is over. -/
def enter (m : Monitor) (next : Phase) : Monitor :=
  if m.isClosed then m else { m with phase := next }

/-- Takes the lock. -/
def lock (m : Monitor) : Monitor :=
  { m with locked := true }

/-- Gives the lock back. -/
def unlock (m : Monitor) : Monitor :=
  { m with locked := false }

/-! ## Sessions -/

/-- Changes the session with this number. -/
def updateSession (m : Monitor) (s : Nat) (f : QuerySession → QuerySession) : Monitor :=
  { m with sessions := m.sessions.modify s f }

/-- A session was opened. -/
def openSession (m : Monitor) : Monitor :=
  { m with sessions := m.sessions ++ [.opened] }

/-- A session was closed or lost. -/
def closeSession (m : Monitor) (s : Nat) : Monitor :=
  m.updateSession s fun session => { session with closed := true }

/-- Listens on a session, unless the monitor listens on one already. -/
def listen (m : Monitor) (s : Nat) : Monitor :=
  if m.registered then m
  else
    match m.sessions[s]? with
    | none => m
    | some session =>
      let (listeners, id) := session.listeners.register monitorListener
      { m.updateSession s fun session => { session with listeners := listeners } with
        registered := true
        listener := some id }

/-- Listens on a session no more, if the monitor listens on one. -/
def unlisten (m : Monitor) (s : Nat) : Monitor :=
  if m.registered then
    match m.listener with
    | none => { m with registered := false }
    | some id =>
      { m.updateSession s fun session =>
          { session with listeners := (session.listeners.unregister id).1 } with
        registered := false
        listener := none }
  else m

/-- Puts a session to use. -/
def adopt (m : Monitor) (s : Nat) : Monitor :=
  { m.listen s with slot := some s }

/-- Gives up the session in use, if it is this one. -/
def abandon (m : Monitor) (s : Nat) : Monitor :=
  if m.slot = some s then { m.unlisten s with slot := none } else m

/-! ## Probes -/

/-- Notes down a warning. -/
def warn (m : Monitor) (w : Warning) : Monitor :=
  { m with warnings := w :: m.warnings }

/-- A probe begins. -/
def admitProbe (m : Monitor) : Monitor :=
  { m with probing := true, counts := { m.counts with probes := m.counts.probes + 1 } }

/-- A probe is left out, because one is running. -/
def skipProbe (m : Monitor) : Monitor :=
  { m with counts := { m.counts with skipped := m.counts.skipped + 1 } }

/-- The running probe is over. -/
def endProbe (m : Monitor) : Monitor :=
  { m with probing := false }

/-- Forgets what the node said of itself, as it was reported down. -/
def forget (m : Monitor) : Monitor :=
  { m with settings := none }.enter .down

/-- A probe found the node down. Of several such probes in a row only the
first one warns. -/
def markDown (m : Monitor) (reason : String) : Monitor :=
  let m := if m.isUp || m.phase ≠ .down then m.warn (.down reason) else m
  { m with
    counts := { m.counts with failures := m.counts.failures + 1 }
    settings := none }.enter .down

/-- Turns a release down. The same one turned down again is not warned of. -/
def reject (m : Monitor) (release : String) (fault : Fault) : Monitor :=
  if m.rejected = some release then m
  else { m.warn (.rejected release fault) with rejected := some release }

/-- Puts a new adapter of a factory to use. -/
def install (m : Monitor) (version : Version) (factory : Factory) : Monitor :=
  { m with
    adapter := some ⟨version, factory, m.built.count factory + 1⟩
    built := factory :: m.built
    counts := { m.counts with swaps := m.counts.swaps + 1 }
    rejected := none }

/-- Makes the adapter fit the release that the node reports. A release that is
malformed or that no factory serves leaves the adapter as it is; so does the
release that the adapter was built for. -/
def fitAdapter (m : Monitor) (release : String) : Monitor :=
  match Version.parse release with
  | .error fault => m.reject release fault
  | .ok version =>
    if m.version = some version then m
    else
      match m.catalog.resolve version with
      | .error fault => m.reject release fault
      | .ok factory => m.install version factory

/-- A probe succeeded. -/
def accept (m : Monitor) (settings : NodeSettings) : Monitor :=
  { m.fitAdapter settings.releaseVersion with
    settings := some settings
    succeeded := true }.enter .healthy

/-! ## The end -/

/-- The watch is over. -/
def finish (m : Monitor) : Monitor :=
  { m with phase := .closed }

/-- Leaves the monitor without settings. -/
def clearSettings (m : Monitor) : Monitor :=
  { m with settings := none }

end NodeSidecar.Monitor
