import NodeSidecar.Node.Basic
/-!
# Node — how calls run

Every call on a node, cut into stretches at the points where it waits.
`Node.start` is the first stretch of a call, `Node.resume` the stretch that an
answer sets off; `Node.system` puts them together. A lock is granted only
while nobody holds it, and the provider of sessions answers with sessions
that are open.
-/

namespace NodeSidecar.Node

open Management (Proxy Request Use Value)

/-! ## Sessions and probes -/

/-- Ends a probe. -/
def endProbe (n : Node) : Step :=
  (n.onMonitor .endProbe).ends .finished

/-- Goes on with a session, or without one. -/
def withSession (n : Node) (s : Option Nat) : Purpose → Step
  | .session => n.ends (.session s)
  | .settings => n.ends (.settings n.monitor.settings)
  | .probe =>
    match s with
    | none => (n.onMonitor (·.markDown "no session available")).endProbe
    | some s => n.waits (.querying s)

/-- Looks for a session: the one in use if it is open, a new one otherwise.
There is none once the watch is over. -/
def seekSession (n : Node) (purpose : Purpose) : Step :=
  if n.monitor.isClosed then n.withSession none purpose
  else
    match n.monitor.usable with
    | some s => n.withSession (some s) purpose
    | none => n.waits (.monitorLock (.connect purpose))

/-- Begins a probe, unless one is running. -/
def startProbe (n : Node) : Step :=
  if n.monitor.isClosed then n.ends .finished
  else if n.monitor.probing then (n.onMonitor .skipProbe).ends .finished
  else (n.onMonitor .admitProbe).seekSession .probe

/-- Gives up a session in use that turns out closed. -/
def discard (m : Monitor) : Monitor :=
  match m.slot with
  | some s => m.abandon s
  | none => m

/-- Holding the lock, looks for a session again: another call may have opened
one meanwhile. A new session is asked for with the lock held. -/
def connectLocked (n : Node) (purpose : Purpose) : Step :=
  match n.monitor.usable with
  | some s => (n.onMonitor .unlock).withSession (some s) purpose
  | none =>
    let n := n.onMonitor discard
    if n.monitor.isClosed then (n.onMonitor .unlock).withSession none purpose
    else
      let n :=
        if n.monitor.phase = .uninitialized then n.onMonitor (·.enter .connecting) else n
      n.waits (.connecting purpose)

/-- Takes a session from the provider, or learns that there is none, and gives
the lock back. -/
def connected (n : Node) (s : Option Nat) (purpose : Purpose) : Step :=
  match s with
  | none => (n.onMonitor .unlock).withSession none purpose
  | some s => (n.onMonitor fun m => (m.adopt s).unlock).withSession (some s) purpose

/-- Goes on with what a probe's query answered. Nothing is done with it once
the watch is over. A session that was out of reach is given up. -/
def probed (n : Node) (s : Nat) (answer : Except Fault (List Wire.Row)) : Step :=
  if n.monitor.isClosed then n.endProbe
  else
    match answer.bind NodeSettings.ofRows with
    | .ok (some settings) => (n.onMonitor (·.accept settings)).endProbe
    | .ok none => (n.onMonitor (·.markDown "system.local returned no row")).endProbe
    | .error fault =>
      let n := n.onMonitor (·.markDown fault.message)
      if fault.isConnectivity then n.waits (.monitorLock (.evict s)) else n.endProbe

/-- Gives up a session that failed, if it is still the one in use, gives the
lock back, and closes the session. -/
def evictLocked (n : Node) (s : Nat) : Step :=
  (n.onMonitor fun m => ((m.abandon s).unlock).closeSession s).waits (.dropping s)

/-! ## The end of the watch -/

/-- Begins the end, unless it has begun. -/
def startClose (n : Node) : Step :=
  if n.monitor.isClosed then n.ends .finished
  else (n.onMonitor .finish).waits (.monitorLock .shut)

/-- Gives up and closes the session in use for good. -/
def shutLocked (n : Node) : Step :=
  match n.monitor.slot with
  | some s =>
    (n.onMonitor fun m => ((m.abandon s).unlock).closeSession s).waits (.shutting s)
  | none => (n.onMonitor fun m => m.unlock.clearSettings).waits .closingProvider

/-- Gives up the management connection. The link's lock is not waited for. -/
def releaseLink (n : Node) : Step :=
  match n.link.slot with
  | some c => (n.onLink .release).waits (.linkClosing c)
  | none => n.ends .finished

/-! ## The management link -/

/-- Goes on with a connection. -/
def withLink (n : Node) (c : Nat) : LinkUse → Step
  | .opening => n.ends (.value (.ok .null))
  | .request r => n.waits (.requesting c r)

/-- Looks for a connection: the one in use, or a new one. -/
def seekLink (n : Node) (use : LinkUse) : Step :=
  match n.link.slot with
  | some c => n.withLink c use
  | none => n.waits (.linkLock (.connect use))

/-- Holding the lock, looks for a connection again. -/
def linkLocked (n : Node) (use : LinkUse) : Step :=
  match n.link.slot with
  | some c => (n.onLink .unlock).withLink c use
  | none => n.waits (.linkConnecting use)

/-- Takes a new connection, or learns that there is none, and gives the lock
back. -/
def linkOpened (n : Node) (r : Except Fault Unit) (use : LinkUse) : Step :=
  match r with
  | .error fault => (n.onLink .unlock).ends (.value (.error fault))
  | .ok () => (n.onLink fun l => l.install.unlock).withLink n.link.opened use

/-- Goes on with what a request was answered. A connection that was out of
reach is forgotten first. -/
def answered (n : Node) (c : Nat) (r : Except Fault Value) : Step :=
  match r with
  | .ok v => n.ends (.value (.ok v))
  | .error fault =>
    if fault.isConnectivity then n.waits (.linkLock (.evict c fault))
    else n.ends (.value (.error fault))

/-- Uses a proxy. A use that does not fit the interface is refused before a
connection is looked for. -/
def startUse (proxy : Proxy) (u : Use) (n : Node) : Step :=
  match u.request proxy with
  | .error fault => n.ends (.value (.error fault))
  | .ok r => n.seekLink (.request r)

/-- Begins a snapshot. It takes an adapter, so some probe must have
succeeded. -/
def startSnapshot (n : Node) (order : Management.SnapshotOrder) : Step :=
  match n.monitor.adapter with
  | none => n.ends (.value (.error (.adapterUnavailable n.monitor.id)))
  | some _ =>
    match order.use with
    | .error fault => n.ends (.value (.error fault))
    | .ok (proxy, u) => n.startUse proxy u

/-! ## All calls -/

/-- What a monitor does when it is told of an event: forgetting is done at
once, a probe is submitted. -/
def react (r : Reaction) (_ : Host.Event) (s : Monitor × List Call) : Monitor × List Call :=
  match r with
  | .probe => (s.1, s.2 ++ [.probe])
  | .forget => (s.1.forget, s.2)

/-- The listeners of a session; none on a session that is not there. -/
def listenersOf (session : Nat) (s : Monitor × List Call) : Host.Listeners Reaction :=
  match s.1.sessions[session]? with
  | some session => session.listeners
  | none => .empty

/-- Tells an event to the listeners of a session. -/
def push (n : Node) (session : Nat) (e : Host.Event) : Step :=
  let (monitor, calls) := Host.Listeners.notify (listenersOf session) react e (n.monitor, [])
  ⟨{ n with monitor := monitor }, .done .finished, calls⟩

/-- The first stretch of a call. -/
def start : Call → Node → Step
  | .probe, n => n.startProbe
  | .ensureSession, n => n.seekSession .session
  | .readSettings, n => n.seekSession .settings
  | .adapterSettings, n => n.waits .adapterConnecting
  | .snapshot order, n => n.startSnapshot order
  | .openLink, n => n.seekLink .opening
  | .manage r, n => n.seekLink (.request r)
  | .closeLink, n => n.releaseLink
  | .close, n => n.startClose
  | .reportDown, n => (n.onMonitor .forget).ends .finished
  | .event session e, n => n.push session e
  | .sessionOpened, n => (n.onMonitor .openSession).ends .finished
  | .sessionLost session, n => (n.onMonitor (·.closeSession session)).ends .finished

/-- What is done with the monitor's lock. -/
def withMonitorLock (n : Node) : MonitorWork → Step
  | .connect purpose => n.connectLocked purpose
  | .evict s => n.evictLocked s
  | .shut => n.shutLocked

/-- What is done with the link's lock. -/
def withLinkLock (n : Node) : LinkWork → Step
  | .connect use => n.linkLocked use
  | .evict c fault => (n.onLink fun l => (l.evict c).unlock).ends (.value (.error fault))

/-- A session that the provider may answer with. -/
def isOffer (n : Node) : Option Nat → Bool
  | none => true
  | some s => n.monitor.isOpen s

/-- The stretch that an answer sets off. Only the answers that fit what is
waited for can be given. -/
def resume : Wait → Answer → Node → Option Step
  | .monitorLock work, .granted, n =>
    if n.monitor.locked then none else some ((n.onMonitor .lock).withMonitorLock work)
  | .connecting purpose, .session s, n =>
    if n.isOffer s then some (n.connected s purpose) else none
  | .querying s, .rows r, n => some (n.probed s r)
  | .dropping _, .closed, n => some n.endProbe
  | .shutting _, .closed, n => some ((n.onMonitor .clearSettings).waits .closingProvider)
  | .closingProvider, .closed, n => some n.releaseLink
  | .adapterConnecting, .session s, n =>
    if n.isOffer s then
      match s with
      | none => some (n.ends (.adapterSettings (.ok none)))
      | some s => some (n.waits (.adapterQuerying s))
    else none
  | .adapterQuerying _, .rows r, n =>
    some (n.ends (.adapterSettings (r.bind NodeSettings.ofRows)))
  | .linkLock work, .granted, n =>
    if n.link.locked then none else some ((n.onLink .lock).withLinkLock work)
  | .linkConnecting use, .connected r, n => some (n.linkOpened r use)
  | .requesting c _, .value r, n => some (n.answered c r)
  | .linkClosing _, .closed, n => some (n.ends .finished)
  | _, _, _ => none

/-- A node with calls. -/
def system : System Node Call Wait Answer Result :=
  ⟨start, resume⟩

/-- A node and the calls in progress on it. -/
abbrev Calls := Run Node Call Wait

end NodeSidecar.Node
