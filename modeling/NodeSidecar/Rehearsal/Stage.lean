import NodeSidecar.Fleet.Metrics
import NodeSidecar.Rehearsal.Script
import NodeSidecar.Roster
/-!
# Rehearsal — the stage

A fleet against scripted surroundings. Calls take turns: a call that can go on
waits in line, runs until it has to wait for something the surroundings hold
back, and those that wait for a lock or at a gate go on in the order they
came.
-/

namespace NodeSidecar

namespace Rehearsal

/-- A call: the index of its node and its id there. -/
abbrev Ticket := Nat × Nat

/-- A node's surroundings, and its calls that are held up. -/
structure Scene where
  /-- What the surroundings do. -/
  script : Script
  /-- What was asked of them. -/
  tally : Tally
  /-- The calls that wait for the monitor's lock, first come first. -/
  monitorQueue : List Nat
  /-- The calls that wait for the link's lock, first come first. -/
  linkQueue : List Nat
  /-- The calls that wait at a gate, first come first. -/
  held : List (Gate × Nat)

/-- The scene of a script before anything has happened. -/
def Scene.fresh (script : Script) : Scene :=
  ⟨script, .zero, [], [], []⟩

end Rehearsal

open Rehearsal (Ticket Scene Gate)

/-- A fleet in scripted surroundings. -/
structure Rehearsal where
  /-- The nodes as configured. -/
  roster : Roster
  /-- The nodes and the clock. -/
  fleet : Fleet
  /-- The surroundings of each node. -/
  scenes : List Scene
  /-- What was exposed about the nodes. -/
  metrics : Metrics
  /-- The calls that can go on, first come first. -/
  line : List Ticket
  /-- The calls that are over, with when they ended and their results. -/
  results : List (Ticket × Nat × Node.Result)
  /-- What the monitors warned of, the last warning first. -/
  warnings : List String

namespace Rehearsal

/-- A rehearsal before anything has happened. -/
def fresh (roster : Roster) (parts : List (Node × Script)) : Rehearsal where
  roster := roster
  fleet := .fresh (parts.map (·.1))
  scenes := parts.map fun p => .fresh p.2
  metrics := []
  line := []
  results := []
  warnings := []

/-- A node, and the part that its surroundings play. -/
structure Part where
  /-- The node as configured. -/
  managed : Managed
  /-- The adapters it is served from. -/
  catalog : Catalog
  /-- What its surroundings do. -/
  script : Script

/-- The rehearsal of these parts; they must make a roster. -/
def ofParts (parts : List Part) : Except Fault Rehearsal :=
  (Roster.ofList (parts.map (·.managed))).map fun roster =>
    fresh roster (parts.map fun p => (.fresh p.managed.id p.catalog, p.script))

/-- Puts away what was noted down: warnings and requests. -/
def putAway (r : Rehearsal) : Rehearsal :=
  { r with
    warnings := []
    scenes := r.scenes.map fun s => { s with tally := { s.tally with requests := [] } } }

/-- The session of a node with this number, or the one that was opened last. -/
def session? (r : Rehearsal) (index : Nat) (number : Option Nat) : Option Nat :=
  match r.fleet.node? index with
  | none => none
  | some n =>
    let opened := n.monitor.sessions.length
    (some (number.getD (opened - 1))).filter (· < opened)

/-- The node with this index. -/
def node? (r : Rehearsal) (index : Nat) : Option Node :=
  r.fleet.node? index

/-- The monitors of all nodes. -/
def monitors (r : Rehearsal) : List Monitor :=
  r.fleet.nodes.map (·.state.monitor)

/-- Changes the surroundings of a node. -/
def onScene (r : Rehearsal) (index : Nat) (f : Scene → Scene) : Rehearsal :=
  { r with scenes := r.scenes.modify index f }

/-- Changes the script of a node. -/
def onScript (r : Rehearsal) (index : Nat) (f : Script → Script) : Rehearsal :=
  r.onScene index fun s => { s with script := f s.script }

/-- Changes the tally of a node. -/
def onTally (r : Rehearsal) (index : Nat) (f : Tally → Tally) : Rehearsal :=
  r.onScene index fun s => { s with tally := f s.tally }

/-- Puts calls in line. -/
def queue (r : Rehearsal) (tickets : List Ticket) : Rehearsal :=
  { r with line := r.line ++ tickets }

/-! ## One stretch -/

/-- The stretch that a call runs next, given what it is answered. -/
def stretch? (r : Rehearsal) (ticket : Ticket) (answer : Option Node.Answer) :
    Option (Node.Calls × Node.Step) := do
  let calls ← r.fleet.nodes[ticket.1]?
  let step ← calls.stretch? Node.system ticket.2 answer
  return (calls, step)

/-- The warnings that a monitor noted down since it was `before`. -/
def newWarnings (before after : Monitor) : List String :=
  (after.warnings.take (after.warnings.length - before.warnings.length)).map after.warningText

/-- The calls that a lock lets on, when it was held, or passed through, and is
free now. -/
def released (wasHeld isHeld : Bool) (waiting : List Nat) : List Nat :=
  if wasHeld && !isHeld then waiting.take 1 else []

/-- Whether an answer to what a call waits for is the monitor's lock. -/
def takesMonitorLock : Option Node.Wait → Bool
  | some (.monitorLock _) => true
  | _ => false

/-- Whether an answer to what a call waits for is the link's lock. -/
def takesLinkLock : Option Node.Wait → Bool
  | some (.linkLock _) => true
  | _ => false

/-- Lets a call run one stretch. What is warned of is noted down, a result is
kept, and calls that can go on because of the stretch are put in line. -/
def runStretch (r : Rehearsal) (ticket : Ticket) (waited : Option Node.Wait)
    (answer : Option Node.Answer) : Rehearsal :=
  match r.stretch? ticket answer, r.scenes[ticket.1]? with
  | some (calls, step), some scene =>
    let (index, id) := ticket
    let before := calls.state
    let after := step.state
    let next := calls.settle id step
    let spawned := (List.range step.spawned.length).map (calls.nextId + ·)
    let woken :=
      released (before.monitor.locked || takesMonitorLock waited) after.monitor.locked
          scene.monitorQueue
        ++ released (before.link.locked || takesLinkLock waited) after.link.locked scene.linkQueue
    let results :=
      match step.turn with
      | .done result => (ticket, r.fleet.clock.now, result) :: r.results
      | .wait _ => r.results
    { r with
      fleet := { r.fleet with nodes := r.fleet.nodes.set index next }
      warnings := newWarnings before.monitor after.monitor ++ r.warnings
      results := results }.queue ((woken ++ spawned).map (index, ·))
  | _, _ => r

/-! ## What the surroundings do -/

/-- Makes a call on a node that ends in its first stretch. -/
def happen (r : Rehearsal) (index : Nat) (c : Node.Call) : Rehearsal :=
  match r.fleet.nodes[index]? with
  | none => r
  | some calls =>
    { r with fleet := { r.fleet with nodes := r.fleet.nodes.set index (calls.submit c) } }.runStretch
      (index, calls.nextId) none none

/-- The number of the session that was opened last. -/
def lastSession? (m : Monitor) : Option Nat :=
  if m.sessions.isEmpty then none else some (m.sessions.length - 1)

/-- The provider of sessions answers: with the last session if it is open, with
a new one otherwise. -/
def offerSession (r : Rehearsal) (index : Nat) (script : Script) (m : Monitor) :
    Rehearsal × Node.Answer :=
  if !script.reachable then (r, .session none)
  else
    match (lastSession? m).filter m.isOpen with
    | some s => (r, .session (some s))
    | none => (r.happen index .sessionOpened, .session (some m.sessions.length))

/-- What the surroundings answer to what a call waits for. -/
def answer (r : Rehearsal) (index : Nat) (script : Script) (n : Node) :
    Node.Wait → Rehearsal × Node.Answer
  | .monitorLock _ | .linkLock _ => (r, .granted)
  | .connecting _ | .adapterConnecting => r.offerSession index script n.monitor
  | .querying s | .adapterQuerying s => (r, .rows (script.answerQuery (n.monitor.isOpen s)))
  | .dropping _ | .shutting _ => (r, .closed)
  | .closingProvider =>
    match lastSession? n.monitor with
    | some s => (r.happen index (.sessionLost s), .closed)
    | none => (r, .closed)
  | .linkConnecting _ =>
    match script.answerConnect with
    | .ok () =>
      (r.onTally index fun t => { t with connects := t.connects + 1 }, .connected (.ok ()))
    | .error fault => (r, .connected (.error fault))
  | .requesting _ request => (r, .value (script.answerRequest request))
  | .linkClosing _ => (r.onTally index fun t => { t with closes := t.closes + 1 }, .closed)

/-! ## Taking turns -/

/-- Whether a call must stop before what it waits for: behind others at a
lock, at a lock that is held, or at a gate that is shut. -/
def mustStop (scene : Scene) (n : Node) (w : Node.Wait) : Bool :=
  match w with
  | .monitorLock _ => n.monitor.locked || !scene.monitorQueue.isEmpty
  | .linkLock _ => n.link.locked || !scene.linkQueue.isEmpty
  | w =>
    match gate? w with
    | some g => g ∈ scene.script.shut
    | none => false

/-- Makes a call stop before what it waits for. -/
def stop (id : Nat) (w : Node.Wait) (scene : Scene) : Scene :=
  match w with
  | .monitorLock _ => { scene with monitorQueue := scene.monitorQueue ++ [id] }
  | .linkLock _ => { scene with linkQueue := scene.linkQueue ++ [id] }
  | w =>
    match gate? w with
    | some g => { scene with held := scene.held ++ [(g, id)] }
    | none => scene

/-- Takes a call that goes on out of the lines it stood in. -/
def leave (id : Nat) (scene : Scene) : Scene :=
  { scene with
    monitorQueue := scene.monitorQueue.filter (· ≠ id)
    linkQueue := scene.linkQueue.filter (· ≠ id) }

/-- Lets a call go on until it has to stop or is over; `turns` bounds the
stretches. -/
def goOn : (turns : Nat) → (isNew : Bool) → Rehearsal → Ticket → Rehearsal
  | 0, _, r, _ => r
  | turns + 1, isNew, r, ticket =>
    match r.fleet.nodes[ticket.1]?, r.scenes[ticket.1]? with
    | some calls, some scene =>
      match calls.progress ticket.2 with
      | none => r
      | some (.fresh _) => goOn turns true (r.runStretch ticket none none) ticket
      | some (.waiting w) =>
        let r := if isNew then r.onTally ticket.1 (·.note w) else r
        if isNew && mustStop scene calls.state w then r.onScene ticket.1 (stop ticket.2 w)
        else
          let r := r.onScene ticket.1 (leave ticket.2)
          let (r, a) := r.answer ticket.1 scene.script calls.state w
          goOn turns true (r.runStretch ticket (some w) (some a)) ticket
    | _, _ => r

/-- More stretches than any call has. -/
def longestCall : Nat := 16

/-- Lets calls take turns until nobody is in line; `turns` bounds the turns. -/
def settleIn : (turns : Nat) → Rehearsal → Rehearsal
  | 0, r => r
  | turns + 1, r =>
    match r.line with
    | [] => r
    | ticket :: line => settleIn turns (goOn longestCall false { r with line := line } ticket)

/-- Lets calls take turns until nobody is in line. -/
def settle (r : Rehearsal) : Rehearsal :=
  let calls := (r.fleet.nodes.flatMap fun calls => calls.calls).length
  settleIn (longestCall * (calls + r.line.length) + 1) r

end Rehearsal

end NodeSidecar
