import NodeSidecar.Fleet.Clock
import NodeSidecar.Node.Calls
/-!
# Fleet — all managed nodes and the clock

The nodes of a fleet are driven by one clock: each time one of its timers
ticks, a probe is submitted on every node. Apart from that the nodes have
nothing to do with each other.
-/

namespace NodeSidecar

/-- The managed nodes, with the calls in progress on them, and the clock. -/
@[ext]
structure Fleet where
  /-- The nodes, in the order they were configured. -/
  nodes : List Node.Calls
  /-- The clock. -/
  clock : Clock

/-- What can happen in a fleet. -/
inductive Fleet.Move where
  /-- Something happens on the node with this index. -/
  | node (index : Nat) (m : NodeSidecar.Move Node.Call Node.Answer)
  /-- Every node is probed once. -/
  | check
  /-- A timer is started, in place of the one that is held. -/
  | startTimer (period : Nat)
  /-- The timer is stopped. -/
  | stopTimer
  /-- Time passes. -/
  | pass (millis : Nat)

namespace Fleet

/-- A fleet before anything has happened. -/
def fresh (nodes : List Node) : Fleet :=
  ⟨nodes.map .idle, .zero⟩

/-- The node with this index. -/
def node? (f : Fleet) (index : Nat) : Option Node :=
  f.nodes[index]?.map (·.state)

/-- Submits a probe on every node. -/
def check (f : Fleet) : Fleet :=
  { f with nodes := f.nodes.map (·.submit .probe) }

/-- A timer ticks: every node is probed. -/
def tick (f : Fleet) (t : Tick) : Fleet :=
  { f with clock := f.clock.moveTo t.moment }.check

/-- The ticks that come while time passes. -/
def ticksDuring (f : Fleet) (millis : Nat) : List Tick :=
  f.clock.ticks (f.clock.now + millis)

/-- Time passes; at every tick every node is probed. -/
def pass (f : Fleet) (millis : Nat) : Fleet :=
  let ticked := (f.ticksDuring millis).foldl tick f
  { ticked with clock := ticked.clock.moveTo (f.clock.now + millis) }

/-- The fleet after a move, if the move can be made. -/
def apply (f : Fleet) : Move → Option Fleet
  | .node index m =>
    match f.nodes[index]? with
    | none => none
    | some calls =>
      (calls.apply Node.system m).map fun next => { f with nodes := f.nodes.set index next }
  | .check => some f.check
  | .startTimer period => some { f with clock := f.clock.start period }
  | .stopTimer => some { f with clock := f.clock.stop.1 }
  | .pass millis => some (f.pass millis)

/-- The fleet after moves made one after the other, if all of them can be. -/
def applyAll (f : Fleet) (moves : List Move) : Option Fleet :=
  moves.foldlM apply f

end Fleet

end NodeSidecar
