import NodeSidecar.Rehearsal.Stage
import NodeSidecar.Service.Plan
/-!
# Rehearsal — what can be done

The acts of a rehearsal: calls and requests are made, the surroundings change,
time passes. After each act all calls go on until they are held up.
-/

namespace NodeSidecar.Rehearsal

/-! ## Calls -/

/-- Makes a call on a node; answers its ticket. -/
def call (r : Rehearsal) (index : Nat) (c : Node.Call) : Rehearsal × Ticket :=
  match r.fleet.nodes[index]? with
  | none => (r, (index, 0))
  | some calls =>
    let ticket := (index, calls.nextId)
    let fleet := { r.fleet with nodes := r.fleet.nodes.set index (calls.submit c) }
    (({ r with fleet := fleet }.queue [ticket]).settle, ticket)

/-- Makes the same call on every node. -/
def callAll (r : Rehearsal) (c : Node.Call) : Rehearsal :=
  let tickets := r.fleet.nodes.zipIdx.map fun (calls, index) => (index, calls.nextId)
  let fleet := { r.fleet with nodes := r.fleet.nodes.map (·.submit c) }
  ({ r with fleet := fleet }.queue tickets).settle

/-- When a call ended and what it resulted in, if it is over. -/
def result? (r : Rehearsal) (ticket : Ticket) : Option (Nat × Node.Result) :=
  r.results.lookup ticket

/-- Lets something happen on a node. -/
def act (r : Rehearsal) (index : Nat) (c : Node.Call) : Rehearsal :=
  (r.happen index c).settle

/-! ## Gates -/

/-- Opens a gate and lets those on that wait at it. -/
def release (r : Rehearsal) (index : Nat) (g : Gate) : Rehearsal :=
  match r.scenes[index]? with
  | none => r
  | some scene =>
    let woken := (scene.held.filter (·.1 = g)).map (·.2)
    let free := fun scene : Scene =>
      { scene with script := scene.script.openGate g, held := scene.held.filter (·.1 ≠ g) }
    ((r.onScene index free).queue (woken.map (index, ·))).settle

/-! ## Time -/

/-- Submits a probe on every node. -/
def check (r : Rehearsal) : Rehearsal :=
  r.callAll .probe

/-- A timer ticks. -/
def tick (r : Rehearsal) (t : Tick) : Rehearsal :=
  { r with fleet := { r.fleet with clock := r.fleet.clock.moveTo t.moment } }.check

/-- Time passes up to a moment; timers tick on the way. -/
def passTo (r : Rehearsal) (moment : Nat) : Rehearsal :=
  let r := (r.fleet.clock.ticks moment).foldl tick r
  { r with fleet := { r.fleet with clock := r.fleet.clock.moveTo moment } }

/-- So many milliseconds pass. -/
def pass (r : Rehearsal) (millis : Nat) : Rehearsal :=
  r.passTo (r.fleet.clock.now + millis)

/-- Starts a timer, in place of the one that is held. -/
def startTimer (r : Rehearsal) (period : Nat) : Rehearsal :=
  { r with fleet := { r.fleet with clock := r.fleet.clock.start period } }

/-- Stops the timer; answers whether it was running. -/
def stopTimer (r : Rehearsal) : Rehearsal × Bool :=
  let (clock, wasRunning) := r.fleet.clock.stop
  ({ r with fleet := { r.fleet with clock := clock } }, wasRunning)

/-! ## Metrics -/

/-- Takes in what all monitors say now. -/
def refresh (r : Rehearsal) : Rehearsal :=
  { r with metrics := r.metrics.refresh r.monitors }

/-! ## Requests -/

/-- How far a request has come. -/
inductive Serving where
  /-- It is answered. -/
  | answered (response : Http.Response)
  /-- It waits for a call until a moment; the response is to what the call
  results in, if it does by then. -/
  | waiting (ticket : Ticket) (deadline : Nat) (response : Option Node.Result → Http.Response)

/-- Makes a request that may take so many milliseconds. -/
def request (r : Rehearsal) (millis : Nat) (method : String) (target : Http.Target)
    (body : Text.Octets) : Rehearsal × Serving :=
  match Service.Demand.ofRequest method target body with
  | .error response => (r, .answered (response.forMethod method))
  | .ok demand =>
    let r := { r with metrics := Service.sampled r.monitors r.metrics demand }
    let plan := Service.plan r.roster r.monitors r.metrics body demand
    match plan with
    | .now response => (r, .answered (response.forMethod method))
    | .call index c _ _ =>
      let (r, ticket) := r.call index c
      let response := fun outcome => (plan.response millis outcome).forMethod method
      (r, .waiting ticket (r.fleet.clock.now + millis) response)

/-- The response to a request, once it is there or the time is up. What comes
at the last moment comes too late. -/
def response? (r : Rehearsal) : Serving → Option Http.Response
  | .answered response => some response
  | .waiting ticket deadline response =>
    match r.result? ticket with
    | some (ended, result) =>
      if ended < deadline then some (response (some result)) else some (response none)
    | none => if deadline ≤ r.fleet.clock.now then some (response none) else none

/-- Waits for the response to a request, until its time is up if need be. -/
def await (r : Rehearsal) (s : Serving) : Rehearsal :=
  match r.response? s, s with
  | none, .waiting _ deadline _ => r.passTo deadline
  | _, _ => r

end NodeSidecar.Rehearsal
