import NodeSidecar.Host.Listeners
import NodeSidecar.Interleaving
import NodeSidecar.Wire.Rows
import NodeSidecar.Wire.Stream
/-!
# Session — a connection

One connection carries many requests at once. Each request has a stream of its
own and waits for the first frame that comes back on it; frames on the stream of
events go to the listeners. When the connection ends, whoever waits is told so,
and the listeners are told that the peer is down, unless the connection was
closed from this side.

Here a call is cut into its smallest steps: to register a request, to look
whether the connection is closed, to write, to set the mark of the end, to clear
the table of those who wait. Any number of steps of other calls may run in
between.
-/

namespace NodeSidecar.Session

open Text (Octets)

/-- How many streams there are for requests. -/
def streamCount : Nat := 32767

/-- Where the counter of requests wraps. -/
def counterSize : Nat := 65536

/-- A connection; `α` is what listeners do. Requests are numbered in the order
they register. -/
structure Connection (α : Type) where
  /-- The address of the node. -/
  peer : Net.Endpoint
  /-- The counter that streams are taken from. -/
  counter : Nat
  /-- How many requests have registered. -/
  requests : Nat
  /-- Who waits for a frame on which stream. -/
  pending : List (Int × Nat)
  /-- What came of waiting: a frame, or the news that none will come. -/
  outcomes : List (Nat × Option Wire.Frame)
  /-- The end has come, or the connection was closed. -/
  closed : Bool
  /-- The requests that were written, the last one first. -/
  written : List Nat
  /-- The octets that arrived and have not been read. -/
  inbox : Octets
  /-- No more octets will arrive. -/
  hungUp : Bool
  /-- Who wants to be told of events. -/
  listeners : Host.Listeners α
  /-- What listeners were told, in order. -/
  told : List (α × Host.Event)
  deriving DecidableEq

namespace Connection

variable {α : Type}

/-- A connection that was just opened. -/
def opened (peer : Net.Endpoint) : Connection α where
  peer := peer
  counter := 1
  requests := 0
  pending := []
  outcomes := []
  closed := false
  written := []
  inbox := []
  hungUp := false
  listeners := .empty
  told := []

/-- The stream that a counter stands for. -/
def streamAt (counter : Nat) : Int :=
  ((counter % streamCount : Nat) : Int)

/-- The counter of the next request. -/
def nextCounter (counter : Nat) : Nat :=
  (counter + 1) % counterSize

/-! ## Those who wait -/

/-- What has come of a request, if anything has. -/
def outcome? (c : Connection α) (number : Nat) : Option (Option Wire.Frame) :=
  c.outcomes.lookup number

/-- Tells those who wait on a stream what has come of it, and takes them out of
the table. -/
def settle (c : Connection α) (stream : Int) (outcome : Option Wire.Frame) : Connection α :=
  let settled := (c.pending.filter (·.1 = stream)).map fun p => (p.2, outcome)
  { c with
    pending := c.pending.filter (·.1 ≠ stream)
    outcomes := c.outcomes ++ settled }

/-- Registers a request on the next stream. Who waited on that stream is told
that nothing will come. -/
def enrol (c : Connection α) : Connection α :=
  let stream := streamAt c.counter
  let c := c.settle stream none
  { c with
    counter := nextCounter c.counter
    requests := c.requests + 1
    pending := c.pending ++ [(stream, c.requests)] }

/-- Tells all who wait that nothing will come. -/
def clear (c : Connection α) : Connection α :=
  { c with
    pending := []
    outcomes := c.outcomes ++ c.pending.map fun p => (p.2, none) }

/-! ## Events -/

/-- Tells an event to the listeners. -/
def tell (c : Connection α) (e : Host.Event) : Connection α :=
  { c with told := c.told ++ (c.listeners.reactions e.change).map (·, e) }

/-- Whether an event is passed on: word that a host is down counts only if it is
about the peer. -/
def concerns (peer : Net.Endpoint) (e : Host.Event) : Bool :=
  e.change ≠ .down || e.endpoint.host = peer.host

/-- The event in a frame, if it has one. -/
def event? (f : Wire.Frame) : Option Host.Event :=
  match Host.parseEvent f.body with
  | .ok e => e
  | .error _ => none

/-- Takes in a frame: an event is passed on, an answer goes to who waits for
it. -/
def receive (c : Connection α) (f : Wire.Frame) : Connection α :=
  if f.header.stream = Wire.eventStream then
    match (event? f).filter (concerns c.peer) with
    | some e => c.tell e
    | none => c
  else c.settle f.header.stream (some f)

/-- The event that the connection to the peer is lost. -/
def lossEvent (c : Connection α) : Host.Event :=
  ⟨.down, c.peer⟩

/-! ## Calls -/

/-- The calls on a connection. The last two are made by the network. -/
inductive Call (α : Type) where
  /-- Send a query, and wait for what comes back. -/
  | execute
  /-- Close the connection. -/
  | close
  /-- Be told of events from now on. -/
  | listen (l : Host.Listener α)
  /-- Be told of events no more. -/
  | unlisten (id : Nat)
  /-- Read frames until the end. One who reads and is called off, as the
  connection was closed, makes no more moves. -/
  | read
  /-- Octets arrive. -/
  | arrive (octets : Octets)
  /-- The stream ends. -/
  | hangUp

/-- Who set the mark of the end. -/
inductive Ender where
  /-- A caller who closed the connection. -/
  | caller
  /-- The one who reads; `isLoss` says that the mark had not been set. -/
  | reader (isLoss : Bool)
  deriving DecidableEq, Repr

/-- What a call waits for. Most waits are for its turn alone. -/
inductive Wait where
  /-- To look whether the connection is closed. -/
  | checking (number : Nat) (stream : Int)
  /-- To write. -/
  | writing (number : Nat) (stream : Int)
  /-- For what comes back. -/
  | awaiting (number : Nat) (stream : Int)
  /-- For a frame, or the end. -/
  | reading
  /-- To clear the table of those who wait. -/
  | clearing (ender : Ender)
  /-- To tell the listeners of the loss. -/
  | reporting
  deriving DecidableEq, Repr

/-- What a call that waits is answered. -/
inductive Answer where
  /-- It is its turn. -/
  | turn
  /-- Writing failed. -/
  | unwritten (reason : String)
  /-- The time is up, after so many milliseconds. -/
  | timedOut (millis : Nat)

/-- What a call results in. -/
inductive Result where
  /-- Nothing to tell. -/
  | finished
  /-- The id of a listener. -/
  | listens (id : Nat)
  /-- Whether there was a listener to take out. -/
  | unlistened (found : Bool)
  /-- The rows that came back, or why there are none. -/
  | rows (r : Except Fault (List Wire.Row))

/-- A stretch of a call on a connection. -/
abbrev Step (α : Type) := Stretch (Connection α) (Call α) Wait Result

/-- The call waits. -/
def waits (c : Connection α) (w : Wait) : Step α :=
  ⟨c, .wait w, []⟩

/-- The call is over. -/
def ends (c : Connection α) (r : Result) : Step α :=
  ⟨c, .done r, []⟩

/-- The fault of a connection that cannot be used. -/
def unavailable (c : Connection α) (reason : String) : Fault :=
  .sessionUnavailable c.peer.display reason

/-- The request fails for want of a connection. -/
def fails (c : Connection α) (reason : String) : Step α :=
  c.ends (.rows (.error (c.unavailable reason)))

/-- Why a request fails whose connection ended. -/
def closedReason : String := "connection closed"

/-- The connection with another table of listeners. -/
def withListeners (c : Connection α) (t : Host.Listeners α) : Connection α :=
  { c with listeners := t }

/-- The first stretch of a call. -/
def start : Call α → Connection α → Step α
  | .execute, c => c.enrol.waits (.checking c.requests (streamAt c.counter))
  | .close, c =>
    if c.closed then c.ends .finished
    else { c with closed := true }.waits (.clearing .caller)
  | .listen l, c =>
    let (t, id) := c.listeners.register l
    (c.withListeners t).ends (.listens id)
  | .unlisten id, c =>
    let (t, found) := c.listeners.unregister id
    (c.withListeners t).ends (.unlistened found)
  | .read, c => c.waits .reading
  | .arrive octets, c =>
    (if c.hungUp then c else { c with inbox := c.inbox ++ octets }).ends .finished
  | .hangUp, c => { c with hungUp := true }.ends .finished

/-- The one who reads comes to the end, and sets its mark. -/
def endReading (c : Connection α) : Step α :=
  { c with closed := true }.waits (.clearing (.reader (!c.closed)))

/-- Reads a frame, or comes to the end. There is nothing to do while a frame is
unfinished and more may arrive. -/
def readNext (c : Connection α) : Option (Step α) :=
  match Wire.front c.inbox with
  | .frame f rest => some (({ c with inbox := rest }.receive f).waits .reading)
  | .broken _ => some c.endReading
  | .unfinished => if c.hungUp then some c.endReading else none

/-- What follows once the table is clear. -/
def cleared (c : Connection α) : Ender → Step α
  | .reader true => c.waits .reporting
  | _ => c.ends .finished

/-- Looks what came back for a request; there is nothing to do while nothing
has. -/
def collect (c : Connection α) (number : Nat) : Option (Step α) :=
  match c.outcome? number with
  | some (some f) => some (c.ends (.rows f.rows))
  | some none => some (c.fails closedReason)
  | none => none

/-- The stretch that an answer sets off. The time of a request is up only while
nothing has come back for it. -/
def resume : Wait → Answer → Connection α → Option (Step α)
  | .checking number stream, .turn, c =>
    if c.closed then some ((c.settle stream none).fails closedReason)
    else some (c.waits (.writing number stream))
  | .writing number stream, .turn, c =>
    some ({ c with written := number :: c.written }.waits (.awaiting number stream))
  | .writing _ stream, .unwritten reason, c => some ((c.settle stream none).fails reason)
  | .awaiting number _, .turn, c => c.collect number
  | .awaiting number stream, .timedOut millis, c =>
    if (c.outcome? number).isSome then none
    else some ((c.settle stream none).fails s!"request timed out after {millis}ms")
  | .reading, .turn, c => c.readNext
  | .clearing ender, .turn, c => some (c.clear.cleared ender)
  | .reporting, .turn, c => some ((c.tell c.lossEvent).ends .finished)
  | _, _, _ => none

/-- A connection with calls. -/
def system : System (Connection α) (Call α) Wait Answer Result :=
  ⟨start, resume⟩

/-- A connection and the calls in progress on it. -/
abbrev Calls (α : Type) := Run (Connection α) (Call α) Wait

/-- A connection that was just opened, with someone to read it. -/
def fresh (peer : Net.Endpoint) : Calls α :=
  (Run.idle (opened peer)).submit .read

end Connection

end NodeSidecar.Session
