import NodeSidecar.Host.Event
import NodeSidecar.Session.Settings
import NodeSidecar.Wire.Rows
/-!
# Session — the handshake

A connection is opened by two frames, each of which the node must answer as
ready: one that opens the conversation, and one that subscribes to events. A
connection that cannot be opened is a session that is unavailable, whatever
stood in the way.
-/

namespace NodeSidecar.Session.Handshake

/-- The stream of the frames of the handshake. -/
def stream : Int := 0

/-- The frames that are sent, one after the other. -/
def requests : List Text.Octets :=
  [Wire.startup stream, Wire.register stream Host.subscribed]

/-- What comes back for a frame of the handshake. -/
inductive Reply where
  /-- A frame. -/
  | frame (f : Wire.Frame)
  /-- The end of the stream, in front of a frame. -/
  | ended
  /-- What broke the stream. -/
  | broken (fault : Fault)

/-- Whether a reply says that the node is ready. -/
def judge : Reply → Except Fault Unit
  | .ended => .error (.protocol "connection closed during handshake")
  | .broken fault => .error fault
  | .frame f =>
    match f.header.opcode with
    | .ready => .ok ()
    | .authenticate =>
      match (Wire.Read.text.run f.body).1 with
      | .ok name => .error (.protocol s!"server requires authentication ({name})")
      | .error flaw => .error flaw.fault
    | .error =>
      match Wire.parseError f.body with
      | .ok (code, detail) => .error (.queryFailed code detail)
      | .error flaw => .error flaw.fault
    | other => .error (.protocol s!"unexpected {other.name} during handshake")

/-- How an attempt to open a connection goes. -/
inductive Attempt where
  /-- The node is not reached. -/
  | outOfReach (reason : String)
  /-- The node is reached, and replies to as many frames as it takes. The
  replies stop where the time is up. -/
  | reached (replies : List Reply)

/-- A fault as one of a session that is unavailable. -/
def unavailable (endpoint : String) : Fault → Fault
  | .sessionUnavailable endpoint reason => .sessionUnavailable endpoint reason
  | other => .sessionUnavailable endpoint other.message

/-- Whether replies say that the node is ready, one for each frame. -/
def judgeAll (endpoint : String) : (frames : Nat) → List Reply → Except Fault Unit
  | 0, _ => .ok ()
  | _ + 1, [] => .error (.sessionUnavailable endpoint "handshake timed out")
  | frames + 1, r :: replies =>
    match judge r with
    | .ok () => judgeAll endpoint frames replies
    | .error fault => .error (unavailable endpoint fault)

/-- What comes of an attempt to open a connection to an endpoint. -/
def outcome (endpoint : String) : Attempt → Except Fault Unit
  | .outOfReach reason => .error (.sessionUnavailable endpoint reason)
  | .reached replies => judgeAll endpoint requests.length replies

end NodeSidecar.Session.Handshake
