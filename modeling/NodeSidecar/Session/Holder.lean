import NodeSidecar.Interleaving
/-!
# Session — the holder

The holder of a node hands out one session to all who ask, and opens another
only when the one it holds is gone. Those who find none stand in line: each
looks again before it tries to open one.
-/

namespace NodeSidecar.Session

/-- The holder of the sessions to one node. Sessions are numbered in the order
they were opened. -/
structure Holder where
  /-- The session that is handed out. -/
  slot : Option Nat
  /-- Which of the sessions opened so far are closed or lost. -/
  closed : List Bool
  /-- Someone is opening a session; no other may. -/
  locked : Bool
  deriving DecidableEq, Repr

namespace Holder

/-- A holder that has opened nothing. -/
def fresh : Holder :=
  ⟨none, [], false⟩

/-- The session with this number is there and open. -/
def isOpen (h : Holder) (s : Nat) : Bool :=
  h.closed[s]? = some false

/-- The session that is handed out, if it is open. -/
def usable (h : Holder) : Option Nat :=
  h.slot.filter h.isOpen

/-- A session was closed or lost. -/
def lose (h : Holder) (s : Nat) : Holder :=
  { h with closed := h.closed.set s true }

/-- The calls on a holder. The last one is made by the network. -/
inductive Call where
  /-- Ask for a session. -/
  | get
  /-- Close the session that is handed out. -/
  | close
  /-- A session is lost. -/
  | lost (session : Nat)
  deriving DecidableEq, Repr

/-- What a call waits for. -/
inductive Wait where
  /-- Its turn to open a session. -/
  | lock
  /-- A session that is being opened. -/
  | connecting
  deriving DecidableEq, Repr

/-- What a call that waits is answered. -/
inductive Answer where
  /-- It is its turn. -/
  | granted
  /-- The session is open. -/
  | connected
  /-- The session cannot be opened. -/
  | refused
  deriving DecidableEq, Repr

/-- What a call results in. -/
inductive Result where
  /-- Nothing to tell. -/
  | finished
  /-- A session, or none. -/
  | session (s : Option Nat)
  deriving DecidableEq, Repr

/-- A stretch of a call on a holder. -/
abbrev Step := Stretch Holder Call Wait Result

/-- The call is over, with a session or without one. -/
def hands (h : Holder) (s : Option Nat) : Step :=
  ⟨h, .done (.session s), []⟩

/-- The first stretch of a call. -/
def start : Call → Holder → Step
  | .get, h =>
    match h.usable with
    | some s => h.hands (some s)
    | none => ⟨h, .wait .lock, []⟩
  | .close, h =>
    match h.slot with
    | some s => ⟨{ h.lose s with slot := none }, .done .finished, []⟩
    | none => ⟨h, .done .finished, []⟩
  | .lost s, h => ⟨h.lose s, .done .finished, []⟩

/-- Holding the lock, looks for a session again. -/
def lookAgain (h : Holder) : Step :=
  match h.usable with
  | some s => h.hands (some s)
  | none => ⟨{ h with locked := true }, .wait .connecting, []⟩

/-- The stretch that an answer sets off. The lock is granted only while nobody
holds it. -/
def resume : Wait → Answer → Holder → Option Step
  | .lock, .granted, h => if h.locked then none else some h.lookAgain
  | .connecting, .connected, h =>
    let s := h.closed.length
    some (Holder.hands ⟨some s, h.closed ++ [false], false⟩ (some s))
  | .connecting, .refused, h => some ({ h with locked := false }.hands none)
  | _, _, _ => none

/-- A holder with calls. -/
def system : System Holder Call Wait Answer Result :=
  ⟨start, resume⟩

/-- A holder and the calls in progress on it. -/
abbrev Calls := Run Holder Call Wait

end Holder

end NodeSidecar.Session
