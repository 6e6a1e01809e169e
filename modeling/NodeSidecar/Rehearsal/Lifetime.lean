import NodeSidecar.Daemon
import NodeSidecar.Rehearsal.Acts
/-!
# Rehearsal — a lifetime

The program started and stopped in scripted surroundings.
-/

namespace NodeSidecar.Rehearsal

/-- A rehearsal of the whole program. -/
structure Lifetime where
  /-- The nodes. -/
  rehearsal : Rehearsal
  /-- How far the program has come. -/
  lifecycle : Lifecycle
  /-- The time between two probes of a node, in milliseconds. -/
  period : Nat

namespace Lifetime

/-- The program before it is started. -/
def unstarted (r : Rehearsal) (period : Nat) : Lifetime :=
  ⟨r, .unstarted, period⟩

/-- Starts the program, given what comes of listening at its address. -/
def start (l : Lifetime) (address : String) (bound : Except String Unit) :
    Lifetime × Except Fault Unit :=
  match l.lifecycle.start address bound with
  | .error fault => (l, .error fault)
  | .ok lifecycle =>
    ({ l with lifecycle := lifecycle, rehearsal := l.rehearsal.check.startTimer l.period }, .ok ())

/-- Stops the program. -/
def stop (l : Lifetime) : Lifetime :=
  { l with
    lifecycle := l.lifecycle.stop
    rehearsal := l.rehearsal.stopTimer.1.callAll .close }

end Lifetime

end NodeSidecar.Rehearsal
