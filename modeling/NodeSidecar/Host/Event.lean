import NodeSidecar.Wire.Read
/-!
# Host — events

A change in the state of a host, as a node pushes it to its clients.
-/

namespace NodeSidecar.Host

open Wire (Read Flaw)

/-- What happened to a host. -/
inductive Change where
  | added
  | up
  | down
  | removed
  deriving DecidableEq, Repr

/-- A change and the host it happened to. -/
structure Event where
  /-- What happened. -/
  change : Change
  /-- Where. -/
  endpoint : Net.Endpoint
  deriving DecidableEq, Repr

/-- The change that a type of event and a word for the change stand for; other
pairs are not tracked. -/
def Change.ofWords? (type word : String) : Option Change :=
  if type = "TOPOLOGY_CHANGE" ∧ word = "NEW_NODE" then some .added
  else if type = "TOPOLOGY_CHANGE" ∧ word = "REMOVED_NODE" then some .removed
  else if type = "STATUS_CHANGE" ∧ word = "UP" then some .up
  else if type = "STATUS_CHANGE" ∧ word = "DOWN" then some .down
  else none

/-- The types of events that are subscribed to. -/
def subscribed : List String :=
  ["STATUS_CHANGE", "TOPOLOGY_CHANGE"]

/-- Reads an event. Nothing is read after the words of one that is not
tracked. -/
def readEvent : Read (Option Event) := do
  let type ← Read.text
  let word ← Read.text
  match Change.ofWords? type word with
  | none => Read.done none
  | some change =>
    let endpoint ← Read.endpoint
    Read.done (some ⟨change, endpoint⟩)

/-- The event of an event body; none if it is not tracked. -/
def parseEvent (body : Text.Octets) : Except Flaw (Option Event) :=
  (readEvent.run body).1

end NodeSidecar.Host
