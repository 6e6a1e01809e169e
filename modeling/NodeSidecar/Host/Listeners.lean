import NodeSidecar.Host.Event
/-!
# Host — listeners

A table of listeners that want to be told of events. Telling an event walks
over the listeners that the table held when the walk began, so what they do
to the table meanwhile changes who is told of the next event, not of this
one.
-/

namespace NodeSidecar.Host

/-- A listener: for each change, what it does when told of one, if anything. -/
structure Listener (α : Type) where
  onAdded : Option α
  onUp : Option α
  onDown : Option α
  onRemoved : Option α
  deriving DecidableEq, Repr

namespace Listener

variable {α : Type}

/-- What the listener does on a change. -/
def reaction (l : Listener α) : Change → Option α
  | .added => l.onAdded
  | .up => l.onUp
  | .down => l.onDown
  | .removed => l.onRemoved

/-- A listener that does the same on these changes and nothing on others. -/
def on (changes : List Change) (a : α) : Listener α :=
  let pick := fun change => if change ∈ changes then some a else none
  ⟨pick .added, pick .up, pick .down, pick .removed⟩

end Listener

/-- The listeners in the order they registered, each under an id of its own. -/
structure Listeners (α : Type) where
  /-- The id that the next listener gets; ids are counted up from zero. -/
  nextId : Nat
  /-- The listeners. -/
  entries : List (Nat × Listener α)
  deriving DecidableEq, Repr

namespace Listeners

variable {α : Type}

/-- No listeners, and none ever registered. -/
def empty : Listeners α :=
  ⟨0, []⟩

/-- Adds a listener; answers its id. -/
def register (t : Listeners α) (l : Listener α) : Listeners α × Nat :=
  (⟨t.nextId + 1, t.entries ++ [(t.nextId, l)]⟩, t.nextId)

/-- Whether a listener is registered under this id. -/
def has (t : Listeners α) (id : Nat) : Bool :=
  t.entries.any (·.1 = id)

/-- Takes the listener with this id out; answers whether there was one. -/
def unregister (t : Listeners α) (id : Nat) : Listeners α × Bool :=
  (⟨t.nextId, t.entries.filter (·.1 ≠ id)⟩, t.has id)

/-- How many listeners there are. -/
def size (t : Listeners α) : Nat :=
  t.entries.length

/-- What the listeners do on a change, in the order they registered. -/
def reactions (t : Listeners α) (change : Change) : List α :=
  t.entries.filterMap fun e => e.2.reaction change

/-- Tells an event to the listeners of a table inside a state: `react` is what
a reaction does to the state, table included. -/
def notify {σ : Type} (table : σ → Listeners α) (react : α → Event → σ → σ) (e : Event)
    (s : σ) : σ :=
  ((table s).reactions e.change).foldl (fun s a => react a e s) s

end Listeners

end NodeSidecar.Host
