import NodeSidecar.Rehearsal.Acts
/-!
# Rehearsal — what is done on the side

Calls and requests may be begun and left to themselves. They are known by a
name, and each can be asked for its outcome until it has told it.
-/

namespace NodeSidecar.Rehearsal

/-- Something that was begun; `ρ` is what is told in the end. -/
inductive Side (ρ : Type) where
  /-- It was over at once. -/
  | settled (outcome : ρ)
  /-- A call. -/
  | call (ticket : Ticket) (told : Node.Result → ρ)
  /-- A request. -/
  | request (s : Serving) (told : Http.Response → ρ)

/-- What there is to tell, if it is over. -/
def outcome? {ρ : Type} (r : Rehearsal) : Side ρ → Option ρ
  | .settled outcome => some outcome
  | .call ticket told => (r.result? ticket).map fun ended => told ended.2
  | .request s told => (r.response? s).map told

/-- What was begun on the side, by name. -/
abbrev Sides (ρ : Type) := List (String × Side ρ)

/-- Begins something under a name. -/
def Sides.add {ρ : Type} (sides : Sides ρ) (name : String) (s : Side ρ) : Sides ρ :=
  (name, s) :: sides

/-- Asks for the outcome of what was begun under a name. It is `none` if nothing
was, or if it has been told; what has no outcome yet can be asked again. -/
def Sides.join {ρ : Type} (sides : Sides ρ) (r : Rehearsal) (name : String) :
    Sides ρ × Option (Option ρ) :=
  match sides.lookup name with
  | none => (sides, none)
  | some s =>
    match r.outcome? s with
    | none => (sides, some none)
    | some outcome => (sides.filter (·.1 ≠ name), some (some outcome))

end NodeSidecar.Rehearsal
