/-!
# Interleaving — many calls over one state

A *system* is a state that many calls work on at the same time. A call runs in
stretches: a stretch is never interrupted, and ends with the call's result or
with the call waiting for something. Between two stretches of one call any
number of stretches of other calls may run. A *run* is the state together with
the calls in progress; a *move* submits a call, starts one, or answers one
that waits.
-/

namespace NodeSidecar

/-- How a stretch of a call ends. -/
inductive Turn (ω ρ : Type) where
  /-- The call waits. -/
  | wait (w : ω)
  /-- The call is over. -/
  | done (r : ρ)

/-- What a stretch leaves behind. -/
structure Stretch (σ κ ω ρ : Type) where
  /-- The state after it. -/
  state : σ
  /-- How it ends. -/
  turn : Turn ω ρ
  /-- The calls it submitted on the side. -/
  spawned : List κ

/-- A state with calls: `σ` the state, `κ` the calls, `ω` what they wait for,
`α` what they are answered, `ρ` their results. -/
structure System (σ κ ω α ρ : Type) where
  /-- The first stretch of a call. -/
  start : κ → σ → Stretch σ κ ω ρ
  /-- The stretch that an answer sets off, if what waits can be answered so. -/
  resume : ω → α → σ → Option (Stretch σ κ ω ρ)

/-- How far a call has come. -/
inductive Progress (κ ω : Type) where
  /-- It has not begun. -/
  | fresh (c : κ)
  /-- It waits. -/
  | waiting (w : ω)

/-- A state and the calls in progress on it, each under an id of its own. -/
structure Run (σ κ ω : Type) where
  /-- The state. -/
  state : σ
  /-- The calls in progress. -/
  calls : List (Nat × Progress κ ω)
  /-- The id of the next call. -/
  nextId : Nat

/-- One step of a run. -/
inductive Move (κ α : Type) where
  /-- A call is made. -/
  | submit (c : κ)
  /-- A call begins. -/
  | start (id : Nat)
  /-- A call that waits is answered. -/
  | resume (id : Nat) (a : α)

namespace Run

variable {σ κ ω α ρ : Type}

/-- A state without calls. -/
def idle (s : σ) : Run σ κ ω :=
  ⟨s, [], 0⟩

/-- How far the call with this id has come. -/
def progress (run : Run σ κ ω) (id : Nat) : Option (Progress κ ω) :=
  (run.calls.find? (·.1 = id)).map (·.2)

/-- Adds a call that has not begun. -/
def submit (run : Run σ κ ω) (c : κ) : Run σ κ ω :=
  ⟨run.state, run.calls ++ [(run.nextId, .fresh c)], run.nextId + 1⟩

/-- Adds calls that have not begun. -/
def submitAll (run : Run σ κ ω) (cs : List κ) : Run σ κ ω :=
  cs.foldl submit run

/-- Takes the outcome of a stretch of the call with this id into the run. -/
def settle (run : Run σ κ ω) (id : Nat) (stretch : Stretch σ κ ω ρ) : Run σ κ ω :=
  let calls :=
    match stretch.turn with
    | .done _ => run.calls.filter (·.1 ≠ id)
    | .wait w => run.calls.map fun c => if c.1 = id then (id, .waiting w) else c
  submitAll ⟨stretch.state, calls, run.nextId⟩ stretch.spawned

/-- The stretch that a move makes the call with this id run. -/
def stretch? (sys : System σ κ ω α ρ) (run : Run σ κ ω) (id : Nat) (answer : Option α) :
    Option (Stretch σ κ ω ρ) :=
  match run.progress id, answer with
  | some (.fresh c), none => some (sys.start c run.state)
  | some (.waiting w), some a => sys.resume w a run.state
  | _, _ => none

/-- The run after a move, if the move can be made. -/
def apply (sys : System σ κ ω α ρ) (run : Run σ κ ω) : Move κ α → Option (Run σ κ ω)
  | .submit c => some (run.submit c)
  | .start id => (run.stretch? sys id none).map (run.settle id)
  | .resume id a => (run.stretch? sys id (some a)).map (run.settle id)

/-- The run after moves made one after the other, if all of them can be. -/
def applyAll (sys : System σ κ ω α ρ) (run : Run σ κ ω) (moves : List (Move κ α)) :
    Option (Run σ κ ω) :=
  moves.foldlM (apply sys) run

end Run

/-- Runs a call on with nobody in between, `answer` saying what it is answered
each time it waits; `turns` bounds its stretches. -/
def System.finish {σ κ ω α ρ : Type} (sys : System σ κ ω α ρ) (answer : ω → σ → α) :
    (turns : Nat) → Stretch σ κ ω ρ → σ × Option ρ
  | 0, s => (s.state, none)
  | turns + 1, s =>
    match s.turn with
    | .done r => (s.state, some r)
    | .wait w =>
      match sys.resume w (answer w s.state) s.state with
      | some next => sys.finish answer turns next
      | none => (s.state, none)

end NodeSidecar
