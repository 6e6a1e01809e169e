/-!
# Fleet — the clock and its timers

Time is counted in milliseconds. A timer is a task of its own: once it was
started it ticks at every full period, until it is cancelled. The clock holds
on to the timer that it started last. Starting another one cancels the one
held, and so does stopping.
-/

namespace NodeSidecar

/-- A timer that is running. -/
structure Timer where
  /-- The timers are numbered in the order they were started. -/
  id : Nat
  /-- The time between two ticks. -/
  period : Nat
  /-- The moment of the next tick. -/
  due : Nat
  /-- Time passes between two ticks. -/
  period_pos : 0 < period
  deriving DecidableEq, Repr

/-- One tick of a timer. -/
structure Tick where
  /-- When it comes. -/
  moment : Nat
  /-- The timer that ticks. -/
  timer : Nat
  deriving DecidableEq, Repr

namespace Timer

/-- A timer started at a moment. A period of no length is raised to one
millisecond. -/
def startedAt (id now period : Nat) : Timer where
  id := id
  period := max period 1
  due := now + max period 1
  period_pos := by omega

/-- How often the timer ticks up to a moment, that moment included. -/
def tickCount (t : Timer) (limit : Nat) : Nat :=
  (limit + t.period - t.due) / t.period

/-- The ticks of the timer up to a moment, that moment included. -/
def ticks (t : Timer) (limit : Nat) : List Tick :=
  (List.range (t.tickCount limit)).map fun k => ⟨t.due + k * t.period, t.id⟩

/-- The timer after it has ticked up to a moment. -/
def upTo (t : Timer) (limit : Nat) : Timer :=
  { t with due := t.due + t.tickCount limit * t.period }

end Timer

/-- The timer that a clock holds on to. -/
structure TimerHandle where
  /-- Which timer it is. -/
  id : Nat
  /-- The time between two of its ticks. -/
  period : Nat
  deriving DecidableEq, Repr

/-- A clock. -/
structure Clock where
  /-- The time. -/
  now : Nat
  /-- The timers that are running, in the order they were started. -/
  timers : List Timer
  /-- The timer held on to. -/
  held : Option TimerHandle
  /-- The number of the next timer. -/
  nextId : Nat
  deriving DecidableEq, Repr

namespace Clock

/-- A clock that was just set going, without a timer. -/
def zero : Clock :=
  ⟨0, [], none, 1⟩

/-- Cancels a timer. -/
def cancel (c : Clock) (id : Nat) : Clock :=
  { c with timers := c.timers.filter (·.id ≠ id) }

/-- Lets go of the timer that is held, and cancels it. -/
def letGo (c : Clock) : Clock :=
  match c.held with
  | some timer => { c.cancel timer.id with held := none }
  | none => c

/-- Sets a timer going and holds on to it. -/
def launch (c : Clock) (period : Nat) : Clock :=
  { c with
    timers := c.timers ++ [.startedAt c.nextId c.now period]
    held := some ⟨c.nextId, max period 1⟩
    nextId := c.nextId + 1 }

/-- Starts a timer, in place of the one that is held. -/
def start (c : Clock) (period : Nat) : Clock :=
  c.letGo.launch period

/-- Stops the timer that is held; answers whether there was one. -/
def stop (c : Clock) : Clock × Bool :=
  (c.letGo, c.held.isSome)

/-- A timer is held on to. -/
def isRunning (c : Clock) : Bool :=
  c.held.isSome

/-- The period of the timer that is held on to. -/
def period (c : Clock) : Option Nat :=
  c.held.map (·.period)

/-- The ticks of all timers up to a moment, in the order of time. -/
def ticks (c : Clock) (limit : Nat) : List Tick :=
  (c.timers.flatMap (·.ticks limit)).mergeSort (·.moment ≤ ·.moment)

/-- The clock moves on to a moment, and the timers tick on the way. -/
def moveTo (c : Clock) (limit : Nat) : Clock :=
  { c with
    now := limit
    timers := c.timers.map (·.upTo limit) }

end Clock

end NodeSidecar
