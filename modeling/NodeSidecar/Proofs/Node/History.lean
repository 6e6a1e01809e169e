import NodeSidecar.Proofs.Node.Passage
/-!
# Node — histories

What can be read off the moves made on a node, one after the other: the
sessions that the provider gave the monitor, the settings that probes stored,
the probes that failed, the word that the node is down. `quiet_or_passes` is
the one place where a move is taken apart; an invariant of a history is kept
by a call that is submitted, and by each `Passage`.
-/

namespace NodeSidecar

/-- The monitor of the node that calls are made on. -/
abbrev Run.monitor (run : Node.Calls) : Monitor :=
  run.state.monitor

namespace Node

/-- A move made on a node. -/
abbrev Moment := Transition Node Call Wait Answer

/-- The histories of a node that begins with nothing. -/
abbrev History (id : Nat) (catalog : Catalog) : List Moment → Calls → Prop :=
  Execution system (Run.idle (Node.fresh id catalog))

/-! ## What a move says -/

/-- The session that the provider gives the monitor in a move. -/
def obtains (t : Moment) : Option Nat :=
  match t.cause with
  | some (.waiting (.connecting _), some (.session s)) => s
  | _ => none

/-- The settings with which a probe's query is answered in a move, unless the
watch is over. -/
def stores (t : Moment) : Option NodeSettings :=
  match t.cause with
  | some (.waiting (.querying _), some (.rows r)) =>
    if t.before.monitor.isClosed then none
    else
      match r.bind NodeSettings.ofRows with
      | .ok settings => settings
      | .error _ => none
  | _ => none

/-- A probe gets no session, or no complete row, in a move. -/
def fails (t : Moment) : Bool :=
  match t.cause with
  | some (.waiting (.monitorLock (.connect .probe)), some .granted) =>
    t.before.monitor.isClosed && t.before.monitor.usable.isNone
  | some (.waiting (.connecting .probe), some (.session s)) => s.isNone
  | some (.waiting (.querying _), some (.rows _)) =>
    !t.before.monitor.isClosed && (stores t).isNone
  | _ => false

/-- The node is reported down in a move: the session in use pushes an event
that says so, or a caller does. -/
def tellsDown (t : Moment) : Bool :=
  match t.cause with
  | some (.fresh .reportDown, _) => true
  | some (.fresh (.event s e), _) => t.before.monitor.slot = some s && e.change = .down
  | _ => false

/-- A session is asked of the provider in a move. -/
def asksSession (t : Moment) : Bool :=
  match t.next system with
  | some (.connecting _) => true
  | _ => false

/-- A probe's query begins in a move. -/
def asksQuery (t : Moment) : Bool :=
  match t.next system with
  | some (.querying _) => true
  | _ => false

/-- The sessions that the provider gave the monitor. -/
def obtained (past : List Moment) : List Nat :=
  past.filterMap obtains

/-! ## Taking a move apart -/

/-- A move that lets no call go on. -/
structure Quiet (t : Moment) : Prop where
  cause : t.cause = none
  monitor : t.after.monitor = t.before.monitor
  waiting : t.after.waiting = t.before.waiting

/-- A move that lets the call `id` go on, which had come as far as `p` and is
answered `a`. -/
structure Passes (t : Moment) (id : Nat) (p : Progress Call Wait) (a : Option Answer) :
    Prop where
  caller : t.caller = some id
  cause : t.cause = some (p, a)
  progress : t.before.progress id = some p
  passage : Passage t.before.monitor p a t.after.monitor (t.next system)
  waiting : t.after.waiting = Function.update t.before.waiting id (t.next system)

theorem passage_of_ran {t : Moment} {id : Nat} {p : Progress Call Wait} {a : Option Answer}
    {st : Step} (h : t.Ran system id p a st) :
    Passage t.before.monitor p a t.after.monitor (t.next system) := by
  have hproceed := h.proceed
  rw [Run.monitor, Run.monitor, h.state, h.next_eq]
  rcases System.proceed_eq_some_iff.1 hproceed with ⟨c, rfl, rfl, rfl⟩ | ⟨v, b, rfl, rfl, hst⟩
  · exact passage_start c t.before.state
  · exact passage_resume hst

theorem quiet_of_quiet {t : Moment} (h : t.Quiet) : Quiet t :=
  ⟨h.cause, congrArg Node.monitor h.state, h.waiting⟩

theorem passes_of_ran {t : Moment} {id : Nat} {p : Progress Call Wait} {a : Option Answer}
    {st : Step} (hb : t.before.Bounded) (h : t.Ran system id p a st) : Passes t id p a :=
  ⟨h.caller, h.cause, h.progress, passage_of_ran h, h.waiting hb⟩

/-- **A move lets no call go on, or lets one pass.** -/
theorem quiet_or_passes {run next : Calls} {m : Move Call Answer} (hb : run.Bounded)
    (h : run.apply system m = some next) :
    Quiet ⟨run, m, next⟩ ∨ ∃ id p a, Passes ⟨run, m, next⟩ id p a := by
  rcases Transition.quiet_or_ran (t := ⟨run, m, next⟩) hb h with hq | ⟨id, p, a, st, hr⟩
  · exact .inl (quiet_of_quiet hq)
  · exact .inr ⟨id, p, a, passes_of_ran hb hr⟩

namespace Passes

variable {t : Moment} {id i : Nat} {p q : Progress Call Wait} {a b : Option Answer}

/-- A move has one cause. -/
theorem eq_of_cause (h : Passes t id p a) (hc : t.cause = some (q, b)) : p = q ∧ a = b :=
  Prod.mk.inj (Option.some.inj (h.cause.symm.trans hc))

theorem waiting_self (h : Passes t id p a) : t.after.waiting id = t.next system := by
  rw [h.waiting, Function.update_self]

theorem waiting_of_ne (h : Passes t id p a) (hi : i ≠ id) :
    t.after.waiting i = t.before.waiting i := by
  rw [h.waiting, Function.update_of_ne hi]

end Passes

/-- **Induction along a history**: what holds at the beginning, and is kept by
each move, holds of every history. -/
theorem history_induction {I : List Moment → Calls → Prop} {start run : Calls}
    {past : List Moment} (h : Execution system start past run) (hb : start.Bounded)
    (h0 : I [] start)
    (hquiet : ∀ past t, I past t.before → Quiet t → I (past ++ [t]) t.after)
    (hpasses : ∀ past t id p a, I past t.before → Passes t id p a → I (past ++ [t]) t.after) :
    I past run :=
  h.induction hb h0 (fun past t _ ih hq => hquiet past t ih (quiet_of_quiet hq))
    fun past t id p a _ hx ih hr =>
      hpasses past t id p a ih (passes_of_ran (hx.bounded hb) hr)

end Node

end NodeSidecar
