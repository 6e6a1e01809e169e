import NodeSidecar.Proofs.Execution
import NodeSidecar.Proofs.Session.Table
/-!
# Session — what a stretch does to a connection

`Passage` lists once what a stretch of a call can do to the connection it is
made on: how far the call had come, what it was answered, under which
condition, what the connection is then, and how the stretch ends.
`passage_start` and `passage_resume` say that the list is complete. Histories
of a connection are taken apart with it, one move after the other.
-/

namespace NodeSidecar.Session.Connection

variable {α : Type}

/-- A call that the network makes. -/
def Call.isNetwork : Call α → Bool
  | .arrive _ | .hangUp => true
  | _ => false

/-- How a call goes on once the table is clear. -/
def Ender.turn : Ender → Turn Wait Result
  | .reader true => .wait .reporting
  | _ => .done .finished

/-- **What a stretch of a call does to the connection** `c`: from how far the
call had come and what it was answered, to the connection then and how the
stretch ends. -/
inductive Passage (c : Connection α) :
    Progress (Call α) Wait → Option Answer → Connection α → Turn Wait Result → Prop
  /-- A request registers. -/
  | enrols : Passage c (.fresh .execute) none c.enrol
      (.wait (.checking c.requests (streamAt c.counter)))
  /-- The connection has ended before. -/
  | closedBefore : c.closed → Passage c (.fresh .close) none c (.done .finished)
  /-- A caller sets the mark of the end. -/
  | closes : ¬ c.closed →
      Passage c (.fresh .close) none { c with closed := true } (.wait (.clearing .caller))
  /-- A listener is put in. -/
  | listens {l : Host.Listener α} : Passage c (.fresh (.listen l)) none
      (c.withListeners (c.listeners.register l).1) (.done (.listens (c.listeners.register l).2))
  /-- A listener is taken out. -/
  | unlistens {id : Nat} : Passage c (.fresh (.unlisten id)) none
      (c.withListeners (c.listeners.unregister id).1)
      (.done (.unlistened (c.listeners.unregister id).2))
  /-- Someone begins to read. -/
  | reads : Passage c (.fresh .read) none c (.wait .reading)
  /-- Something comes from the network. -/
  | comes {k : Call α} {octets : Text.Octets} {hungUp : Bool} : k.isNetwork →
      Passage c (.fresh k) none { c with inbox := octets, hungUp := hungUp } (.done .finished)
  /-- A request finds the connection closed. -/
  | refused {n : Nat} {s : Int} : c.closed →
      Passage c (.waiting (.checking n s)) (some .turn) (c.settle s none)
        (.done (.rows (.error (c.unavailable closedReason))))
  /-- A request finds the connection open. -/
  | passes {n : Nat} {s : Int} : ¬ c.closed →
      Passage c (.waiting (.checking n s)) (some .turn) c (.wait (.writing n s))
  /-- A request is written. -/
  | writes {n : Nat} {s : Int} :
      Passage c (.waiting (.writing n s)) (some .turn) { c with written := n :: c.written }
        (.wait (.awaiting n s))
  /-- Writing a request fails. -/
  | unwritten {n : Nat} {s : Int} {reason : String} :
      Passage c (.waiting (.writing n s)) (some (.unwritten reason)) (c.settle s none)
        (.done (.rows (.error (c.unavailable reason))))
  /-- A frame came back for a request. -/
  | collects {n : Nat} {s : Int} {f : Wire.Frame} : c.outcome? n = some (some f) →
      Passage c (.waiting (.awaiting n s)) (some .turn) c (.done (.rows f.rows))
  /-- Nothing will come back for a request. -/
  | givesUp {n : Nat} {s : Int} : c.outcome? n = some none →
      Passage c (.waiting (.awaiting n s)) (some .turn) c
        (.done (.rows (.error (c.unavailable closedReason))))
  /-- Nothing came back for a request in time. -/
  | timesOut {n : Nat} {s : Int} {millis : Nat} {reason : String} : c.outcome? n = none →
      Passage c (.waiting (.awaiting n s)) (some (.timedOut millis)) (c.settle s none)
        (.done (.rows (.error (c.unavailable reason))))
  /-- An event is read that is passed on. -/
  | hears {f : Wire.Frame} {rest : Text.Octets} {e : Host.Event} :
      Wire.front c.inbox = .frame f rest → f.header.stream = Wire.eventStream →
      (event? f).filter (concerns c.peer) = some e →
      Passage c (.waiting .reading) (some .turn) ({ c with inbox := rest }.tell e)
        (.wait .reading)
  /-- An event is read that is not passed on. -/
  | overhears {f : Wire.Frame} {rest : Text.Octets} :
      Wire.front c.inbox = .frame f rest → f.header.stream = Wire.eventStream →
      Passage c (.waiting .reading) (some .turn) { c with inbox := rest } (.wait .reading)
  /-- An answer is read. -/
  | answers {f : Wire.Frame} {rest : Text.Octets} :
      Wire.front c.inbox = .frame f rest → f.header.stream ≠ Wire.eventStream →
      Passage c (.waiting .reading) (some .turn)
        ({ c with inbox := rest }.settle f.header.stream (some f)) (.wait .reading)
  /-- The one who reads comes to the end. -/
  | endsReading : (∀ f rest, Wire.front c.inbox ≠ .frame f rest) →
      Passage c (.waiting .reading) (some .turn) { c with closed := true }
        (.wait (.clearing (.reader !c.closed)))
  /-- Who set the mark of the end clears the table. -/
  | sweeps {e : Ender} : Passage c (.waiting (.clearing e)) (some .turn) c.clear e.turn
  /-- The loss is told to the listeners. -/
  | reports : Passage c (.waiting .reporting) (some .turn) (c.tell c.lossEvent)
      (.done .finished)

theorem cleared_eq (c : Connection α) (e : Ender) : c.cleared e = ⟨c, e.turn, []⟩ := by
  rcases e with - | isLoss
  · rfl
  · cases isLoss <;> rfl

/-- Every first stretch is a passage. -/
theorem passage_start (k : Call α) (c : Connection α) :
    Passage c (.fresh k) none (start k c).state (start k c).turn := by
  cases k with
  | execute => exact .enrols
  | close =>
    simp only [start]
    split
    · exact .closedBefore ‹_›
    · exact .closes ‹_›
  | listen l => exact .listens
  | unlisten id => exact .unlistens
  | read => exact .reads
  | arrive octets =>
    simp only [start]
    split
    · exact .comes rfl
    · exact .comes rfl
  | hangUp => exact .comes rfl

theorem passage_readNext {c : Connection α} {st : Step α} (h : c.readNext = some st) :
    Passage c (.waiting .reading) (some .turn) st.state st.turn := by
  unfold readNext at h
  split at h
  · rename_i f rest hfront
    obtain rfl := Option.some.inj h
    simp only [receive]
    split
    · rename_i hevent
      split
      · exact .hears hfront hevent ‹_›
      · exact .overhears hfront hevent
    · exact .answers hfront ‹_›
  · rename_i hfront
    obtain rfl := Option.some.inj h
    exact .endsReading fun f rest hf => by cases hfront.symm.trans hf
  · rename_i hfront
    split at h
    · obtain rfl := Option.some.inj h
      exact .endsReading fun f rest hf => by cases hfront.symm.trans hf
    · cases h

theorem passage_collect {c : Connection α} {n : Nat} {s : Int} {st : Step α}
    (h : c.collect n = some st) :
    Passage c (.waiting (.awaiting n s)) (some .turn) st.state st.turn := by
  unfold collect at h
  split at h
  · obtain rfl := Option.some.inj h
    exact .collects ‹_›
  · obtain rfl := Option.some.inj h
    exact .givesUp ‹_›
  · cases h

/-- **Every stretch that an answer sets off is a passage.** -/
theorem passage_resume {w : Wait} {a : Answer} {c : Connection α} {st : Step α}
    (h : resume w a c = some st) : Passage c (.waiting w) (some a) st.state st.turn := by
  unfold resume at h
  split at h
  · split at h
    · obtain rfl := Option.some.inj h
      exact .refused ‹_›
    · obtain rfl := Option.some.inj h
      exact .passes ‹_›
  · obtain rfl := Option.some.inj h
    exact .writes
  · obtain rfl := Option.some.inj h
    exact .unwritten
  · exact passage_collect h
  · split at h
    · cases h
    · rename_i hnone
      obtain rfl := Option.some.inj h
      exact .timesOut (by simpa using hnone)
  · exact passage_readNext h
  · obtain rfl := Option.some.inj h
    rw [cleared_eq]
    exact .sweeps
  · obtain rfl := Option.some.inj h
    exact .reports
  · cases h

/-! ## Histories -/

/-- A move made on a connection. -/
abbrev Moment (α : Type) := Transition (Connection α) (Call α) Wait Answer

/-- The histories of a connection that was just opened, with someone to read
it. -/
abbrev History (peer : Net.Endpoint) : List (Moment α) → Calls α → Prop :=
  Execution system (fresh peer)

/-- A move that lets the call `id` go on, which had come as far as `p` and is
answered `a`; its stretch ends with `turn`. -/
structure Passes (t : Moment α) (id : Nat) (p : Progress (Call α) Wait) (a : Option Answer)
    (turn : Turn Wait Result) : Prop where
  caller : t.caller = some id
  cause : t.cause = some (p, a)
  progress : t.before.progress id = some p
  passage : Passage t.before.state p a t.after.state turn
  waiting : t.after.waiting = Function.update t.before.waiting id turn.next
  result : t.result system = turn.result

theorem passes_of_ran {t : Moment α} {id : Nat} {p : Progress (Call α) Wait}
    {a : Option Answer} {st : Step α} (hb : t.before.Bounded) (h : t.Ran system id p a st) :
    Passes t id p a st.turn where
  caller := h.caller
  cause := h.cause
  progress := h.progress
  passage := by
    rw [h.state]
    rcases System.proceed_eq_some_iff.1 h.proceed with ⟨k, rfl, rfl, rfl⟩ | ⟨w, b, rfl, rfl, hst⟩
    · exact passage_start k t.before.state
    · exact passage_resume hst
  waiting := h.next_eq ▸ h.waiting hb
  result := h.result_eq

/-- **A move lets no call go on, or lets one pass.** -/
theorem quiet_or_passes {t : Moment α} (hb : t.before.Bounded)
    (h : t.before.apply system t.move = some t.after) :
    t.Quiet ∨ ∃ id p a turn, Passes t id p a turn := by
  rcases Transition.quiet_or_ran hb h with hq | ⟨id, p, a, st, hr⟩
  · exact .inl hq
  · exact .inr ⟨id, p, a, st.turn, passes_of_ran hb hr⟩

namespace Passes

variable {t : Moment α} {id i : Nat} {p q : Progress (Call α) Wait} {a b : Option Answer}
variable {turn : Turn Wait Result}

/-- A move has one cause. -/
theorem eq_of_cause (h : Passes t id p a turn) (hc : t.cause = some (q, b)) : p = q ∧ a = b :=
  Prod.mk.inj (Option.some.inj (h.cause.symm.trans hc))

theorem waiting_before (h : Passes t id p a turn) : t.before.waiting id = p.wait? :=
  Run.waiting_of_progress h.progress

/-- Who waits goes on from there. -/
theorem eq_waiting (h : Passes t id p a turn) {w : Wait} (hw : t.before.waiting id = some w) :
    p = .waiting w :=
  Option.some.inj (h.progress.symm.trans (Run.waiting_eq_some_iff.1 hw))

theorem waiting_self (h : Passes t id p a turn) : t.after.waiting id = turn.next := by
  rw [h.waiting, Function.update_self]

/-- A move is made by one call. -/
theorem caller_ne (h : Passes t id p a turn) (hi : i ≠ id) : t.caller ≠ some i := by
  rw [h.caller]
  exact fun hid => hi (Option.some.inj hid).symm

theorem waiting_of_ne (h : Passes t id p a turn) (hi : i ≠ id) :
    t.after.waiting i = t.before.waiting i := by
  rw [h.waiting, Function.update_of_ne hi]

end Passes

variable {peer : Net.Endpoint} {past : List (Moment α)} {run : Calls α}

theorem bounded_fresh : (fresh peer : Calls α).Bounded :=
  (Run.bounded_idle _).submit _

@[simp] theorem waiting_fresh (i : Nat) : (fresh peer : Calls α).waiting i = none := by
  rw [fresh, Run.waiting_submit (Run.bounded_idle _), Run.waiting_idle]

/-- **Induction along an execution**: what holds at the beginning, and is kept
by each move, holds of every execution. -/
theorem execution_induction {I : List (Moment α) → Calls α → Prop} {start : Calls α}
    (h : Execution system start past run) (hb : start.Bounded) (h0 : I [] start)
    (hquiet : ∀ past t, Execution system start past t.before → I past t.before → t.Quiet →
      I (past ++ [t]) t.after)
    (hpasses : ∀ past t id p a turn, Execution system start past t.before → I past t.before →
      Passes t id p a turn → I (past ++ [t]) t.after) : I past run :=
  h.induction hb h0 hquiet fun past t id p a st hx ih hr =>
    hpasses past t id p a st.turn hx ih (passes_of_ran (hx.bounded hb) hr)

/-- Induction along a history. -/
theorem history_induction {I : List (Moment α) → Calls α → Prop} (h : History peer past run)
    (h0 : I [] (fresh peer))
    (hquiet : ∀ past t, History peer past t.before → I past t.before → t.Quiet →
      I (past ++ [t]) t.after)
    (hpasses : ∀ past t id p a turn, History peer past t.before → I past t.before →
      Passes t id p a turn → I (past ++ [t]) t.after) : I past run :=
  execution_induction h bounded_fresh h0 hquiet hpasses

end NodeSidecar.Session.Connection
