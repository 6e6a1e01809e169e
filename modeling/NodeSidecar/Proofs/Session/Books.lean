import NodeSidecar.Proofs.Session.Passage
/-!
# Session — the calls and the table agree

Every move keeps `Booked`, so it holds of every run of a connection. It says
nothing of streams that are used twice: who registers on a stream on which
another request waits takes that one out of the table and tells it so.
-/

namespace NodeSidecar

/-- The entry that a call has made in the table, while its request is in
progress. -/
def Run.entry {α : Type} (run : Session.Connection.Calls α) (i : Nat) : Option (Int × Nat) :=
  (run.waiting i).bind Session.Connection.Wait.entry?

namespace Session.Connection

variable {α : Type} {c c' : Connection α} {p : Progress (Call α) Wait} {a : Option Answer}
variable {turn : Turn Wait Result} {entry : Nat → Option (Int × Nat)} {id : Nat}

/-- A call that leaves the books alone keeps its entry. -/
theorem Booked.keep {e : Option (Int × Nat)} (h : Booked c entry) (hc : SameBooks c c')
    (he : entry id = e) : Booked c' (Function.update entry id e) := by
  subst he
  rw [Function.update_eq_self]
  exact h.same hc

/-- A call that takes its request out of the table is over. -/
theorem Booked.withdraw {n : Nat} {s : Int} (h : Booked c entry) (he : entry id = some (s, n)) :
    Booked (c.settle s none) (Function.update entry id none) := by
  refine (h.settle s none).release fun q hq hmem => ?_
  obtain rfl : (s, n) = q := Option.some.inj (he.symm.trans hq)
  exact (mem_pending_settle.1 hmem).2 rfl

/-- A call that has its outcome is over. -/
theorem Booked.collect {n : Nat} {s : Int} {o : Option Wire.Frame} (h : Booked c entry)
    (he : entry id = some (s, n)) (ho : c.outcome? n = some o) :
    Booked c (Function.update entry id none) := by
  refine h.release fun q hq hmem => ?_
  obtain rfl : (s, n) = q := Option.some.inj (he.symm.trans hq)
  have hnone : c.outcome? n = none := h.waits (s, n) hmem
  cases ho.symm.trans hnone

/-- Whichever way a call goes on that cleared the table, it has no request. -/
theorem Ender.entry?_turn (e : Ender) : e.turn.next.bind Wait.entry? = none := by
  unfold Ender.turn
  split <;> rfl

theorem Ender.entry?_of_next {e : Ender} {w : Wait} (h : e.turn.next = some w) :
    w.entry? = none := by
  have hnone := e.entry?_turn
  rwa [h] at hnone

/-- **A stretch keeps the table and the calls in agreement.** -/
theorem Passage.booked (h : Passage c p a c' turn) (hb : Booked c entry)
    (hp : entry id = p.wait?.bind Wait.entry?) :
    Booked c' (Function.update entry id (turn.next.bind Wait.entry?)) := by
  cases h with
  | enrols => exact hb.enrol hp
  | refused | unwritten | timesOut => exact hb.withdraw hp
  | collects ho | givesUp ho => exact hb.collect hp ho
  | @answers f rest =>
    have hread : Booked { c with inbox := rest } entry := hb.same ⟨rfl, rfl, rfl⟩
    exact (hread.settle f.header.stream (some f)).keep ⟨rfl, rfl, rfl⟩ hp
  | @sweeps e =>
    rw [e.entry?_turn]
    exact hb.clear.keep ⟨rfl, rfl, rfl⟩ hp
  -- No other stretch touches the table, or changes the entry of its call.
  | _ => exact hb.keep ⟨rfl, rfl, rfl⟩ hp

theorem Passes.entry_after {t : Moment α} (h : Passes t id p a turn) :
    t.after.entry = Function.update t.before.entry id (turn.next.bind Wait.entry?) := by
  funext i
  by_cases hi : i = id
  · rw [hi, Run.entry, h.waiting_self, Function.update_self]
  · rw [Run.entry, h.waiting_of_ne hi, Function.update_of_ne hi, Run.entry]

theorem Passes.entry_before {t : Moment α} (h : Passes t id p a turn) :
    t.before.entry id = p.wait?.bind Wait.entry? := by
  rw [Run.entry, h.waiting_before]

variable {peer : Net.Endpoint} {past : List (Moment α)} {run : Calls α}

/-- **In every run the table and the calls agree.** -/
theorem booked (h : History peer past run) : Booked run.state run.entry := by
  refine history_induction (I := fun _ run => Booked run.state run.entry) h ?_
    (fun past t _ ih hq => ?_) fun past t id p a turn _ ih hp => ?_
  · have hentry : (fresh peer : Calls α).entry = fun _ => none := by
      funext i
      rw [Run.entry, waiting_fresh]
      rfl
    rw [hentry]
    exact .opened peer
  · have hentry : t.after.entry = t.before.entry := by
      funext i
      rw [Run.entry, hq.waiting, Run.entry]
    rw [hq.state, hentry]
    exact ih
  · rw [hp.entry_after]
    exact hp.passage.booked ih hp.entry_before

end Session.Connection

end NodeSidecar
