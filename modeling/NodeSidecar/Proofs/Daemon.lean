import NodeSidecar.Daemon
import NodeSidecar.Proofs.Configuration.Validation
import NodeSidecar.Proofs.Fleet.Timers
import NodeSidecar.Proofs.Node.Health
/-!
# Daemon — started whole, and stopped for good

The program is started and stopped by calls made one after the other, while calls
go on at its nodes and time passes (`Daemon.Act`). What every act keeps is `Steady`:
the timer runs as long as requests are served, and once the program was stopped
neither is the case and every watch is over. So a start either fails and leaves
everything as it was, or it does all that it is to do (`Started`), and a stop is
the end (`Stopped`).
-/

namespace NodeSidecar.Daemon

/-- What can happen to the program. -/
inductive Act where
  /-- It is started, and this comes of listening at its address. -/
  | start (bound : Except String Unit)
  /-- It is stopped. -/
  | stop
  /-- Something happens on the node with this index. -/
  | node (index : Nat) (m : NodeSidecar.Move Node.Call Node.Answer)
  /-- Time passes. -/
  | pass (millis : Nat)

/-- The program after an act, if it can happen. -/
def act (d : Daemon) : Act → Option Daemon
  | .start bound => some (d.start bound).1
  | .stop => some d.stop
  | .node index m => (d.fleet.apply (.node index m)).map fun fleet => { d with fleet := fleet }
  | .pass millis => some { d with fleet := d.fleet.pass millis }

/-- The program after acts one after the other, if all of them can happen. -/
def actAll (d : Daemon) (acts : List Act) : Option Daemon :=
  acts.foldlM act d

/-- **The program was started**, with a timer of this period: it was `d`, and now it
is `next`. -/
structure Started (period : Nat) (d next : Daemon) : Prop where
  /-- Requests are served. -/
  lifecycle : next.lifecycle = ⟨true, false⟩
  /-- One timer runs, which was started just now. -/
  timers : next.fleet.clock.timers =
    [.startedAt d.fleet.clock.nextId d.fleet.clock.now period]
  /-- It is held on to; a period of no length is raised to a millisecond. -/
  held : next.fleet.clock.period = some (max period 1)
  /-- One probe was submitted on each node. -/
  nodes : next.fleet.nodes = d.fleet.nodes.map (·.submit .probe)

/-- **The program is stopped** for good. -/
structure Stopped (d : Daemon) : Prop where
  serving : d.lifecycle.serving = false
  timers : d.fleet.clock.timers = []
  notRunning : d.isRunning = false
  /-- Every watch is over. -/
  closed : ∀ calls ∈ d.fleet.nodes, calls.state.monitor.phase = .closed
  /-- It cannot be started, and trying changes nothing. -/
  start : ∀ bound, d.start bound = (d, .error (.internal "daemon already stopped"))
  /-- Stopping it again takes a number for a call on each node, and that is all. -/
  stop : d.stop = { d with
    fleet := { d.fleet with
      nodes := d.fleet.nodes.map fun calls => { calls with nextId := calls.nextId + 1 } } }

variable {d next first : Daemon} {a : Act} {acts : List Act} {calls : Node.Calls}

/-! ## Starting -/

theorem start_of_stopped (h : d.lifecycle.stopped = true) (bound : Except String Unit) :
    d.start bound = (d, .error (.internal "daemon already stopped")) := by
  simp only [start, Lifecycle.start, h, if_true]

/-- A program that cannot listen is left as it was. -/
theorem start_of_refused (h : d.lifecycle.stopped = false) (reason : String) :
    d.start (.error reason) = (d, .error
      (.internal s!"Failed to bind REST server on {d.server.address.display}: {reason}")) := by
  simp only [start, Lifecycle.start, h, Bool.false_eq_true, if_false]

theorem start_of_bound (h : d.lifecycle.stopped = false) :
    d.start (.ok ()) = ({ d with
      lifecycle := ⟨true, false⟩
      fleet := { d.fleet.check with clock := d.fleet.clock.start d.period } }, .ok ()) := by
  simp only [start, Lifecycle.start, h, Bool.false_eq_true, if_false]
  rfl

/-! ## Ending a watch -/

/-- A call that is made begins at once. -/
theorem begin_eq (hb : calls.Bounded) (c : Node.Call) :
    begin calls c = (calls.submit c).settle calls.nextId (Node.start c calls.state) := by
  have hfresh : (calls.submit c).progress calls.nextId = some (.fresh c) := by
    rw [Run.progress_submit hb, if_pos rfl]
  simp only [begin, Run.apply, Run.stretch?, hfresh]
  rfl

theorem bounded_begin (hb : calls.Bounded) (c : Node.Call) : (begin calls c).Bounded := by
  rw [begin_eq hb]
  exact (hb.submit c).settle _

/-- The end of a watch that is over is over at once, and nothing happens. -/
theorem begin_close_of_isClosed (hb : calls.Bounded) (h : calls.state.monitor.isClosed) :
    begin calls .close = { calls with nextId := calls.nextId + 1 } := by
  have hend : Node.start .close calls.state = calls.state.ends .finished := if_pos h
  -- The call leaves the list that it was just put in, and no other call has its id.
  have hothers : calls.calls.filter (·.1 ≠ calls.nextId) = calls.calls := by
    refine List.filter_eq_self.2 fun c hc => ?_
    have := hb c hc
    simp only [ne_eq, decide_not, Bool.not_eq_true', decide_eq_false_iff_not]
    omega
  rw [begin_eq hb, hend]
  simp only [Run.settle, Node.ends, Run.submit, List.filter_append, hothers]
  simp [Run.submitAll]

/-- **A watch whose end is called for is over.** -/
theorem isClosed_begin_close (hb : calls.Bounded) :
    (begin calls .close).state.monitor.isClosed := by
  by_cases hclosed : calls.state.monitor.isClosed
  · rw [begin_close_of_isClosed hb hclosed]
    exact hclosed
  · have hend : Node.start .close calls.state =
        (calls.state.onMonitor .finish).waits (.monitorLock .shut) := if_neg hclosed
    rw [begin_eq hb, hend, Run.state_settle]
    rfl

/-! ## What every act keeps -/

/-- The timer runs while requests are served. Once the program was stopped they are
not, and every watch is over. -/
structure Steady (d : Daemon) : Prop where
  sole : d.fleet.clock.Sole
  bounded : ∀ calls ∈ d.fleet.nodes, calls.Bounded
  running : d.isRunning = d.lifecycle.serving
  ended : d.lifecycle.stopped = true →
    d.lifecycle.serving = false ∧ ∀ calls ∈ d.fleet.nodes, calls.state.monitor.isClosed

theorem steady_of_unstarted {nodes : List Node} (hlife : d.lifecycle = .unstarted)
    (hfleet : d.fleet = .fresh nodes) : Steady d := by
  refine ⟨?_, fun calls hcalls => ?_, ?_, ?_⟩
  · rw [hfleet]
    exact Clock.sole_zero
  · rw [hfleet] at hcalls
    obtain ⟨n, -, rfl⟩ := List.mem_map.1 hcalls
    exact Run.bounded_idle n
  · rw [isRunning, hfleet, hlife]
    rfl
  · rw [hlife]
    intro hstopped
    cases hstopped

theorem Steady.start (h : Steady d) (bound : Except String Unit) : Steady (d.start bound).1 := by
  by_cases hstopped : d.lifecycle.stopped = true
  · rw [start_of_stopped hstopped]
    exact h
  · rw [Bool.not_eq_true] at hstopped
    cases bound with
    | error reason =>
      rw [start_of_refused hstopped]
      exact h
    | ok =>
      rw [start_of_bound hstopped]
      refine ⟨h.sole.start _, fun calls hcalls => ?_, rfl, fun hended => ?_⟩
      · obtain ⟨before, hbefore, rfl⟩ := List.mem_map.1 hcalls
        exact (h.bounded before hbefore).submit _
      · cases hended

theorem Steady.stop (h : Steady d) : Steady d.stop := by
  refine ⟨h.sole.letGo, fun calls hcalls => ?_, ?_, fun _ => ⟨rfl, fun calls hcalls => ?_⟩⟩
  · obtain ⟨before, hbefore, rfl⟩ := List.mem_map.1 hcalls
    exact bounded_begin (h.bounded before hbefore) _
  · change d.fleet.clock.letGo.isRunning = false
    rw [Clock.isRunning, Clock.held_letGo]
    rfl
  · obtain ⟨before, hbefore, rfl⟩ := List.mem_map.1 hcalls
    exact isClosed_begin_close (h.bounded before hbefore)

/-- **Every act keeps the program steady.** -/
theorem Steady.act (h : Steady d) (ha : d.act a = some next) : Steady next := by
  cases a with
  | start bound =>
    obtain rfl := Option.some.inj ha
    exact h.start bound
  | stop =>
    obtain rfl := Option.some.inj ha
    exact h.stop
  | node index m =>
    obtain ⟨fleet, hfleet, rfl⟩ := Option.map_eq_some_iff.1 ha
    obtain ⟨before, after, hbefore, hafter, rfl⟩ := Fleet.apply_node_eq_some_iff.1 hfleet
    have hmem := List.mem_of_getElem? hbefore
    refine ⟨h.sole, fun calls hcalls => ?_, h.running, fun hstopped => ?_⟩
    · rcases List.mem_or_eq_of_mem_set hcalls with hcalls | rfl
      · exact h.bounded calls hcalls
      · exact (h.bounded before hmem).apply hafter
    · obtain ⟨hserving, hclosed⟩ := h.ended hstopped
      refine ⟨hserving, fun calls hcalls => ?_⟩
      rcases List.mem_or_eq_of_mem_set hcalls with hcalls | rfl
      · exact hclosed calls hcalls
      · exact Node.isClosed_of_apply (h.bounded before hmem) hafter (hclosed before hmem)
  | pass millis =>
    obtain rfl := Option.some.inj ha
    have hclock := d.fleet.clock_pass millis
    refine ⟨?_, fun calls hcalls => ?_, ?_, fun hstopped => ?_⟩
    · rw [hclock]
      exact h.sole.moveTo _
    · rw [Fleet.nodes_pass] at hcalls
      obtain ⟨before, hbefore, rfl⟩ := List.mem_map.1 hcalls
      exact (h.bounded before hbefore).submitAll _
    · rw [isRunning, hclock]
      exact h.running
    · obtain ⟨hserving, hclosed⟩ := h.ended hstopped
      refine ⟨hserving, fun calls hcalls => ?_⟩
      rw [Fleet.nodes_pass] at hcalls
      obtain ⟨before, hbefore, rfl⟩ := List.mem_map.1 hcalls
      rw [Run.state_submitAll]
      exact hclosed before hbefore

/-- What was configured stays, and nothing but a stop stops the program. -/
structure Follows (d next : Daemon) (stops : Prop) : Prop where
  roster : next.roster = d.roster
  server : next.server = d.server
  period : next.period = d.period
  stopped : next.lifecycle.stopped = true ↔ d.lifecycle.stopped = true ∨ stops

theorem follows_act (ha : d.act a = some next) : Follows d next (a = .stop) := by
  cases a with
  | start bound =>
    obtain rfl := Option.some.inj ha
    by_cases hstopped : d.lifecycle.stopped = true
    · rw [start_of_stopped hstopped]
      exact ⟨rfl, rfl, rfl, by simp⟩
    · rw [Bool.not_eq_true] at hstopped
      cases bound with
      | error reason =>
        rw [start_of_refused hstopped]
        exact ⟨rfl, rfl, rfl, by simp⟩
      | ok =>
        rw [start_of_bound hstopped]
        exact ⟨rfl, rfl, rfl, by simp [hstopped]⟩
  | stop =>
    obtain rfl := Option.some.inj ha
    exact ⟨rfl, rfl, rfl, by simp [Daemon.stop, Lifecycle.stop]⟩
  | node index m =>
    obtain ⟨fleet, -, rfl⟩ := Option.map_eq_some_iff.1 ha
    exact ⟨rfl, rfl, rfl, by simp⟩
  | pass millis =>
    obtain rfl := Option.some.inj ha
    exact ⟨rfl, rfl, rfl, by simp⟩

/-- **Whatever happens, the program stays steady**, and it was stopped just if a stop
is among what happened. -/
theorem Steady.actAll (h : Steady d) (hacts : d.actAll acts = some next) :
    Steady next ∧ Follows d next (.stop ∈ acts) := by
  refine foldlM_induction (P := fun acts next => Steady next ∧ Follows d next (.stop ∈ acts))
    hacts ⟨h, rfl, rfl, rfl, by simp⟩ ?_
  rintro made mid a next ⟨hsteady, hroster, hserver, hperiod, hstopped⟩ ha
  obtain ⟨hroster', hserver', hperiod', hstopped'⟩ := follows_act ha
  refine ⟨hsteady.act ha, hroster'.trans hroster, hserver'.trans hserver,
    hperiod'.trans hperiod, ?_⟩
  rw [hstopped', hstopped, List.mem_append, List.mem_singleton, or_assoc, @eq_comm Act a]

/-! ## Starts and stops -/

/-- A program that was stopped is stopped for good. -/
theorem Steady.stopped (h : Steady d) (hstopped : d.lifecycle.stopped = true) : Stopped d := by
  obtain ⟨hserving, hclosed⟩ := h.ended hstopped
  have hrunning : d.isRunning = false := h.running.trans hserving
  have hheld : d.fleet.clock.held = none := by
    simpa [isRunning, Clock.isRunning] using hrunning
  -- Each part of another stop leaves alone what it is done to.
  have hlife : d.lifecycle.stop = d.lifecycle := by
    rw [Lifecycle.stop, ← hserving, ← hstopped]
  have hclock : d.fleet.clock.stop.1 = d.fleet.clock := by
    rw [Clock.stop, Clock.letGo, hheld]
  have hnodes : d.fleet.nodes.map (begin · .close) =
      d.fleet.nodes.map fun calls => { calls with nextId := calls.nextId + 1 } :=
    List.map_congr_left fun calls hcalls =>
      begin_close_of_isClosed (h.bounded calls hcalls) (hclosed calls hcalls)
  exact
    { serving := hserving
      timers := h.sole.timers_eq_nil_iff.2 hheld
      notRunning := hrunning
      closed := fun calls hcalls => Node.isClosed_iff.1 (hclosed calls hcalls)
      start := start_of_stopped hstopped
      stop := by rw [Daemon.stop, hlife, hclock, hnodes] }

/-- A start that can listen does all that it is to do. -/
theorem Steady.started (h : Steady d) (hstopped : d.lifecycle.stopped = false) :
    ∃ next, d.start (.ok ()) = (next, .ok ()) ∧ Started d.period d next :=
  ⟨_, start_of_bound hstopped, rfl, h.sole.timers_start _, Clock.period_start _ _, rfl⟩

/-- One timer runs while requests are served, and none otherwise. -/
theorem Steady.length_timers (h : Steady d) :
    d.fleet.clock.timers.length = if d.lifecycle.serving then 1 else 0 := by
  have hlength := congrArg List.length h.sole.held
  rw [List.length_map] at hlength
  rw [hlength, ← h.running, isRunning, Clock.isRunning]
  cases d.fleet.clock.held with
  | none => rfl
  | some timer => rfl

/-- The period of a program that was configured is the one that is asked for. -/
theorem period_of_ofConfiguration {c : Configuration} (hc : c.Usable)
    (h : ofConfiguration c = .ok d) : max d.period 1 = c.probes.period := by
  unfold ofConfiguration at h
  split at h
  · cases h
  · split at h
    · cases h
    · cases h
      exact Nat.max_eq_left hc.period

/-- **The program starts whole or not at all, and stops for good.** Whatever starts
and stops were made of it, one after the other: if a stop was among them, no timer
runs, no request is served, every watch is over, a start is refused, and neither a
start nor another stop changes anything. If none was, a start that cannot listen
changes nothing, and one that can listen starts one timer with the period of the
program, probes every node once, and serves requests. The period of a program that was
configured is the one that was asked for. One timer runs while requests are served,
and none otherwise. -/
theorem starts_whole_and_stops_for_good {nodes : List Node}
    (hlife : first.lifecycle = .unstarted) (hfleet : first.fleet = .fresh nodes)
    (h : first.actAll acts = some d) :
    (.stop ∈ acts → Stopped d) ∧
    (.stop ∉ acts →
      (∀ reason, d.start (.error reason) = (d, .error (.internal
        s!"Failed to bind REST server on {first.server.address.display}: {reason}"))) ∧
      ∃ next, d.start (.ok ()) = (next, .ok ()) ∧ Started first.period d next) ∧
    (∀ c : Configuration, c.Usable → ofConfiguration c = .ok first →
      max first.period 1 = c.probes.period) ∧
    d.fleet.clock.timers.length = if d.lifecycle.serving then 1 else 0 := by
  obtain ⟨hsteady, -, hserver, hperiod, hstopped⟩ := (steady_of_unstarted hlife hfleet).actAll h
  refine ⟨fun hstop => hsteady.stopped (hstopped.2 (.inr hstop)), fun hno => ?_,
    fun c hc hfirst => period_of_ofConfiguration hc hfirst, hsteady.length_timers⟩
  have hrunning : d.lifecycle.stopped = false := by
    rw [← Bool.not_eq_true, hstopped, hlife]
    rintro (hstop | hstop)
    · cases hstop
    · exact hno hstop
  rw [← hserver, ← hperiod]
  exact ⟨start_of_refused hrunning, hsteady.started hrunning⟩

/-- The program of two nodes, before it is started. -/
def twoNodes : Daemon where
  roster := ⟨Configuration.elder.managed 5000, [Configuration.younger.managed 5000]⟩
  server := .standard
  period := 1000
  lifecycle := .unstarted
  fleet := .fresh [.fresh 2 .standard, .fresh 0 .standard]

/-- It cannot listen at first, is started then, and is stopped while a probe is on its
way. -/
theorem two_nodes_started_and_stopped : ofConfiguration Configuration.twoNodes = .ok twoNodes ∧
    (∃ next, twoNodes.start (.ok ()) = (next, .ok ()) ∧ Started 1000 twoNodes next) ∧
    ∃ d, twoNodes.actAll [.start (.error "address in use"), .start (.ok ()),
      .node 0 (.start 0), .pass 1000, .stop] = some d ∧ Stopped d := by
  have hroster : Configuration.twoNodes.roster = .ok twoNodes.roster := by decide +kernel
  have hserver : Service.ServerSettings.ofHost Configuration.twoNodes.service.host
      Configuration.twoNodes.service.port Configuration.twoNodes.service.requestTimeout =
        .ok twoNodes.server := by decide +kernel
  have hfirst : ofConfiguration Configuration.twoNodes = .ok twoNodes := by
    rw [ofConfiguration, hroster]
    simp only [hserver]
    rfl
  have hlife : twoNodes.lifecycle = .unstarted := rfl
  have hfleet : twoNodes.fleet = .fresh [.fresh 2 .standard, .fresh 0 .standard] := rfl
  have hno : twoNodes.actAll [] = some twoNodes := rfl
  obtain ⟨d, hd⟩ : ∃ d, twoNodes.actAll [.start (.error "address in use"), .start (.ok ()),
      .node 0 (.start 0), .pass 1000, .stop] = some d := ⟨_, rfl⟩
  obtain ⟨-, hstarts, -⟩ := starts_whole_and_stops_for_good hlife hfleet hno
  obtain ⟨hstops, -⟩ := starts_whole_and_stops_for_good hlife hfleet hd
  exact ⟨hfirst, (hstarts (by simp)).2, d, hd, hstops (by simp)⟩

end NodeSidecar.Daemon
