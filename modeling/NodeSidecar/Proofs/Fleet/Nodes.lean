import NodeSidecar.Fleet.Basic
import NodeSidecar.Proofs.Execution
/-!
# Fleet — what a move is to one node

The nodes of a fleet share nothing but the clock, and all that the clock does to
a node is to submit probes on it. So the moves of a fleet are, to each node,
moves of its own (`Fleet.course`): what is proved of one node's executions holds
of every node of a fleet.
-/

namespace NodeSidecar.Fleet

variable {f g : Fleet} {index : Nat} {calls : Node.Calls}

@[simp] theorem clock_tick (f : Fleet) (t : Tick) :
    (f.tick t).clock = f.clock.moveTo t.moment := rfl

/-- A move on a node is one of its own, and leaves all else as it is. -/
theorem apply_node_eq_some_iff {move : NodeSidecar.Move Node.Call Node.Answer} :
    f.apply (.node index move) = some g ↔ ∃ before after, f.nodes[index]? = some before ∧
      before.apply Node.system move = some after ∧
      { f with nodes := f.nodes.set index after } = g := by
  rw [apply]
  rcases f.nodes[index]? with - | before
  · simp
  · simp [Option.map_eq_some_iff]

/-! ## Probes -/

/-- **At every tick one probe is submitted on every node.** -/
theorem nodes_foldl_tick (ticks : List Tick) (f : Fleet) :
    (ticks.foldl tick f).nodes =
      f.nodes.map (·.submitAll (List.replicate ticks.length .probe)) := by
  induction ticks generalizing f with
  | nil => exact (List.map_id' f.nodes).symm
  | cons t ticks ih =>
    have hone : (f.tick t).nodes = f.nodes.map (·.submit .probe) := rfl
    rw [List.foldl_cons, ih, hone, List.map_map]
    rfl

/-- While time passes, one probe is submitted on every node for each tick. -/
theorem nodes_pass (f : Fleet) (millis : Nat) : (f.pass millis).nodes =
    f.nodes.map (·.submitAll (List.replicate (f.ticksDuring millis).length .probe)) :=
  nodes_foldl_tick _ f

/-! ## The course of one node -/

/-- What a move is to the node with this index. -/
def movesOn (f : Fleet) (index : Nat) : Move → List (NodeSidecar.Move Node.Call Node.Answer)
  | .node i m => if i = index then [m] else []
  | .check => [.submit .probe]
  | .startTimer _ => []
  | .stopTimer => []
  | .pass millis => (List.replicate (f.ticksDuring millis).length Node.Call.probe).map .submit

/-- What moves are to the node with this index. -/
def course (f : Fleet) (index : Nat) :
    List Move → List (NodeSidecar.Move Node.Call Node.Answer)
  | [] => []
  | m :: moves =>
    f.movesOn index m ++
      match f.apply m with
      | some next => next.course index moves
      | none => []

/-- **A move of a fleet is moves of each node.** -/
theorem apply_on {m : Move} (h : f.apply m = some g) (hc : f.nodes[index]? = some calls) :
    ∃ next, g.nodes[index]? = some next ∧
      calls.applyAll Node.system (f.movesOn index m) = some next := by
  cases m with
  | node i m =>
    obtain ⟨before, after, hbefore, hafter, rfl⟩ := apply_node_eq_some_iff.1 h
    by_cases hi : i = index
    · subst hi
      obtain rfl : before = calls := Option.some.inj (hbefore.symm.trans hc)
      have hlt : i < f.nodes.length := (List.getElem?_eq_some_iff.1 hc).1
      refine ⟨after, by simp [hlt], ?_⟩
      rw [movesOn, if_pos rfl]
      exact foldlM_cons_eq_some_iff.2 ⟨after, hafter, rfl⟩
    · exact ⟨calls, by simpa [hi] using hc, by simp [movesOn, hi, Run.applyAll]⟩
  | check =>
    obtain rfl : f.check = g := Option.some.inj h
    exact ⟨calls.submit .probe, by simp [check, hc], rfl⟩
  | startTimer period =>
    obtain rfl := Option.some.inj h
    exact ⟨calls, hc, rfl⟩
  | stopTimer =>
    obtain rfl := Option.some.inj h
    exact ⟨calls, hc, rfl⟩
  | pass millis =>
    obtain rfl : f.pass millis = g := Option.some.inj h
    refine ⟨_, ?_, Run.applyAll_submit calls _⟩
    rw [nodes_pass, List.getElem?_map, hc, Option.map_some]

/-- **The moves of a fleet are moves of each node.** -/
theorem applyAll_on {moves : List Move} (h : f.applyAll moves = some g)
    (hc : f.nodes[index]? = some calls) :
    ∃ next, g.nodes[index]? = some next ∧
      calls.applyAll Node.system (f.course index moves) = some next := by
  induction moves generalizing f calls with
  | nil =>
    obtain rfl : f = g := Option.some.inj h
    exact ⟨calls, hc, rfl⟩
  | cons m moves ih =>
    obtain ⟨mid, hmid, hrest⟩ := foldlM_cons_eq_some_iff.1 h
    obtain ⟨between, hbetween, hfirst⟩ := apply_on hmid hc
    obtain ⟨next, hnext, hlater⟩ := ih hrest hbetween
    refine ⟨next, hnext, ?_⟩
    simp only [course, hmid]
    exact (foldlM_append_of_eq_some hfirst _).trans hlater

theorem course_append {moves : List Move} (h : f.applyAll moves = some g) (index : Nat)
    (more : List Move) :
    f.course index (moves ++ more) = f.course index moves ++ g.course index more := by
  induction moves generalizing f with
  | nil =>
    obtain rfl : f = g := Option.some.inj h
    rfl
  | cons m moves ih =>
    obtain ⟨mid, hmid, hrest⟩ := foldlM_cons_eq_some_iff.1 h
    simp only [List.cons_append, course, hmid, ih hrest, List.append_assoc]

/-! ## The past of one node -/

/-- What is done on the node with this index in moves of its fleet. -/
def pastOn (f : Fleet) (index : Nat) (moves : List Move) :
    List (Transition Node Node.Call Node.Wait Node.Answer) :=
  match f.nodes[index]? with
  | some calls => calls.transitions Node.system (f.course index moves)
  | none => []

/-- **The past of a node is an execution** of its calls. -/
theorem execution_pastOn {moves : List Move} (h : f.applyAll moves = some g)
    (hc : f.nodes[index]? = some calls) :
    ∃ next, g.nodes[index]? = some next ∧
      Execution Node.system calls (f.pastOn index moves) next := by
  obtain ⟨next, hnext, hmoves⟩ := applyAll_on h hc
  refine ⟨next, hnext, ?_⟩
  simp only [pastOn, hc]
  exact execution_of_applyAll hmoves

theorem pastOn_append {moves : List Move} (h : f.applyAll moves = some g)
    (hc : f.nodes[index]? = some calls) (more : List Move) :
    f.pastOn index (moves ++ more) = f.pastOn index moves ++ g.pastOn index more := by
  obtain ⟨next, hnext, hmoves⟩ := applyAll_on h hc
  simp only [pastOn, hc, hnext]
  rw [course_append h, Run.transitions_append hmoves]

/-! ## A call on one node -/

/-- A call is submitted on the node with this index, and on no other. -/
theorem exists_submitted (hc : f.nodes[index]? = some calls) (c : Node.Call) :
    ∃ next, f.apply (.node index (.submit c)) = some next ∧
      next.nodes[index]? = some (calls.submit c) ∧
      ∀ j, j ≠ index → next.nodes[j]? = f.nodes[j]? := by
  have hlt : index < f.nodes.length := (List.getElem?_eq_some_iff.1 hc).1
  exact ⟨_, apply_node_eq_some_iff.2 ⟨calls, calls.submit c, hc, rfl, rfl⟩, by simp [hlt],
    fun j hj => List.getElem?_set_ne hj.symm⟩

/-- What is done on a node when a call is submitted there, and then. -/
theorem pastOn_submit {c : Node.Call} (hc : f.nodes[index]? = some calls)
    (hg : f.apply (.node index (.submit c)) = some g)
    (hsubmitted : g.nodes[index]? = some (calls.submit c)) (since : List Move) :
    f.pastOn index (.node index (.submit c) :: since) =
      ⟨calls, .submit c, calls.submit c⟩ :: g.pastOn index since := by
  simp only [pastOn, hc, hsubmitted, course, hg, movesOn, if_true]
  rfl

/-- **A call that is submitted on a node** makes no move there, or begins in one
of the moves that follow. -/
theorem begins_after_submit {start : Fleet} {first : Node.Calls} {before since : List Move}
    {last : Fleet} {c : Node.Call} (hf : start.applyAll before = some f)
    (hstart : start.nodes[index]? = some first) (hb : first.Bounded)
    (hc : f.nodes[index]? = some calls)
    (hg : f.apply (.node index (.submit c)) = some g)
    (hlast : g.applyAll since = some last) :
    ∃ run, Execution Node.system first
        (start.pastOn index (before ++ .node index (.submit c) :: since)) run ∧
      ((∀ t ∈ start.pastOn index (before ++ .node index (.submit c) :: since),
          t.caller ≠ some calls.nextId) ∨
        ∃ t ∈ start.pastOn index (before ++ .node index (.submit c) :: since),
          t.caller = some calls.nextId ∧ t.cause = some (.fresh c, none)) := by
  obtain ⟨mid, hmid, hbefore⟩ := execution_pastOn hf hstart
  obtain rfl : mid = calls := Option.some.inj (hmid.symm.trans hc)
  obtain ⟨next, hnext, hsubmitted, -⟩ := exists_submitted hc c
  obtain rfl : next = g := Option.some.inj (hnext.symm.trans hg)
  obtain ⟨run, hrun, hsince⟩ := execution_pastOn hlast hsubmitted
  have hbmid : mid.Bounded := hbefore.bounded hb
  have hsubmit : Execution Node.system mid [⟨mid, .submit c, mid.submit c⟩] (mid.submit c) :=
    Execution.refl.move (m := .submit c) rfl
  rw [pastOn_append hf hstart, pastOn_submit hc hg hsubmitted]
  refine ⟨run, hbefore.trans (hsubmit.trans hsince), ?_⟩
  -- The id of the call is a new one, so no call before had it.
  have hnew : ∀ t ∈ start.pastOn index before, t.caller ≠ some mid.nextId :=
    fun t ht hcaller => Nat.lt_irrefl _ (hbefore.begun hb ht hcaller).1
  have hfresh : (mid.submit c).progress mid.nextId = some (.fresh c) := by
    rw [Run.progress_submit hbmid, if_pos rfl]
  rcases hsince.exists_begin (hbmid.submit c) hfresh with hidle | ⟨t, ht, hcaller, hcause⟩
  · refine .inl fun t ht => ?_
    rcases List.mem_append.1 ht with ht | ht
    · exact hnew t ht
    · rcases List.mem_cons.1 ht with rfl | ht
      · simp [Transition.caller]
      · exact hidle t ht
  · exact .inr ⟨t, by simp [ht], hcaller, hcause⟩

end NodeSidecar.Fleet
