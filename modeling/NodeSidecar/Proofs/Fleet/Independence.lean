import NodeSidecar.Proofs.Fleet.Timers
/-!
# Fleet — nodes that keep apart

What happens on one node of a fleet is no matter to another. Of two runs that
differ in what happens elsewhere, and perhaps in the other nodes themselves,
each is compared with what is left of it when all moves elsewhere are taken out
(`applyAll_without_elsewhere`); that is the same for both. And nobody stands in
another's way: what can be done on each node alone can be done in any order
among the others (`applyAll_ne_none_iff`).
-/

namespace NodeSidecar.Fleet

variable {f f' g g' : Fleet} {index : Nat} {m : Move} {moves moves' since : List Move}
variable {calls : Node.Calls}

/-- The move is one on the node with this index, or on the clock. -/
def Move.concerns (index : Nat) : Move → Bool
  | .node i _ => i = index
  | _ => true

/-- The node with this index and the calls on it, after each move that concerns
it. -/
def seen (f : Fleet) (index : Nat) : List Move → List Node.Calls
  | [] => []
  | m :: moves =>
    match f.apply m with
    | some next =>
      (if m.concerns index then next.nodes[index]?.toList else []) ++ next.seen index moves
    | none => []

/-- The fleets have the same node with this index, and the same clock. -/
structure Alike (index : Nat) (f f' : Fleet) : Prop where
  node : f.nodes[index]? = f'.nodes[index]?
  clock : f.clock = f'.clock

theorem Alike.refl (index : Nat) (f : Fleet) : Alike index f f :=
  ⟨rfl, rfl⟩

/-! ## Moves elsewhere -/

theorem exists_elsewhere (hm : m.concerns index = false) :
    ∃ i move, m = .node i move ∧ i ≠ index := by
  cases m with
  | node i move => exact ⟨i, move, rfl, by simpa [Move.concerns] using hm⟩
  | _ => cases hm

/-- **A move on another node changes nothing.** -/
theorem alike_of_elsewhere (h : f.apply m = some g) (hm : m.concerns index = false) :
    Alike index f g := by
  obtain ⟨i, move, rfl, hi⟩ := exists_elsewhere hm
  refine ⟨?_, (clock_apply h).symm⟩
  obtain ⟨before, after, -, -, rfl⟩ := apply_node_eq_some_iff.1 h
  exact (List.getElem?_set_ne hi).symm

theorem ticksIn_of_elsewhere (f : Fleet) (hm : m.concerns index = false) : f.ticksIn m = [] := by
  obtain ⟨i, move, rfl, -⟩ := exists_elsewhere hm
  rfl

theorem movesOn_of_elsewhere (f : Fleet) (hm : m.concerns index = false) :
    f.movesOn index m = [] := by
  obtain ⟨i, move, rfl, hi⟩ := exists_elsewhere hm
  simp [movesOn, hi]

/-! ## Moves that concern the node -/

namespace Alike

theorem trans {f'' : Fleet} (h : Alike index f f') (h' : Alike index f' f'') :
    Alike index f f'' :=
  ⟨h.node.trans h'.node, h.clock.trans h'.clock⟩

theorem symm (h : Alike index f f') : Alike index f' f :=
  ⟨h.node.symm, h.clock.symm⟩

theorem ticksIn (h : Alike index f f') (m : Move) : f.ticksIn m = f'.ticksIn m := by
  cases m with
  | pass millis => simp only [Fleet.ticksIn, ticksDuring, h.clock]
  | _ => rfl

theorem movesOn (h : Alike index f f') (m : Move) : f.movesOn index m = f'.movesOn index m := by
  cases m with
  | pass millis => simp only [Fleet.movesOn, ticksDuring, h.clock]
  | _ => rfl

/-- **What can be done on the node in one fleet can be done in the other**, and they
are alike then. -/
theorem apply (h : Alike index f f') (hm : m.concerns index = true) (hg : f.apply m = some g) :
    ∃ g', f'.apply m = some g' ∧ Alike index g g' := by
  suffices ∃ g', f'.apply m = some g' ∧ g.nodes[index]? = g'.nodes[index]? by
    obtain ⟨g', hg', hnode⟩ := this
    exact ⟨g', hg', hnode, by rw [clock_apply hg, clock_apply hg', h.clock]⟩
  cases m with
  | node i move =>
    obtain rfl : i = index := by simpa [Move.concerns] using hm
    obtain ⟨before, after, hbefore, hafter, rfl⟩ := apply_node_eq_some_iff.1 hg
    have hbefore' : f'.nodes[i]? = some before := h.node.symm.trans hbefore
    refine ⟨_, apply_node_eq_some_iff.2 ⟨before, after, hbefore', hafter, rfl⟩, ?_⟩
    have hlt := (List.getElem?_eq_some_iff.1 hbefore).1
    have hlt' := (List.getElem?_eq_some_iff.1 hbefore').1
    rw [List.getElem?_set_self hlt, List.getElem?_set_self hlt']
  | check =>
    obtain rfl : f.check = g := Option.some.inj hg
    refine ⟨f'.check, rfl, ?_⟩
    simp only [check, List.getElem?_map, h.node]
  | startTimer period =>
    obtain rfl := Option.some.inj hg
    exact ⟨_, rfl, h.node⟩
  | stopTimer =>
    obtain rfl := Option.some.inj hg
    exact ⟨_, rfl, h.node⟩
  | pass millis =>
    obtain rfl : f.pass millis = g := Option.some.inj hg
    refine ⟨f'.pass millis, rfl, ?_⟩
    simp only [nodes_pass, List.getElem?_map, h.node, ticksDuring, h.clock]

end Alike

/-! ## A run and what is left of it -/

/-- The moves of a run that do not concern a node can be left out: the others can
be made without them, at the same ticks, and the node is seen to do the same. -/
theorem applyAll_without_elsewhere (h : f.applyAll moves = some g) (hf : Alike index f f') :
    ∃ g', f'.applyAll (moves.filter (·.concerns index)) = some g' ∧ Alike index g g' ∧
      f.ticks moves = f'.ticks (moves.filter (·.concerns index)) ∧
      f.seen index moves = f'.seen index (moves.filter (·.concerns index)) ∧
      f.course index moves = f'.course index (moves.filter (·.concerns index)) := by
  induction moves generalizing f f' with
  | nil =>
    obtain rfl : f = g := Option.some.inj h
    exact ⟨f', rfl, hf, rfl, rfl, rfl⟩
  | cons m moves ih =>
    obtain ⟨next, hnext, hrest⟩ := foldlM_cons_eq_some_iff.1 h
    rcases hm : m.concerns index with - | -
    · -- The move is one on another node.
      obtain ⟨g', hg', halike, hticks, hseen, hcourse⟩ :=
        ih hrest ((alike_of_elsewhere hnext hm).symm.trans hf)
      rw [List.filter_cons_of_neg (by simp [hm])]
      refine ⟨g', hg', halike, ?_, ?_, ?_⟩
      · rw [ticks_cons hnext, ticksIn_of_elsewhere f hm, List.nil_append, hticks]
      · simp only [seen, hnext, hm, hseen]
        rfl
      · simp only [course, hnext, movesOn_of_elsewhere f hm, hcourse, List.nil_append]
    · obtain ⟨next', hnext', hmid⟩ := hf.apply hm hnext
      obtain ⟨g', hg', halike, hticks, hseen, hcourse⟩ := ih hrest hmid
      rw [List.filter_cons_of_pos hm]
      refine ⟨g', foldlM_cons_eq_some_iff.2 ⟨next', hnext', hg'⟩, halike, ?_, ?_, ?_⟩
      · rw [ticks_cons hnext, ticks_cons hnext', hf.ticksIn, hticks]
      · simp only [seen, hnext, hnext', hm, hseen, hmid.node]
      · simp only [course, hnext, hnext', hf.movesOn, hcourse]

/-- What can be done on the node and on the clock in one fleet can be done in the
other. -/
theorem Alike.applyAll_ne_none (hf : Alike index f f')
    (h : f.applyAll (moves.filter (·.concerns index)) ≠ none) :
    f'.applyAll (moves.filter (·.concerns index)) ≠ none := by
  obtain ⟨g, hg⟩ := Option.ne_none_iff_exists'.1 h
  obtain ⟨g', hg', -⟩ := applyAll_without_elsewhere hg hf
  rw [List.filter_filter] at hg'
  simp only [Bool.and_self] at hg'
  exact Option.ne_none_iff_exists'.2 ⟨g', hg'⟩

/-- **Moves can be made in a fleet just when on each node its own can be made**, with
the moves on the clock. -/
theorem applyAll_ne_none_iff :
    f.applyAll moves ≠ none ↔ ∀ i, f.applyAll (moves.filter (·.concerns i)) ≠ none := by
  constructor
  · intro h i
    obtain ⟨g, hg⟩ := Option.ne_none_iff_exists'.1 h
    obtain ⟨g', hg', -⟩ := applyAll_without_elsewhere hg (Alike.refl i f)
    exact Option.ne_none_iff_exists'.2 ⟨g', hg'⟩
  · intro h
    induction moves generalizing f with
    | nil => exact h 0
    | cons m moves ih =>
      -- The node that the move is made on, or any if it is made on the clock.
      obtain ⟨i, hi⟩ : ∃ i, m.concerns i = true := by
        cases m with
        | node i move => exact ⟨i, by simp [Move.concerns]⟩
        | _ => exact ⟨0, rfl⟩
      have hown := h i
      rw [List.filter_cons_of_pos hi] at hown
      obtain ⟨g, hg⟩ := Option.ne_none_iff_exists'.1 hown
      obtain ⟨next, hnext, -⟩ := foldlM_cons_eq_some_iff.1 hg
      have hrest : next.applyAll moves ≠ none := by
        refine ih fun j => ?_
        have hj := h j
        rcases hm : m.concerns j with - | -
        · rw [List.filter_cons_of_neg (by simp [hm])] at hj
          exact (alike_of_elsewhere hnext hm).applyAll_ne_none hj
        · rw [List.filter_cons_of_pos hm, applyAll, List.foldlM_cons, hnext] at hj
          exact hj
      rw [applyAll, List.foldlM_cons, hnext]
      exact hrest

/-- **What is done on a node is the same** in two runs that differ elsewhere. -/
theorem Alike.pastOn (h : Alike index f f')
    (hcourse : f.course index moves = f'.course index moves') :
    f.pastOn index moves = f'.pastOn index moves' := by
  simp only [Fleet.pastOn, h.node, hcourse]

/-! ## Probes at every tick -/

/-- Calls of one kind take the ids that follow, and have not begun. -/
theorem progress_submitAll_replicate {c : Node.Call} (hb : calls.Bounded) {n k : Nat}
    (hk : k < n) :
    (calls.submitAll (List.replicate n c)).progress (calls.nextId + k) = some (.fresh c) := by
  induction n generalizing calls k with
  | zero => omega
  | succ n ih =>
    have hfirst : calls.submitAll (List.replicate (n + 1) c) =
        (calls.submit c).submitAll (List.replicate n c) := rfl
    rw [hfirst]
    rcases k with - | k
    · rw [Nat.add_zero, Run.progress_submitAll (hb.submit c) _ (Nat.lt_succ_self _),
        Run.progress_submit hb, if_pos rfl]
    · have hnext : calls.nextId + (k + 1) = (calls.submit c).nextId + k := by
        simp only [Run.submit]
        omega
      rw [hnext, ih (hb.submit c) (Nat.lt_of_succ_lt_succ hk)]

/-- **A call that has not begun can begin**, unless it has begun in the moves
that follow. -/
theorem begins_or_can_begin {id : Nat} {c : Node.Call} (h : f.applyAll since = some g)
    (hc : f.nodes[index]? = some calls) (hb : calls.Bounded)
    (hfresh : calls.progress id = some (.fresh c)) :
    (∃ t ∈ f.pastOn index since, t.caller = some id ∧ t.cause = some (.fresh c, none)) ∨
      g.apply (.node index (.start id)) ≠ none := by
  obtain ⟨last, hlast, hpast⟩ := execution_pastOn h hc
  rcases hpast.exists_begin hb hfresh with hidle | hbegun
  · have hstill : last.progress id = some (.fresh c) :=
      (hpast.progress_of_caller_ne hb (hb.lt_of_progress hfresh) hidle).trans hfresh
    obtain ⟨next, hnext⟩ : ∃ next, last.apply Node.system (.start id) = some next :=
      (Run.exists_start (hpast.bounded hb) hstill).imp fun _ h => h.1
    have happly := apply_node_eq_some_iff.2 ⟨last, next, hlast, hnext, rfl⟩
    exact .inr (Option.ne_none_iff_exists'.2 ⟨_, happly⟩)
  · exact .inl hbegun

/-! ## All together -/

variable {nodes nodes' : List Node} {node : Node}

theorem fresh_getElem? (h : nodes[index]? = some node) :
    (fresh nodes).nodes[index]? = some (.idle node) := by
  rw [fresh, List.getElem?_map, h, Option.map_some]

theorem bounded_of_applyAll (h : (fresh nodes).applyAll moves = some f)
    (hnode : nodes[index]? = some node) (hc : f.nodes[index]? = some calls) : calls.Bounded := by
  obtain ⟨next, hnext, hpast⟩ := execution_pastOn h (fresh_getElem? hnode)
  obtain rfl : next = calls := Option.some.inj (hnext.symm.trans hc)
  exact hpast.bounded (Run.bounded_idle node)

/-- **Nodes do not influence each other.** Take two runs, perhaps of fleets that
have nothing in common but the node with some index, in which the same moves
are made on that node and on the clock, whatever is done on the other nodes in
between. Then the timers tick at the same moments, the node is seen in the same
states with the same calls in progress, and what is done on it is the same. The
node and the clock can make their moves among any moves of the other nodes that
these can make themselves. At every tick a probe is submitted on the node, and
that probe begins or can begin. -/
theorem nodes_keep_apart (hnode : nodes[index]? = some node) (hnode' : nodes'[index]? = some node)
    (h : (fresh nodes).applyAll moves = some f) (h' : (fresh nodes').applyAll moves' = some f')
    (hsame : moves.filter (·.concerns index) = moves'.filter (·.concerns index)) :
    (fresh nodes).ticks moves = (fresh nodes').ticks moves' ∧
    (fresh nodes).seen index moves = (fresh nodes').seen index moves' ∧
    (fresh nodes).pastOn index moves = (fresh nodes').pastOn index moves' ∧
    f.nodes[index]? = f'.nodes[index]? ∧
    (∀ among, among.filter (·.concerns index) = moves.filter (·.concerns index) →
      (∀ i, i ≠ index → (fresh nodes').applyAll (among.filter (·.concerns i)) ≠ none) →
        (fresh nodes').applyAll among ≠ none) ∧
    ∀ before millis since g calls, moves = before ++ .pass millis :: since →
      (fresh nodes).applyAll before = some g → g.nodes[index]? = some calls →
      (g.pass millis).nodes[index]? =
          some (calls.submitAll (List.replicate (g.ticksDuring millis).length .probe)) ∧
        ∀ k < (g.ticksDuring millis).length,
          (∃ t ∈ (g.pass millis).pastOn index since,
            t.caller = some (calls.nextId + k) ∧ t.cause = some (.fresh .probe, none)) ∨
          f.apply (.node index (.start (calls.nextId + k))) ≠ none := by
  have hstart : Alike index (fresh nodes) (fresh nodes') :=
    ⟨(fresh_getElem? hnode).trans (fresh_getElem? hnode').symm, rfl⟩
  -- Without the moves elsewhere, both runs are one.
  obtain ⟨alone, halone, hf, hticks, hseen, hcourse⟩ := applyAll_without_elsewhere h hstart
  obtain ⟨alone', halone', hf', hticks', hseen', hcourse'⟩ :=
    applyAll_without_elsewhere h' (Alike.refl index (fresh nodes'))
  obtain rfl : alone = alone' := by
    rw [hsame] at halone
    exact Option.some.inj (halone.symm.trans halone')
  refine ⟨?_, ?_, hstart.pastOn ?_, (hf.trans hf'.symm).node, fun among hamong hothers => ?_,
    fun before millis since g calls hmoves hg hc => ?_⟩
  · rw [hticks, hticks', hsame]
  · rw [hseen, hseen', hsame]
  · rw [hcourse, hcourse', hsame]
  · refine applyAll_ne_none_iff.2 fun i => ?_
    by_cases hi : i = index
    · rw [hi, hamong]
      exact Option.ne_none_iff_exists'.2 ⟨alone, halone⟩
    · exact hothers i hi
  · have hprobed : (g.pass millis).nodes[index]? =
        some (calls.submitAll (List.replicate (g.ticksDuring millis).length .probe)) := by
      rw [nodes_pass, List.getElem?_map, hc, Option.map_some]
    subst hmoves
    obtain ⟨next, hnext, hsince⟩ :=
      foldlM_cons_eq_some_iff.1 ((foldlM_append_of_eq_some hg _).symm.trans h)
    obtain rfl : g.pass millis = next := Option.some.inj hnext
    have hb := bounded_of_applyAll hg hnode hc
    refine ⟨hprobed, fun k hk => ?_⟩
    exact begins_or_can_begin hsince hprobed (hb.submitAll _) (progress_submitAll_replicate hb hk)

/-- Two nodes. -/
def pair : List Node :=
  [.fresh 1 .standard, .fresh 2 .standard]

/-- Three nodes, of which the first is the same. -/
def trio : List Node :=
  [.fresh 1 .standard, .fresh 3 .standard, .fresh 4 .standard]

/-- After the first tick, a node is probed beside one whose probe is never
answered. -/
def besideSilence : List Move :=
  [.startTimer 1000, .pass 1000, .node 1 (.start 0), .node 0 (.start 0),
    .node 0 (.resume 0 .granted)]

/-- The same on that node, beside one that is out of reach and reported down. -/
def besideChatter : List Move :=
  [.startTimer 1000, .pass 1000, .node 0 (.start 0), .node 1 (.start 0),
    .node 1 (.resume 0 .granted), .node 1 (.resume 0 (.session none)),
    .node 0 (.resume 0 .granted), .node 1 (.submit .reportDown), .node 1 (.start 1)]

/-- What is done on the node once the second tick has come. -/
def afterTick : List Move :=
  [.node 0 (.start 1), .node 0 (.resume 0 (.session none))]

/-- A node beside one whose probe is never answered is as it is beside one that
answers, and is probed at the second tick. -/
theorem silent_node_stops_no_probe : ∃ f f' g,
    (fresh pair).applyAll (besideSilence ++ .pass 1000 :: afterTick) = some f ∧
    (fresh trio).applyAll (besideChatter ++ .pass 1000 :: afterTick) = some f' ∧
    (f.nodes[1]?.bind (·.waiting 0)).isSome = true ∧ f.nodes[0]? = f'.nodes[0]? ∧
    (fresh pair).applyAll besideSilence = some g ∧
    ∃ t ∈ (g.pass 1000).pastOn 0 afterTick,
      t.caller = some 1 ∧ t.cause = some (.fresh .probe, none) := by
  obtain ⟨f, hf⟩ : ∃ f, (fresh pair).applyAll (besideSilence ++ .pass 1000 :: afterTick) =
      some f := Option.isSome_iff_exists.1 (by decide +kernel)
  obtain ⟨f', hf'⟩ : ∃ f', (fresh trio).applyAll (besideChatter ++ .pass 1000 :: afterTick) =
      some f' := Option.isSome_iff_exists.1 (by decide +kernel)
  obtain ⟨g, hg⟩ : ∃ g, (fresh pair).applyAll besideSilence = some g :=
    (foldlM_append_eq_some_iff.1 hf).imp fun _ h => h.1
  have hwaits : (((fresh pair).applyAll (besideSilence ++ .pass 1000 :: afterTick)).bind
      fun f => f.nodes[1]?.bind (·.waiting 0)).isSome = true := by decide +kernel
  have hbegun : (((fresh pair).applyAll (besideSilence ++ .pass 1000 :: afterTick)).bind
      fun f => f.apply (.node 0 (.start 1))).isNone = true := by decide +kernel
  have hnextId : (((fresh pair).applyAll besideSilence).bind
      fun g => g.nodes[0]?.map (·.nextId)) = some 1 := by decide +kernel
  have hticks : (((fresh pair).applyAll besideSilence).map
      fun g => (g.ticksDuring 1000).length) = some 1 := by decide +kernel
  rw [hf, Option.bind_some] at hwaits hbegun
  rw [hg, Option.bind_some] at hnextId
  rw [hg, Option.map_some] at hticks
  obtain ⟨calls, hcalls, hid⟩ := Option.map_eq_some_iff.1 hnextId
  have hpair : pair[0]? = some (.fresh 1 .standard) := rfl
  have htrio : trio[0]? = some (.fresh 1 .standard) := rfl
  have hsame : (besideSilence ++ .pass 1000 :: afterTick).filter (·.concerns 0) =
      (besideChatter ++ .pass 1000 :: afterTick).filter (·.concerns 0) := rfl
  obtain ⟨-, -, -, hnode, -, hprobes⟩ := nodes_keep_apart hpair htrio hf hf' hsame
  refine ⟨f, f', g, hf, hf', hwaits, hnode, hg, ?_⟩
  have hprobe := (hprobes _ _ _ _ _ rfl hg hcalls).2 0 (by rw [Option.some.inj hticks]; decide)
  rw [hid] at hprobe
  exact hprobe.resolve_right fun hcan => hcan (Option.isNone_iff_eq_none.1 hbegun)

end NodeSidecar.Fleet
