import NodeSidecar.Proofs.Fleet.Nodes
/-!
# Fleet — one timer at a time

A timer is a task that ticks until it is cancelled, so nothing but the clock's
care keeps old timers from ticking on. `Clock.Sole` says that the timers which
run are the one that is held; every move keeps it. Between two calls on the
timer the ticks are those of the timer that was started last, and it ticks at
the multiples of its period after it was started.
-/

namespace NodeSidecar

/-! ## Timers -/

namespace Timer

variable (t : Timer) {l l' : Nat}

theorem tickCount_mono (h : l ≤ l') : t.tickCount l ≤ t.tickCount l' :=
  Nat.div_le_div_right (by omega)

/-- What has ticked up to a moment ticks the other times after it. -/
theorem tickCount_upTo (l l' : Nat) : (t.upTo l).tickCount l' = t.tickCount l' - t.tickCount l := by
  simp only [tickCount, upTo]
  rw [← Nat.sub_mul_div, Nat.sub_sub, Nat.mul_comm t.period]

theorem upTo_upTo (h : l ≤ l') : (t.upTo l).upTo l' = t.upTo l' := by
  have hcount : t.tickCount l + (t.tickCount l' - t.tickCount l) = t.tickCount l' := by
    have := t.tickCount_mono h
    omega
  have hdue : t.due + t.tickCount l * t.period + (t.upTo l).tickCount l' * t.period =
      t.due + t.tickCount l' * t.period := by
    rw [tickCount_upTo, Nat.add_assoc, ← Nat.add_mul, hcount]
  simp only [upTo, mk.injEq, true_and]
  exact hdue

/-- **The ticks up to a moment** are those up to an earlier one, and those
after it. -/
theorem ticks_upTo (h : l ≤ l') : t.ticks l' = t.ticks l ++ (t.upTo l).ticks l' := by
  have hcount : t.tickCount l + (t.tickCount l' - t.tickCount l) = t.tickCount l' := by
    have := t.tickCount_mono h
    omega
  have hrange : List.range (t.tickCount l') = List.range (t.tickCount l) ++
      (List.range (t.tickCount l' - t.tickCount l)).map (t.tickCount l + ·) := by
    rw [← List.range_add, hcount]
  have hmoment (k : Nat) : t.due + t.tickCount l * t.period + k * t.period =
      t.due + (t.tickCount l + k) * t.period := by
    rw [Nat.add_mul, Nat.add_assoc]
  rw [ticks, ticks, ticks, tickCount_upTo, hrange, List.map_append, List.map_map]
  congr 1
  refine List.map_congr_left fun k _ => ?_
  simp only [Function.comp_apply, upTo, hmoment]

theorem moment_le_of_mem_ticks {tick : Tick} (h : tick ∈ t.ticks l) : tick.moment ≤ l := by
  obtain ⟨k, hk, rfl⟩ := List.mem_map.1 h
  have hlt : (k + 1) * t.period ≤ l + t.period - t.due :=
    (Nat.le_div_iff_mul_le t.period_pos).1 (List.mem_range.1 hk)
  have hpos := t.period_pos
  rw [Nat.add_mul, Nat.one_mul] at hlt
  show t.due + k * t.period ≤ l
  omega

/-- **A timer ticks at the multiples of its period** after it was started. -/
theorem ticks_startedAt (id start period limit : Nat) :
    (startedAt id start period).ticks limit =
      (List.range ((limit - start) / max period 1)).map fun k =>
        ⟨start + (k + 1) * max period 1, id⟩ := by
  have hcount : (startedAt id start period).tickCount limit = (limit - start) / max period 1 := by
    simp only [tickCount, startedAt]
    congr 1
    omega
  rw [ticks, hcount]
  refine List.map_congr_left fun k _ => ?_
  simp only [startedAt, Tick.mk.injEq, and_true]
  rw [Nat.add_mul, Nat.one_mul]
  omega

/-- A timer that was just started has not ticked. -/
theorem upTo_startedAt (id start period : Nat) :
    (startedAt id start period).upTo start = startedAt id start period := by
  have hcount : (startedAt id start period).tickCount start = 0 := by
    simp only [tickCount, startedAt]
    rw [Nat.sub_self, Nat.zero_div]
  simp [upTo, hcount]

end Timer

/-! ## The clock -/

namespace Clock

variable {c : Clock} {t : Timer} {l l' : Nat}

@[simp] theorem now_letGo (c : Clock) : c.letGo.now = c.now := by
  unfold letGo
  split <;> rfl

@[simp] theorem nextId_letGo (c : Clock) : c.letGo.nextId = c.nextId := by
  unfold letGo
  split <;> rfl

@[simp] theorem held_letGo (c : Clock) : c.letGo.held = none := by
  unfold letGo
  split
  · rfl
  · assumption

@[simp] theorem nextId_start (c : Clock) (period : Nat) :
    (c.start period).nextId = c.nextId + 1 := by
  rw [start, launch, nextId_letGo]

/-- What is let go is cancelled. -/
theorem mem_timers_of_letGo (h : t ∈ c.letGo.timers) : t ∈ c.timers := by
  unfold letGo at h
  split at h
  · exact (List.mem_filter.1 h).1
  · exact h

@[simp] theorem period_letGo (c : Clock) : c.letGo.period = none := by
  rw [period, held_letGo, Option.map_none]

@[simp] theorem period_start (c : Clock) (period : Nat) :
    (c.start period).period = some (max period 1) := rfl

theorem moveTo_moveTo (c : Clock) (h : l ≤ l') : (c.moveTo l).moveTo l' = c.moveTo l' := by
  have htimers : (c.timers.map (·.upTo l)).map (·.upTo l') = c.timers.map (·.upTo l') := by
    rw [List.map_map]
    exact List.map_congr_left fun t _ => t.upTo_upTo h
  simp only [moveTo, htimers]

theorem moment_le_of_mem_ticks {tick : Tick} (h : tick ∈ c.ticks l) : tick.moment ≤ l := by
  obtain ⟨t, -, ht⟩ := List.mem_flatMap.1 (List.mem_mergeSort.1 h)
  exact t.moment_le_of_mem_ticks ht

theorem timer_of_mem_ticks {tick : Tick} (h : tick ∈ c.ticks l) :
    ∃ t ∈ c.timers, t.id = tick.timer := by
  obtain ⟨t, ht, hmem⟩ := List.mem_flatMap.1 (List.mem_mergeSort.1 h)
  obtain ⟨k, -, rfl⟩ := List.mem_map.1 hmem
  exact ⟨t, ht, rfl⟩

theorem ticks_of_nil (h : c.timers = []) (l : Nat) : c.ticks l = [] := by
  rw [ticks, h, List.flatMap_nil, List.mergeSort_nil]

/-- The ticks of one timer come in the order of time. -/
theorem ticks_of_singleton (h : c.timers = [t]) (l : Nat) : c.ticks l = t.ticks l := by
  have hsorted : (t.ticks l).Pairwise fun a b => (a.moment ≤ b.moment : Bool) = true := by
    refine List.pairwise_map.2 (List.pairwise_le_range.imp fun {i j} hij => ?_)
    exact decide_eq_true (Nat.add_le_add_left (Nat.mul_le_mul_right _ hij) _)
  rw [ticks, h, List.flatMap_singleton, List.mergeSort_of_pairwise hsorted]

/-- **The timers that run are the one that is held**, and it was numbered
before. -/
structure Sole (c : Clock) : Prop where
  held : c.timers.map (fun t => ⟨t.id, t.period⟩) = c.held.toList
  given : ∀ t ∈ c.timers, t.id < c.nextId

theorem sole_zero : Sole zero :=
  ⟨rfl, nofun⟩

namespace Sole

theorem length_le_one (h : Sole c) : c.timers.length ≤ 1 := by
  have hlength := congrArg List.length h.held
  rw [List.length_map] at hlength
  rw [hlength]
  cases c.held <;> simp

theorem timers_eq_nil_iff (h : Sole c) : c.timers = [] ↔ c.held = none := by
  have hheld := h.held
  constructor
  · intro hnil
    rw [hnil] at hheld
    exact Option.toList_eq_nil_iff.1 hheld.symm
  · intro hnone
    rw [hnone] at hheld
    exact List.map_eq_nil_iff.1 hheld

/-- No timer runs, or one does. -/
theorem nil_or_singleton (h : Sole c) : c.timers = [] ∨ ∃ t, c.timers = [t] := by
  rcases hc : c.timers with - | ⟨t, - | ⟨u, ts⟩⟩
  · exact .inl rfl
  · exact .inr ⟨t, rfl⟩
  · have hlength := h.length_le_one
    simp [hc] at hlength

/-- **When the timer is let go, none runs.** -/
theorem timers_letGo (h : Sole c) : c.letGo.timers = [] := by
  have hheld := h.held
  unfold letGo
  split
  · rename_i handle hc
    rw [hc] at hheld
    obtain ⟨t, ht, hid⟩ := List.map_eq_singleton_iff.1 hheld
    obtain rfl := hid
    simp [cancel, ht]
  · rename_i hc
    exact h.timers_eq_nil_iff.2 hc

theorem letGo (h : Sole c) : Sole c.letGo := by
  refine ⟨?_, ?_⟩
  · rw [h.timers_letGo, held_letGo]
    rfl
  · rw [h.timers_letGo]
    nofun

theorem timers_start (h : Sole c) (period : Nat) :
    (c.start period).timers = [.startedAt c.nextId c.now period] := by
  simp only [start, launch, h.timers_letGo, now_letGo, nextId_letGo]
  rfl

theorem start (h : Sole c) (period : Nat) : Sole (c.start period) := by
  have hheld : (c.start period).held = some ⟨c.nextId, max period 1⟩ := by
    simp [Clock.start, launch]
  refine ⟨?_, ?_⟩
  · rw [h.timers_start, hheld]
    rfl
  · rw [h.timers_start, nextId_start]
    intro t ht
    obtain rfl := List.mem_singleton.1 ht
    exact Nat.lt_succ_self _

theorem moveTo (h : Sole c) (l : Nat) : Sole (c.moveTo l) := by
  refine ⟨?_, ?_⟩
  · simp only [Clock.moveTo, List.map_map]
    exact h.held
  · intro t ht
    obtain ⟨u, hu, rfl⟩ := List.mem_map.1 ht
    exact h.given u hu

/-- The ticks up to a moment are those up to an earlier one, and those after
it. -/
theorem ticks_moveTo (h : Sole c) (hl : l ≤ l') :
    c.ticks l' = c.ticks l ++ (c.moveTo l).ticks l' := by
  rcases h.nil_or_singleton with hnil | ⟨t, ht⟩
  · have hnil' : (c.moveTo l).timers = [] := by rw [Clock.moveTo, hnil, List.map_nil]
    rw [ticks_of_nil hnil, ticks_of_nil hnil, ticks_of_nil hnil', List.append_nil]
  · have ht' : (c.moveTo l).timers = [t.upTo l] := by rw [Clock.moveTo, ht, List.map_singleton]
    rw [ticks_of_singleton ht, ticks_of_singleton ht, ticks_of_singleton ht', t.ticks_upTo hl]

end Sole

end Clock

/-! ## The fleet -/

namespace Fleet

variable {f g : Fleet} {nodes : List Node} {m : Move} {moves : List Move}

/-- A move that starts or stops the timer. -/
def Move.callsTimer : Move → Bool
  | .startTimer _ | .stopTimer => true
  | _ => false

/-- What a move does to the clock. -/
def Move.onClock : Move → Clock → Clock
  | .startTimer period, c => c.start period
  | .stopTimer, c => c.stop.1
  | .pass millis, c => c.moveTo (c.now + millis)
  | .node _ _, c | .check, c => c

/-- The ticks that come in a move. -/
def ticksIn (f : Fleet) : Move → List Tick
  | .pass millis => f.ticksDuring millis
  | _ => []

/-- The ticks that come while moves are made. -/
def ticks (f : Fleet) : List Move → List Tick
  | [] => []
  | m :: moves =>
    f.ticksIn m ++
      match f.apply m with
      | some next => next.ticks moves
      | none => []

/-- The period that is asked for after a move, when this one was before. -/
def Move.asks : Move → Option Nat → Option Nat
  | .startTimer period, _ => some period
  | .stopTimer, _ => none
  | _, asked => asked

/-- The period that the last call on the timer asked for; none if it stopped the
timer, or nobody has called. -/
def asked (moves : List Move) : Option Nat :=
  moves.foldl (fun asked m => m.asks asked) none

/-! ### What a move does to the clock -/

theorem clock_foldl_tick (ticks : List Tick) (f : Fleet) {limit : Nat}
    (h : ∀ t ∈ ticks, t.moment ≤ limit) :
    (ticks.foldl tick f).clock.moveTo limit = f.clock.moveTo limit := by
  induction ticks generalizing f with
  | nil => rfl
  | cons t ticks ih =>
    obtain ⟨ht, hticks⟩ := List.forall_mem_cons.1 h
    rw [List.foldl_cons, ih _ hticks, clock_tick, Clock.moveTo_moveTo _ ht]

/-- Time passes for the clock as it does without the nodes. -/
theorem clock_pass (f : Fleet) (millis : Nat) :
    (f.pass millis).clock = f.clock.moveTo (f.clock.now + millis) :=
  clock_foldl_tick _ f fun _ ht => Clock.moment_le_of_mem_ticks ht

theorem clock_apply (h : f.apply m = some g) : g.clock = m.onClock f.clock := by
  cases m with
  | node i m =>
    obtain ⟨before, after, -, -, rfl⟩ := apply_node_eq_some_iff.1 h
    rfl
  | check =>
    obtain rfl : f.check = g := Option.some.inj h
    rfl
  | startTimer period =>
    obtain rfl := Option.some.inj h
    rfl
  | stopTimer =>
    obtain rfl := Option.some.inj h
    rfl
  | pass millis =>
    obtain rfl : f.pass millis = g := Option.some.inj h
    exact f.clock_pass millis

/-- **Every move keeps the timer alone.** -/
theorem Move.sole {c : Clock} (m : Move) (h : c.Sole) : (m.onClock c).Sole := by
  cases m with
  | node => exact h
  | check => exact h
  | startTimer period => exact h.start period
  | stopTimer => exact h.letGo
  | pass millis => exact h.moveTo _

theorem sole_applyAll (h : f.applyAll moves = some g) (hf : f.clock.Sole) : g.clock.Sole :=
  foldlM_induction h hf fun _ _ m _ hsole hm => clock_apply hm ▸ m.sole hsole

/-- What a move does to the period is what it asks for. -/
theorem Move.period {c : Clock} {asked : Option Nat} (m : Move)
    (h : c.period = asked.map (max · 1)) :
    (m.onClock c).period = (m.asks asked).map (max · 1) := by
  cases m with
  | node => exact h
  | check => exact h
  | startTimer period => exact c.period_start period
  | stopTimer => exact c.period_letGo
  | pass millis => exact h

theorem period_applyAll {asked : Option Nat} (h : f.applyAll moves = some g)
    (hf : f.clock.period = asked.map (max · 1)) :
    g.clock.period = (moves.foldl (fun asked m => m.asks asked) asked).map (max · 1) := by
  refine foldlM_induction (P := fun made g => g.clock.period =
    (made.foldl (fun asked m => m.asks asked) asked).map (max · 1)) h hf
    fun made mid m next hmid hm => ?_
  rw [List.foldl_append, clock_apply hm]
  exact m.period hmid

/-! ### The ticks of a run -/

theorem ticks_cons {next : Fleet} (h : f.apply m = some next) (moves : List Move) :
    f.ticks (m :: moves) = f.ticksIn m ++ next.ticks moves := by
  rw [ticks, h]

theorem ticksIn_of_callsTimer (h : m.callsTimer = true) : f.ticksIn m = [] := by
  cases m with
  | startTimer => rfl
  | stopTimer => rfl
  | _ => cases h

/-- **As long as no timer is started, none ticks** when none was running. -/
theorem ticks_eq_nil (h : f.applyAll moves = some g) (hf : f.clock.timers = [])
    (hno : ∀ m ∈ moves, m.callsTimer = false) : f.ticks moves = [] := by
  induction moves generalizing f with
  | nil => rfl
  | cons m moves ih =>
    obtain ⟨next, hnext, hrest⟩ := foldlM_cons_eq_some_iff.1 h
    obtain ⟨hm, hmoves⟩ := List.forall_mem_cons.1 hno
    have hclock := clock_apply hnext
    rw [ticks_cons hnext]
    cases m with
    | node => exact ih hrest (hclock ▸ hf) hmoves
    | check => exact ih hrest (hclock ▸ hf) hmoves
    | startTimer => cases hm
    | stopTimer => cases hm
    | pass millis =>
      have hnil : next.clock.timers = [] := by
        rw [hclock, Move.onClock, Clock.moveTo, hf, List.map_nil]
      rw [ih hrest hnil hmoves, ticksIn, ticksDuring, Clock.ticks_of_nil hf, List.append_nil]

/-- **As long as nobody calls the timer, the one that was started ticks**, and
no other. -/
theorem ticks_of_started {t : Timer} (h : f.applyAll moves = some g)
    (hf : f.clock.timers = [t.upTo f.clock.now]) (hno : ∀ m ∈ moves, m.callsTimer = false) :
    t.ticks g.clock.now = t.ticks f.clock.now ++ f.ticks moves := by
  induction moves generalizing f with
  | nil =>
    obtain rfl : f = g := Option.some.inj h
    exact (List.append_nil _).symm
  | cons m moves ih =>
    obtain ⟨next, hnext, hrest⟩ := foldlM_cons_eq_some_iff.1 h
    obtain ⟨hm, hmoves⟩ := List.forall_mem_cons.1 hno
    have hclock := clock_apply hnext
    rw [ticks_cons hnext]
    cases m with
    | node =>
      have hsame : next.clock = f.clock := hclock
      exact hsame ▸ ih hrest (hsame.symm ▸ hf) hmoves
    | check =>
      have hsame : next.clock = f.clock := hclock
      exact hsame ▸ ih hrest (hsame.symm ▸ hf) hmoves
    | startTimer => cases hm
    | stopTimer => cases hm
    | pass millis =>
      have hlater : f.clock.now ≤ f.clock.now + millis := Nat.le_add_right _ _
      have hnow : next.clock.now = f.clock.now + millis := by rw [hclock]; rfl
      have htimers : next.clock.timers = [t.upTo next.clock.now] := by
        rw [hnow, hclock, Move.onClock, Clock.moveTo, hf, List.map_singleton, t.upTo_upTo hlater]
      have hticks : f.ticksIn (.pass millis) =
          (t.upTo f.clock.now).ticks (f.clock.now + millis) := Clock.ticks_of_singleton hf _
      rw [ih hrest htimers hmoves, hnow, t.ticks_upTo hlater, hticks, List.append_assoc]

/-- A timer that is not among those that run, and whose number was given out,
is never heard of again. -/
theorem le_timer_of_mem_ticks {n : Nat} (h : f.applyAll moves = some g)
    (hf : ∀ t ∈ f.clock.timers, n ≤ t.id) (hn : n ≤ f.clock.nextId) :
    ∀ tick ∈ f.ticks moves, n ≤ tick.timer := by
  induction moves generalizing f with
  | nil => nofun
  | cons m moves ih =>
    obtain ⟨next, hnext, hrest⟩ := foldlM_cons_eq_some_iff.1 h
    have hclock := clock_apply hnext
    have hkeeps : (∀ t ∈ next.clock.timers, n ≤ t.id) ∧ n ≤ next.clock.nextId := by
      rw [hclock]
      cases m with
      | node => exact ⟨hf, hn⟩
      | check => exact ⟨hf, hn⟩
      | startTimer period =>
        refine ⟨fun t ht => ?_, ?_⟩
        · rcases List.mem_append.1 ht with ht | ht
          · exact hf t (Clock.mem_timers_of_letGo ht)
          · obtain rfl := List.mem_singleton.1 ht
            simpa [Timer.startedAt] using hn
        · rw [Move.onClock, Clock.nextId_start]
          omega
      | stopTimer =>
        refine ⟨fun t ht => hf t (Clock.mem_timers_of_letGo ht), ?_⟩
        simpa [Move.onClock, Clock.stop] using hn
      | pass millis =>
        refine ⟨fun t ht => ?_, hn⟩
        obtain ⟨u, hu, rfl⟩ := List.mem_map.1 ht
        exact hf u hu
    rw [ticks_cons hnext]
    intro tick htick
    rcases List.mem_append.1 htick with htick | htick
    · cases m with
      | pass millis =>
        obtain ⟨t, ht, hid⟩ := Clock.timer_of_mem_ticks htick
        exact hid ▸ hf t ht
      | _ => cases htick
    · exact ih hrest hkeeps.1 hkeeps.2 tick htick

/-- **Time that passes can be cut at any moment**: what a node is to do at a
tick it is to do before what comes later. -/
theorem pass_add (hf : f.clock.Sole) (a b : Nat) : f.pass (a + b) = (f.pass a).pass b := by
  have hnow : (f.pass a).clock.now = f.clock.now + a := by
    rw [clock_pass]
    rfl
  have hlater : f.clock.now + a ≤ f.clock.now + a + b := Nat.le_add_right _ _
  have hticks : f.ticksDuring (a + b) = f.ticksDuring a ++ (f.pass a).ticksDuring b := by
    simp only [ticksDuring, clock_pass, ← Nat.add_assoc]
    exact hf.ticks_moveTo hlater
  ext1
  · rw [nodes_pass, nodes_pass, nodes_pass, List.map_map, hticks, List.length_append]
    refine List.map_congr_left fun calls _ => ?_
    rw [Function.comp_apply, ← List.replicate_append_replicate, Run.submitAll, Run.submitAll,
      Run.submitAll, List.foldl_append]
  · rw [clock_pass, clock_pass (f.pass a), hnow, clock_pass, Clock.moveTo_moveTo _ hlater,
      Nat.add_assoc]

/-! ### From call to call -/

/-- **A timer that was replaced or stopped never ticks again.** -/
theorem ne_timer_of_mem_ticks {t : Timer} {tick : Tick} (h : f.applyAll (m :: moves) = some g)
    (hf : f.clock.Sole) (hm : m.callsTimer = true) (ht : t ∈ f.clock.timers)
    (htick : tick ∈ f.ticks (m :: moves)) : tick.timer ≠ t.id := by
  obtain ⟨next, hnext, hrest⟩ := foldlM_cons_eq_some_iff.1 h
  have hclock := clock_apply hnext
  have hlater : (∀ u ∈ next.clock.timers, f.clock.nextId ≤ u.id) ∧
      f.clock.nextId ≤ next.clock.nextId := by
    rw [hclock]
    cases m with
    | startTimer period =>
      refine ⟨fun u hu => ?_, ?_⟩
      · rw [Move.onClock, hf.timers_start] at hu
        obtain rfl := List.mem_singleton.1 hu
        exact Nat.le_refl _
      · rw [Move.onClock, Clock.nextId_start]
        omega
    | stopTimer =>
      refine ⟨fun u hu => ?_, ?_⟩
      · rw [Move.onClock, Clock.stop, hf.timers_letGo] at hu
        cases hu
      · simp [Move.onClock, Clock.stop]
    | _ => cases hm
  rw [ticks_cons hnext, ticksIn_of_callsTimer hm, List.nil_append] at htick
  have hle := le_timer_of_mem_ticks hrest hlater.1 hlater.2 tick htick
  have hlt := hf.given t ht
  omega

/-- The ticks from one call on the timer to the next are at the multiples of the
period that was asked for. -/
theorem moments_of_started {period : Nat} (h : f.applyAll (.startTimer period :: moves) = some g)
    (hf : f.clock.Sole) (hno : ∀ m ∈ moves, m.callsTimer = false) :
    (f.ticks (.startTimer period :: moves)).map (·.moment) =
      (List.range ((g.clock.now - f.clock.now) / max period 1)).map fun k =>
        f.clock.now + (k + 1) * max period 1 := by
  obtain ⟨next, hnext, hrest⟩ := foldlM_cons_eq_some_iff.1 h
  have hclock : next.clock = f.clock.start period := clock_apply hnext
  have hnow : next.clock.now = f.clock.now := by
    rw [hclock]
    exact f.clock.now_letGo
  have htimers : next.clock.timers =
      [(Timer.startedAt f.clock.nextId f.clock.now period).upTo next.clock.now] := by
    rw [hnow, Timer.upTo_startedAt, hclock, hf.timers_start]
  have hticks := ticks_of_started hrest htimers hno
  -- Nothing has ticked at the moment of the start.
  rw [hnow, Timer.ticks_startedAt _ f.clock.now period f.clock.now, Nat.sub_self, Nat.zero_div,
    List.range_zero, List.map_nil, List.nil_append, Timer.ticks_startedAt] at hticks
  rw [ticks_cons hnext, ticksIn_of_callsTimer rfl, List.nil_append, ← hticks, List.map_map]
  rfl

/-- **At most one timer runs**, whatever calls were made on it. It runs just when
the last of them started one, with the period that this call asked for, raised
to a millisecond, and stopping answers whether it ran. A timer that was replaced
or stopped never ticks again. As long as nobody calls, the timer that was
started ticks at the multiples of its period after the start and at no other
moment, whatever timers there were before; without one nothing ticks. At every
tick one probe is submitted on each node, and time that passes can be cut at any
moment, so the probes are there at that tick. -/
theorem at_most_one_timer (h : (fresh nodes).applyAll moves = some f) :
    f.clock.timers.length ≤ 1 ∧
    f.clock.isRunning = (asked moves).isSome ∧
    f.clock.period = (asked moves).map (max · 1) ∧
    (f.clock.stop.2 = true ↔ f.clock.timers ≠ []) ∧
    f.clock.stop.1.timers = [] ∧
    (∀ before m since g, moves = before ++ m :: since → (fresh nodes).applyAll before = some g →
      m.callsTimer = true → ∀ t ∈ g.clock.timers, ∀ tick ∈ g.ticks (m :: since),
        tick.timer ≠ t.id) ∧
    (∀ before period since g, moves = before ++ .startTimer period :: since →
      (fresh nodes).applyAll before = some g → (∀ m ∈ since, m.callsTimer = false) →
        (g.ticks (.startTimer period :: since)).map (·.moment) =
          (List.range ((f.clock.now - g.clock.now) / max period 1)).map fun k =>
            g.clock.now + (k + 1) * max period 1) ∧
    (∀ before since g, moves = before ++ since → (fresh nodes).applyAll before = some g →
      asked before = none → (∀ m ∈ since, m.callsTimer = false) → g.ticks since = []) ∧
    (∀ millis, (f.pass millis).nodes =
      f.nodes.map (·.submitAll (List.replicate (f.ticksDuring millis).length .probe))) ∧
    ∀ a b, f.pass (a + b) = (f.pass a).pass b := by
  have hsole {g : Fleet} {before : List Move} (hg : (fresh nodes).applyAll before = some g) :
      g.clock.Sole := sole_applyAll hg Clock.sole_zero
  have hperiod {g : Fleet} {before : List Move} (hg : (fresh nodes).applyAll before = some g) :
      g.clock.period = (asked before).map (max · 1) := period_applyAll hg rfl
  have hrest {before since : List Move} {g : Fleet} (hmoves : moves = before ++ since)
      (hg : (fresh nodes).applyAll before = some g) : g.applyAll since = some f := by
    rw [hmoves] at h
    exact (foldlM_append_of_eq_some hg since).symm.trans h
  refine ⟨(hsole h).length_le_one, ?_, hperiod h, ?_, (hsole h).timers_letGo, ?_, ?_, ?_,
    f.nodes_pass, pass_add (hsole h)⟩
  · have hrunning : f.clock.isRunning = f.clock.period.isSome := by
      rw [Clock.isRunning, Clock.period, Option.isSome_map]
    rw [hrunning, hperiod h, Option.isSome_map]
  · rw [Clock.stop, Ne, (hsole h).timers_eq_nil_iff, Option.isSome_iff_ne_none]
  · intro before m since g hmoves hg hm t ht tick htick
    exact ne_timer_of_mem_ticks (hrest hmoves hg) (hsole hg) hm ht htick
  · intro before period since g hmoves hg hno
    exact moments_of_started (hrest hmoves hg) (hsole hg) hno
  · intro before since g hmoves hg hasked hno
    have hnone : g.clock.held = none := by
      have hnoPeriod := hperiod hg
      rw [hasked, Option.map_none, Clock.period, Option.map_eq_none_iff] at hnoPeriod
      exact hnoPeriod
    exact ticks_eq_nil (hrest hmoves hg) ((hsole hg).timers_eq_nil_iff.2 hnone) hno

/-- A timer of a hundred milliseconds runs for a while, and then one of a second
takes its place. -/
theorem replaced_timer_ticks_alone : ∃ g f,
    (fresh [Node.fresh 1 .standard]).applyAll [.startTimer 100, .pass 250] = some g ∧
    (fresh [Node.fresh 1 .standard]).applyAll
      [.startTimer 100, .pass 250, .startTimer 1000, .pass 2500] = some f ∧
    f.clock.period = some 1000 ∧
    (g.ticks [.startTimer 1000, .pass 2500]).map (·.moment) = [1250, 2250] := by
  obtain ⟨g, f, hg, hf, hgnow, hfnow⟩ : ∃ g f,
      (fresh [Node.fresh 1 .standard]).applyAll [.startTimer 100, .pass 250] = some g ∧
      (fresh [Node.fresh 1 .standard]).applyAll
        [.startTimer 100, .pass 250, .startTimer 1000, .pass 2500] = some f ∧
      g.clock.now = 250 ∧ f.clock.now = 2750 := by
    refine ⟨_, _, rfl, rfl, ?_, ?_⟩
    · rw [clock_pass]
      rfl
    · rw [clock_pass]
      simp only [Clock.moveTo, Clock.start, Clock.launch, Clock.now_letGo, clock_pass]
      rfl
  obtain ⟨-, -, hperiod, -, -, -, hmoments, -⟩ := at_most_one_timer hf
  refine ⟨g, f, hg, hf, hperiod.trans rfl, ?_⟩
  rw [hmoments [.startTimer 100, .pass 250] 1000 [.pass 2500] g rfl hg (by simp [Move.callsTimer]),
    hgnow, hfnow]
  rfl

end Fleet

end NodeSidecar
