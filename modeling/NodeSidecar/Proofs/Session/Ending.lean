import NodeSidecar.Proofs.Session.Delivery
/-!
# Session — requests at the end of a connection

Who ends a connection sets the mark of the end first, and clears the table
after that; who makes a request registers first, and looks at the mark after
that. So once the table has been cleared, a request that is past the look has
its outcome (`Sealed`), and one that is not will find the mark. Either way it
is told within two steps of its own that the connection is of no use
(`Fated`).
-/

namespace NodeSidecar.Session.Connection

variable {α : Type} {c c' : Connection α} {p : Progress (Call α) Wait} {a : Option Answer}
variable {turn : Turn Wait Result} {id i n : Nat} {s : Int} {q : Int × Nat} {w : Wait}
variable {t u : Moment α} {peer : Net.Endpoint}
variable {past earlier later : List (Moment α)} {run : Calls α}

/-! ## The mark of the end -/

/-- The mark of the end is not taken back. -/
theorem Passage.closed (h : Passage c p a c' turn) (hc : c.closed = true) :
    c'.closed = true := by
  cases h with
  | closes | endsReading => rfl
  | _ => exact hc

/-- **The mark of the end stays.** -/
theorem closed_of_closed {start : Calls α} (h : Execution system start later run)
    (hb : start.Bounded) (hc : start.state.closed = true) : run.state.closed = true := by
  refine execution_induction (I := fun _ run => run.state.closed = true) h hb hc
    (fun past t _ ih hq => ?_) fun past t id p a turn _ ih hp => hp.passage.closed ih
  rw [hq.state]
  exact ih

theorem Passage.closed_of_next {e : Ender} (h : Passage c p a c' turn)
    (hp : ∀ e, p.wait? = some (.clearing e) → c.closed = true)
    (hw : turn.next = some (.clearing e)) : c'.closed = true := by
  cases h with
  | closes | endsReading => rfl
  | @sweeps e => exact hp e rfl
  | _ => cases hw

/-- Who clears the table does so after the mark was set. -/
theorem closed_of_clearing (h : History peer past run) {e : Ender}
    (hi : run.waiting i = some (.clearing e)) : run.state.closed = true := by
  suffices ∀ i e, run.waiting i = some (.clearing e) → run.state.closed = true from
    this i e hi
  refine history_induction (I := fun _ run => ∀ i e, run.waiting i = some (.clearing e) →
    run.state.closed = true) h (fun i e hi => ?_) (fun past t _ ih hq i e hi => ?_)
    fun past t id p a turn _ ih hp i e hi => ?_
  · rw [waiting_fresh] at hi
    cases hi
  · rw [hq.waiting] at hi
    rw [hq.state]
    exact ih i e hi
  · by_cases hid : i = id
    · subst hid
      rw [hp.waiting_self] at hi
      refine hp.passage.closed_of_next (fun e he => ?_) hi
      exact ih i e (hp.waiting_before.trans he)
    · rw [hp.waiting_of_ne hid] at hi
      exact hp.passage.closed (ih i e hi)

/-! ## The table is clear -/

/-- **The end has come, and nobody who is past the look at its mark waits in
the table.** -/
structure Sealed (run : Calls α) : Prop where
  closed : run.state.closed = true
  settled : ∀ i w p, run.waiting i = some w → w.entry? = some p →
    w ≠ .checking p.2 p.1 → (run.state.outcome? p.2).isSome = true

/-- Who still is in the table has yet to look at the mark. -/
theorem Sealed.checking (h : Sealed run) (hb : Booked run.state run.entry)
    (hq : q ∈ run.state.pending) : ∃ i, run.waiting i = some (.checking q.2 q.1) := by
  obtain ⟨i, hi⟩ := hb.owner q hq
  obtain ⟨w, hw, hentry⟩ := Option.bind_eq_some_iff.1 hi
  refine ⟨i, ?_⟩
  by_cases hcheck : w = .checking q.2 q.1
  · rw [hw, hcheck]
  · have hsome := h.settled i w q hw hentry hcheck
    rw [hb.waits q hq] at hsome
    cases hsome

/-- What has come of a request is there after the next move. -/
theorem Passes.outcome?_isSome (h : Passes t id p a turn)
    (ho : (t.before.state.outcome? n).isSome = true) :
    (t.after.state.outcome? n).isSome = true := by
  obtain ⟨o, ho⟩ := Option.isSome_iff_exists.1 ho
  rw [h.booking.outcome?_eq_some ho]
  rfl

/-- **A move keeps what is sealed**: who looks at the mark finds it. -/
theorem Sealed.passes (h : Sealed t.before) (hp : Passes t id p a turn) : Sealed t.after := by
  refine ⟨hp.passage.closed h.closed, fun i w q hi hentry hcheck => ?_⟩
  by_cases hid : i = id
  · subst hid
    rw [hp.waiting_self] at hi
    have hpass := hp.passage
    have hkeep := hp.outcome?_isSome (n := q.2)
    generalize t.after.state = c' at hpass hkeep ⊢
    cases hpass with
    | enrols =>
      obtain rfl := Option.some.inj hi
      obtain rfl := Option.some.inj hentry
      exact absurd rfl hcheck
    | passes hopen => exact absurd h.closed hopen
    | @writes n s =>
      obtain rfl := Option.some.inj hi
      exact hkeep (h.settled i (.writing n s) q hp.waiting_before hentry nofun)
    | sweeps => cases (Ender.entry?_of_next hi).symm.trans hentry
    | _ => cases hi <;> cases hentry
  · rw [hp.waiting_of_ne hid] at hi
    exact hp.outcome?_isSome (h.settled i w q hi hentry hcheck)

theorem Sealed.quiet (h : Sealed t.before) (hq : t.Quiet) : Sealed t.after := by
  refine ⟨?_, fun i w q hi => ?_⟩
  · rw [hq.state]
    exact h.closed
  · rw [hq.waiting] at hi
    rw [hq.state]
    exact h.settled i w q hi

/-- **The table is sealed once it has been cleared.** -/
theorem sealed_of_sweep (h : History peer past t.before)
    (hm : t.before.apply system t.move = some t.after) (hn : newsOf t = .sweep) :
    Sealed t.after := by
  rcases quiet_or_passes (h.bounded bounded_fresh) hm with hq | ⟨id, p, a, turn, hp⟩
  · cases (newsOf_of_quiet hq).symm.trans hn
  · rw [newsOf_eq hp] at hn
    obtain ⟨hc, e, rfl⟩ := hp.passage.of_sweep hn
    refine ⟨?_, fun i w q hi hentry _ => ?_⟩
    · rw [hc]
      exact closed_of_clearing h hp.waiting_before
    · have hbooked : Booked t.after.state t.after.entry := booked (h.move hm)
      refine hbooked.settled i q (Option.bind_eq_some_iff.2 ⟨w, hi, hentry⟩) ?_
      rw [hc]
      exact List.not_mem_nil

/-! ## Requests to which nothing will come -/

/-- A request that will be told that the connection is of no use: it has yet to
look at the mark of the end, or nothing will come for it. -/
def Doomed (c : Connection α) : Wait → Prop
  | .checking _ _ => True
  | .writing n _ | .awaiting n _ => c.outcome? n = some none
  | _ => False

/-- How many steps such a request has before it at most. -/
def stepsLeft : Wait → Nat
  | .writing _ _ => 2
  | _ => 1

/-- **A doomed request is told so, or comes nearer to that.** -/
theorem Passage.doomed (h : Passage c (.waiting w) a c' turn) (hc : c.closed = true)
    (hd : Doomed c w) :
    (∃ r, turn.result = some r ∧ r.IsUnavailable c.peer) ∨
      ∃ w', turn.next = some w' ∧ Doomed c' w' ∧ stepsLeft w' < stepsLeft w := by
  cases h with
  | refused | unwritten | givesUp => exact .inl ⟨_, rfl, _, rfl⟩
  | passes hopen => exact absurd hc hopen
  | writes => exact .inr ⟨_, rfl, hd, Nat.lt_succ_self _⟩
  | collects ho => cases hd.symm.trans ho
  | timesOut ho => cases hd.symm.trans ho
  | _ => exact hd.elim

/-- A doomed request can go on. -/
theorem Doomed.isSome_resume (hd : Doomed c w) : (resume w .turn c).isSome = true := by
  cases w with
  | checking n s =>
    simp only [resume]
    split <;> rfl
  | writing n s => rfl
  | awaiting n s =>
    have hnone : c.outcome? n = some none := hd
    simp [resume, collect, hnone]
  | _ => exact hd.elim

/-- The end of the connection took the request of the call `i`: it was in the
table when that was cleared in the move `t`, or registered later. -/
def Dropped (t : Moment α) (later : List (Moment α)) (i : Nat) : Prop :=
  (∃ q ∈ t.before.state.pending, t.before.entry i = some q) ∨
    ∃ u ∈ later, u.caller = some i ∧ ∃ q, newsOf u = .registered q

theorem dropped_concat : Dropped t (later ++ [u]) i ↔
    Dropped t later i ∨ (u.caller = some i ∧ ∃ q, newsOf u = .registered q) := by
  simp only [Dropped, List.mem_append, List.mem_singleton, or_and_right, exists_or,
    exists_eq_left, or_assoc]

/-- The call `i` was told that the connection is of no use. -/
def Told (peer : Net.Endpoint) (later : List (Moment α)) (i : Nat) : Prop :=
  ∃ u ∈ later, u.caller = some i ∧ ∃ r, u.result system = some r ∧ r.IsUnavailable peer

/-- How many moves the call `i` made. -/
def movesOf (later : List (Moment α)) (i : Nat) : Nat :=
  later.countP (·.caller = some i)

theorem movesOf_concat : movesOf (later ++ [u]) i =
    movesOf later i + if u.caller = some i then 1 else 0 := by
  simp [movesOf, List.countP_append, List.countP_cons]

theorem movesOf_concat_self (h : u.caller = some i) :
    movesOf (later ++ [u]) i = movesOf later i + 1 := by
  rw [movesOf_concat, if_pos h]

theorem movesOf_concat_of_ne (h : u.caller ≠ some i) :
    movesOf (later ++ [u]) i = movesOf later i := by
  rw [movesOf_concat, if_neg h, Nat.add_zero]

theorem Told.concat (h : Told peer later i) : Told peer (later ++ [u]) i := by
  obtain ⟨v, hv, htold⟩ := h
  exact ⟨v, List.mem_append_left _ hv, htold⟩

/-- A call is told at the end of two moves: it was, or it is doomed. -/
def Fated (peer : Net.Endpoint) (later : List (Moment α)) (run : Calls α) (i : Nat) : Prop :=
  Told peer later i ∨ ∃ w, run.waiting i = some w ∧ Doomed run.state w ∧
    movesOf later i + stepsLeft w ≤ 2

/-- Nothing that others do saves a doomed request. -/
theorem Passes.doomed_of_ne (h : Passes t id p a turn) (hd : Doomed t.before.state w) :
    Doomed t.after.state w := by
  cases w with
  | checking => trivial
  | writing | awaiting => exact h.booking.outcome?_eq_some hd
  | _ => exact hd.elim

/-- A move of another call leaves a call where it is. -/
theorem Fated.keep (h : Fated peer later t.before i) (hcaller : t.caller ≠ some i)
    (hw : t.after.waiting i = t.before.waiting i)
    (hd : ∀ w, Doomed t.before.state w → Doomed t.after.state w) :
    Fated peer (later ++ [t]) t.after i := by
  rcases h with htold | ⟨w, hwait, hdoomed, hle⟩
  · exact .inl htold.concat
  · refine .inr ⟨w, hw.trans hwait, hd w hdoomed, ?_⟩
    rwa [movesOf_concat_of_ne hcaller]

theorem Fated.passes (h : Fated peer later t.before i) (hc : t.before.state.closed = true)
    (hpeer : t.before.state.peer = peer) (hp : Passes t id p a turn) :
    Fated peer (later ++ [t]) t.after i := by
  by_cases hi : i = id
  · subst hi
    rcases h with htold | ⟨w, hw, hd, hle⟩
    · exact .inl htold.concat
    · obtain rfl := hp.eq_waiting hw
      rcases hp.passage.doomed hc hd with ⟨r, hr, hunavailable⟩ | ⟨w', hw', hd', hlt⟩
      · rw [hpeer] at hunavailable
        exact .inl ⟨t, by simp, hp.caller, r, hp.result.trans hr, hunavailable⟩
      · refine .inr ⟨w', hp.waiting_self.trans hw', hd', ?_⟩
        rw [movesOf_concat_self hp.caller]
        omega
  · exact h.keep (hp.caller_ne hi) (hp.waiting_of_ne hi) fun w => hp.doomed_of_ne

/-- A request that waits in the table when that is cleared is doomed. -/
theorem doomed_of_clear (hb : Booked c run.entry) (hq : q ∈ c.pending)
    (hentry : w.entry? = some q) : Doomed c.clear w := by
  -- Nothing had come of it before the table was cleared.
  have hnone : c.clear.outcome? q.2 = some none := by
    have hmem : q.2 ∈ c.pending.map (·.2) := List.mem_map_of_mem hq
    rw [outcome?_clear, hb.waits q hq, if_pos hmem]
    rfl
  cases w with
  | checking => trivial
  | writing | awaiting =>
    obtain rfl := Option.some.inj hentry
    exact hnone
  | _ => cases hentry

theorem fated_of_pending (h : History peer earlier t.before)
    (hm : t.before.apply system t.move = some t.after) (hn : newsOf t = .sweep)
    (hq : q ∈ t.before.state.pending) (hi : t.before.entry i = some q) :
    Fated peer [] t.after i := by
  obtain ⟨w, hw, hentry⟩ := Option.bind_eq_some_iff.1 hi
  rcases quiet_or_passes (h.bounded bounded_fresh) hm with hquiet | ⟨id, p, a, turn, hp⟩
  · cases (newsOf_of_quiet hquiet).symm.trans hn
  · rw [newsOf_eq hp] at hn
    obtain ⟨hc, e, rfl⟩ := hp.passage.of_sweep hn
    -- Who clears the table has made no request.
    have hne : i ≠ id := by
      rintro rfl
      obtain rfl := Option.some.inj (hp.waiting_before.symm.trans hw)
      cases hentry
    refine .inr ⟨w, (hp.waiting_of_ne hne).trans hw, ?_, ?_⟩
    · rw [hc]
      exact doomed_of_clear (booked h) hq hentry
    · cases w <;> simp [movesOf, stepsLeft]

/-- A request that registers once the mark is set is doomed. -/
theorem fated_of_registered (hp : Passes u id p a turn) (hn : newsOf u = .registered q)
    (hfirst : movesOf later id = 0) : Fated peer (later ++ [u]) u.after id := by
  rw [newsOf_eq hp] at hn
  obtain ⟨-, rfl⟩ := hp.passage.of_registered hn
  refine .inr ⟨_, hp.waiting_self, trivial, ?_⟩
  rw [movesOf_concat_self hp.caller, hfirst]
  exact Nat.le_refl 2

/-- **Every request that the end of the connection took is told so** within two
moves of its own. -/
theorem sealed_and_fated (h : History peer earlier t.before)
    (hm : t.before.apply system t.move = some t.after) (hn : newsOf t = .sweep)
    (hlater : Execution system t.after later run) :
    Sealed run ∧ ∀ i, Dropped t later i → Fated peer later run i := by
  have hstart : t.after.Bounded := (h.bounded bounded_fresh).apply hm
  refine execution_induction
    (I := fun later run => Sealed run ∧ ∀ i, Dropped t later i → Fated peer later run i)
    hlater hstart ⟨sealed_of_sweep h hm hn, fun i hi => ?_⟩
    (fun later u _ ih hq => ⟨?_, fun i hi => ?_⟩)
    fun later u id p a turn hx ih hp => ⟨ih.1.passes hp, fun i hi => ?_⟩
  · rcases hi with ⟨q, hq, hi⟩ | ⟨u, hu, -⟩
    · exact fated_of_pending h hm hn hq hi
    · cases hu
  · exact ih.1.quiet hq
  · have hne : u.caller ≠ some i := by
      rw [hq.caller]
      nofun
    have hdropped := (dropped_concat.1 hi).resolve_right fun h => hne h.1
    refine (ih.2 i hdropped).keep hne (by rw [hq.waiting]) fun w hd => ?_
    rwa [hq.state]
  · rcases dropped_concat.1 hi with hi | ⟨hcaller, q, hreg⟩
    · have hhistory : History peer _ u.before := (h.move hm).trans hx
      exact (ih.2 i hi).passes ih.1.closed (peer_eq hhistory) hp
    · obtain rfl : id = i := Option.some.inj (hp.caller.symm.trans hcaller)
      refine fated_of_registered hp hreg ?_
      -- It has just begun, so it made no move before.
      have hnews := hreg
      rw [newsOf_eq hp] at hnews
      obtain ⟨rfl, -⟩ := news_eq_registered hnews
      exact hx.countP_caller_of_fresh hstart hp.progress

/-- A call that is fated was told, or can go on and has not made two moves. -/
theorem Fated.told_or_goes_on (h : Fated peer later run i) :
    Told peer later i ∨
      (run.apply system (.resume i .turn) ≠ none ∧ movesOf later i < 2) := by
  refine h.imp_right fun ⟨w, hw, hd, hle⟩ => ?_
  have hleft : 1 ≤ stepsLeft w := by cases w <;> simp [stepsLeft]
  exact ⟨Run.apply_resume_ne_none hw hd.isSome_resume, by omega⟩

/-! ## What is written -/

/-- Requests that have been written were made, and are past the writing. -/
structure Written (run : Calls α) : Prop where
  made : ∀ n ∈ run.state.written, n < run.state.requests
  past : ∀ i w q, run.waiting i = some w → w.entry? = some q → w ≠ .awaiting q.2 q.1 →
    q.2 ∉ run.state.written

/-- The request `n` was made, is not written, and is nobody's any more. -/
structure NeverWritten (n : Nat) (run : Calls α) : Prop where
  made : n < run.state.requests
  written : n ∉ run.state.written
  nobody : ∀ i q, run.entry i = some q → q.2 ≠ n

/-- A stretch writes the request of its own call, or nothing. -/
theorem Passage.written (h : Passage c p a c' turn) :
    (∃ n s, p = .waiting (.writing n s) ∧ turn = .wait (.awaiting n s) ∧
      c' = { c with written := n :: c.written }) ∨ c'.written = c.written := by
  cases h with
  | writes => exact .inl ⟨_, _, rfl, rfl, rfl⟩
  | _ => exact .inr rfl

theorem Passage.requests_le (h : Passage c p a c' turn) : c.requests ≤ c'.requests := by
  rcases h.numbers with ⟨-, hrequests, -⟩ | ⟨-, hrequests, -⟩ <;> omega

theorem Written.passes (h : Written t.before) (hb : Booked t.before.state t.before.entry)
    (hp : Passes t id p a turn) : Written t.after := by
  have hpass := hp.passage
  have hle := hpass.requests_le
  constructor
  case made =>
    intro n hn
    rcases hpass.written with ⟨m, s, rfl, -, hc⟩ | hsame
    · rw [hc] at hn ⊢
      rcases List.mem_cons.1 hn with rfl | hn
      · exact hb.lt id (s, n) hp.entry_before
      · exact h.made n hn
    · rw [hsame] at hn
      exact Nat.lt_of_lt_of_le (h.made n hn) hle
  case past =>
    intro i w q hi hentry hw
    by_cases hid : i = id
    · subst hid
      rw [hp.waiting_self] at hi
      generalize t.after.state = c' at hpass ⊢
      cases hpass with
      | enrols =>
        obtain rfl := Option.some.inj hi
        obtain rfl := Option.some.inj hentry
        exact fun hmem => absurd (h.made _ hmem) (Nat.lt_irrefl _)
      | @passes n s =>
        obtain rfl := Option.some.inj hi
        exact h.past i (.checking n s) q hp.waiting_before hentry nofun
      | writes =>
        obtain rfl := Option.some.inj hi
        obtain rfl := Option.some.inj hentry
        exact absurd rfl hw
      | sweeps => cases (Ender.entry?_of_next hi).symm.trans hentry
      | _ => cases hi <;> cases hentry
    · rw [hp.waiting_of_ne hid] at hi
      have hnot := h.past i w q hi hentry hw
      rcases hpass.written with ⟨m, s, rfl, -, hc⟩ | hsame
      · rw [hc]
        refine List.not_mem_cons_of_ne_of_not_mem (fun hm => hid ?_) hnot
        -- Two calls with the request that is written would be one.
        exact hb.unique i id q (s, m) (Option.bind_eq_some_iff.2 ⟨w, hi, hentry⟩)
          hp.entry_before hm
      · rwa [hsame]

theorem written_of_history (h : History peer past run) : Written run := by
  refine history_induction (I := fun _ run => Written run) h
    ⟨by simp [fresh, Run.submit, Run.idle, opened], fun i w q hi => ?_⟩
    (fun past t _ ih hq => ⟨?_, fun i w q hi => ?_⟩)
    fun past t id p a turn hx ih hp => ih.passes (booked hx) hp
  · rw [waiting_fresh] at hi
    cases hi
  · rw [hq.state]
    exact ih.made
  · rw [hq.waiting] at hi
    rw [hq.state]
    exact ih.past i w q hi

theorem NeverWritten.passes (h : NeverWritten n t.before) (hp : Passes t id p a turn) :
    NeverWritten n t.after := by
  have hpass := hp.passage
  refine ⟨Nat.lt_of_lt_of_le h.made hpass.requests_le, ?_, fun i q hi => ?_⟩
  · rcases hpass.written with ⟨m, s, rfl, -, hc⟩ | hsame
    · rw [hc]
      have hne : m ≠ n := h.nobody id (s, m) hp.entry_before
      exact List.not_mem_cons_of_ne_of_not_mem hne.symm h.written
    · rw [hsame]
      exact h.written
  · rw [hp.entry_after] at hi
    by_cases hid : i = id
    · rw [hid, Function.update_self] at hi
      rcases hpass.numbers with ⟨-, -, hnew⟩ | ⟨-, -, hold⟩
      · obtain rfl := Option.some.inj (hnew.symm.trans hi)
        exact Nat.ne_of_gt h.made
      · exact h.nobody id q (hp.entry_before.trans (hold q hi))
    · rw [Function.update_of_ne hid] at hi
      exact h.nobody i q hi

theorem neverWritten {start : Calls α} (h : Execution system start later run)
    (hb : start.Bounded) (h0 : NeverWritten n start) : NeverWritten n run := by
  refine execution_induction (I := fun _ run => NeverWritten n run) h hb h0
    (fun past t _ ih hq => ⟨?_, ?_, fun i q hi => ?_⟩)
    fun past t id p a turn _ ih hp => ih.passes hp
  · rw [hq.state]
    exact ih.made
  · rw [hq.state]
    exact ih.written
  · rw [Run.entry, hq.waiting] at hi
    exact ih.nobody i q hi

theorem Passage.of_refused (h : Passage c (.waiting (.checking n s)) (some .turn) c' turn)
    (hc : c.closed = true) :
    c' = c.settle s none ∧ turn = .done (.rows (.error (c.unavailable closedReason))) := by
  cases h with
  | refused => exact ⟨rfl, rfl⟩
  | passes hopen => exact absurd hc hopen

/-- **A request that finds the mark is told so and never written.** -/
theorem refused_never_written (h : History peer earlier t.before)
    (hm : t.before.apply system t.move = some t.after)
    (hcause : t.cause = some (.waiting (.checking n s), some .turn))
    (hc : t.before.state.closed = true) (hlater : Execution system t.after later run) :
    n ∉ run.state.written ∧ ∃ r, t.result system = some r ∧ r.IsUnavailable peer := by
  have hbefore : t.before.Bounded := h.bounded bounded_fresh
  have hbooked := booked h
  rcases quiet_or_passes hbefore hm with hq | ⟨id, p, a, turn, hp⟩
  · cases hq.cause.symm.trans hcause
  · obtain ⟨rfl, rfl⟩ := hp.eq_of_cause hcause
    obtain ⟨hstate, hturn⟩ := hp.passage.of_refused hc
    have hmade : n < t.before.state.requests := hbooked.lt id (s, n) hp.entry_before
    have hunwritten : n ∉ t.before.state.written :=
      (written_of_history h).past id _ (s, n) hp.waiting_before rfl nofun
    have hnever : NeverWritten n t.after := by
      refine ⟨by rwa [hstate], by rwa [hstate], fun i q hi hn => ?_⟩
      rw [hp.entry_after, hturn] at hi
      by_cases hid : i = id
      · rw [hid, Function.update_self] at hi
        cases hi
      · rw [Function.update_of_ne hid] at hi
        exact hid (hbooked.unique i id q (s, n) hi hp.entry_before hn)
    refine ⟨(neverWritten hlater (hbefore.apply hm) hnever).written, ?_⟩
    rw [hp.result, hturn, ← peer_eq h]
    exact ⟨_, rfl, closedReason, rfl⟩

end NodeSidecar.Session.Connection
