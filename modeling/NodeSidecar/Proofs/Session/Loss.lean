import NodeSidecar.Proofs.Session.Ending
import NodeSidecar.Proofs.Token
/-!
# Session — the loss of a connection

Only one call sets the mark of the end: a caller who closes the connection
(`shuts`), or the one who reads it (`loses`). Only the latter goes on to tell the
listeners, and it does so once (`Reporting`). With what becomes of the requests
this is `loss_strands_no_request`.
-/

namespace NodeSidecar.Session.Connection

variable {α : Type} {c c' : Connection α} {p : Progress (Call α) Wait} {a : Option Answer}
variable {turn : Turn Wait Result} {id i n : Nat} {w : Option Wait}
variable {t u : Moment α} {peer : Net.Endpoint}
variable {past earlier later : List (Moment α)} {run : Calls α}

/-! ## What a move does about the end -/

/-- A caller who closes the connection sets the mark of the end. -/
def shuts (t : Moment α) : Bool :=
  match t.cause with
  | some (.fresh .close, _) => !t.before.state.closed
  | _ => false

/-- The one who reads comes to the end, and sets its mark. -/
def loses (t : Moment α) : Bool :=
  match t.cause with
  | some (.waiting .reading, _) => !t.before.state.closed && t.after.state.closed
  | _ => false

/-- The loss is told to the listeners. -/
def reports (t : Moment α) : Bool :=
  match t.cause with
  | some (.waiting .reporting, _) => true
  | _ => false

/-- An event that arrived is passed on to the listeners. -/
def Hears (t : Moment α) : Prop :=
  t.cause = some (.waiting .reading, some .turn) ∧
    ∃ f rest e, Wire.front t.before.state.inbox = .frame f rest ∧
      f.header.stream = Wire.eventStream ∧
      (event? f).filter (concerns t.before.state.peer) = some e ∧
      t.after.state.told = t.before.state.told ++
        (t.before.state.listeners.reactions e.change).map (·, e)

/-- Who set the mark as it came to the end of the frames, and has yet to tell
the listeners. -/
def Reporter (w : Option Wait) : Prop :=
  w = some (.clearing (.reader true)) ∨ w = some .reporting

/-- **What a move does about the end**: whether its call is the reporter before
and after it, whether the mark is set before and after it, and which of
`shuts`, `loses` and `reports` it is. -/
inductive Course : Prop → Prop → Bool → Bool → Bool → Bool → Bool → Prop
  /-- A caller sets the mark. -/
  | shuts {holds holds' : Prop} : ¬ holds → ¬ holds' →
      Course holds holds' false true true false false
  /-- The one who reads sets the mark, and is the reporter from now on. -/
  | loses {holds holds' : Prop} : ¬ holds → holds' →
      Course holds holds' false true false true false
  /-- The reporter tells the listeners. -/
  | reports {holds holds' : Prop} {b : Bool} : holds → ¬ holds' →
      Course holds holds' b b false false true
  /-- Nothing of the kind. -/
  | aside {holds holds' : Prop} {b : Bool} : (holds' ↔ holds) →
      Course holds holds' b b false false false

/-- Who reads and leaves the mark alone does nothing about the end. -/
theorem Course.of_same {holds holds' : Prop} {b b' : Bool} (hb : b' = b)
    (hholds : holds' ↔ holds) : Course holds holds' b b' false (!b && b') false := by
  subst hb
  rw [Bool.not_and_self]
  exact .aside hholds

theorem Passes.course (h : Passes t id p a turn) :
    Course (Reporter (t.before.waiting id)) (Reporter turn.next) t.before.state.closed
      t.after.state.closed (shuts t) (loses t) (reports t) := by
  have hpass := h.passage
  rw [h.waiting_before]
  simp only [shuts, loses, reports, h.cause]
  generalize t.before.state = c at hpass ⊢
  generalize t.after.state = c' at hpass ⊢
  cases hpass with
  | closedBefore hc =>
    simp only [hc, Bool.not_true]
    exact .aside (by simp [Reporter, Turn.next, Progress.wait?])
  | closes hopen =>
    have hc : c.closed = false := by simpa using hopen
    simp only [hc, Bool.not_false]
    exact .shuts (by simp [Reporter, Progress.wait?]) (by simp [Reporter, Turn.next])
  | endsReading =>
    -- Who comes to the end of the frames is the reporter if nobody closed before.
    rcases hc : c.closed with - | -
    · exact .loses (by simp [Reporter, Progress.wait?]) (.inl rfl)
    · exact .aside (by simp [Reporter, Turn.next, Progress.wait?])
  | @sweeps e =>
    rcases e with - | isLoss
    · exact .aside (by simp [Reporter, Turn.next, Progress.wait?, Ender.turn])
    · cases isLoss with
      | false => exact .aside (by simp [Reporter, Turn.next, Progress.wait?, Ender.turn])
      | true => exact .aside (by simp [Reporter, Turn.next, Progress.wait?, Ender.turn])
  | reports =>
    exact .reports (.inr rfl) (by simp [Reporter, Turn.next])
  | @comes k octets hungUp hk =>
    cases k with
    | arrive | hangUp => exact .aside (by simp [Reporter, Turn.next, Progress.wait?])
    | _ => cases hk
  | hears | overhears | answers =>
    exact .of_same rfl (by simp [Reporter, Turn.next, Progress.wait?])
  | _ => exact .aside (by simp [Reporter, Turn.next, Progress.wait?])

/-! ## Who tells the listeners -/

/-- **One move at most sets the mark, and one at most tells the listeners.**
There is a reporter as long as the loss has not been told. -/
structure Reporting (past : List (Moment α)) (run : Calls α) : Prop where
  marks : past.countP loses + past.countP shuts = if run.state.closed then 1 else 0
  le : past.countP reports ≤ past.countP loses
  token : Token Reporter (past.countP reports < past.countP loses) run.waiting

theorem Reporting.loses_le_one (h : Reporting past run) : past.countP loses ≤ 1 := by
  have hmarks := h.marks
  split at hmarks <;> omega

theorem Reporting.quiet (h : Reporting past t.before) (hq : t.Quiet) :
    Reporting (past ++ [t]) t.after := by
  have hshuts : shuts t = false := by rw [shuts, hq.cause]
  have hloses : loses t = false := by rw [loses, hq.cause]
  have hreports : reports t = false := by rw [reports, hq.cause]
  constructor
  · simpa [List.countP_append, hshuts, hloses, hq.state] using h.marks
  · simpa [List.countP_append, hloses, hreports] using h.le
  · simpa [List.countP_append, hloses, hreports, hq.waiting] using h.token

theorem Reporting.passes (h : Reporting past t.before) (hp : Passes t id p a turn) :
    Reporting (past ++ [t]) t.after := by
  have hmarks := h.marks
  have hle := h.le
  have htoken := h.token
  have hcourse := hp.course
  have hcount (f : Moment α → Bool) :
      (past ++ [t]).countP f = past.countP f + if f t then 1 else 0 := by
    simp [List.countP_append, List.countP_cons]
  have hone := h.loses_le_one
  have hup (hheld : Reporter (t.before.waiting id)) : past.countP reports < past.countP loses :=
    htoken.up_iff.2 ⟨id, hheld⟩
  constructor
  -- What is counted and set before and after becomes variable, for `Course` to fix.
  all_goals
    simp only [hcount, hp.waiting]
    generalize shuts t = x, loses t = y, reports t = z at hcourse ⊢
    generalize t.before.state.closed = b at hcourse hmarks
    generalize t.after.state.closed = b' at hcourse ⊢
  case marks =>
    cases hcourse with
    | shuts | loses =>
      simp only [Bool.false_eq_true, ↓reduceIte] at hmarks ⊢
      omega
    | reports | aside => simpa using hmarks
  case le =>
    cases hcourse with
    | reports hheld =>
      have hlt := hup hheld
      simp only [Bool.false_eq_true, ↓reduceIte]
      omega
    | shuts | loses | aside =>
      simp only [Bool.false_eq_true, ↓reduceIte]
      omega
  case token =>
    cases hcourse with
    | shuts hno hno' => exact htoken.keep (iff_of_false hno' hno) (by simp)
    | loses hno hholds =>
      -- The mark was not set, so nobody has set it.
      simp only [Bool.false_eq_true, ↓reduceIte] at hmarks
      refine htoken.take ?_ hholds ?_
      · omega
      · simp only [Bool.false_eq_true, ↓reduceIte]
        omega
    | reports hheld hno' =>
      -- There was one loss to tell, and it has been told now.
      have hlt := hup hheld
      refine htoken.release hheld hno' ?_
      simp only [Bool.false_eq_true, ↓reduceIte]
      omega
    | aside hiff => exact htoken.keep hiff (by simp)

theorem reporting (h : History peer past run) : Reporting past run := by
  refine history_induction (I := Reporting) h ⟨rfl, Nat.le_refl _, ?_⟩
    (fun past t _ ih hq => ih.quiet hq) fun past t id p a turn _ ih hp => ih.passes hp
  have hnone : (fresh peer : Calls α).waiting = fun _ => none := funext waiting_fresh
  rw [hnone]
  exact .init (Nat.lt_irrefl 0) (by simp [Reporter])

/-- **A connection that was closed from this side is not reported.** -/
theorem not_reported_of_shuts (h : History peer past run) (ht : t ∈ past)
    (hshuts : shuts t = true) : past.countP reports = 0 := by
  have hr := reporting h
  have hmarks := hr.marks
  have hle := hr.le
  have hpos : 0 < past.countP shuts := List.countP_pos_iff.2 ⟨t, ht, hshuts⟩
  split at hmarks <;> omega

/-- Where the call that set the mark as it came to the end of the frames has come
to. -/
inductive ReportStage (later : List (Moment α)) (run : Calls α) (i : Nat) : Prop
  /-- It clears the table. -/
  | clears : run.waiting i = some (.clearing (.reader true)) → movesOf later i = 0 →
      ReportStage later run i
  /-- It tells the listeners. -/
  | tells : run.waiting i = some .reporting → movesOf later i = 1 → ReportStage later run i
  /-- It is over, and has told them. -/
  | finished : run.waiting i = none → (∃ u ∈ later, reports u = true) → ReportStage later run i

theorem Passes.next_of_loses (h : Passes t id p a turn) (hl : loses t = true) :
    turn.next = some (.clearing (.reader true)) := by
  have hpass := h.passage
  simp only [loses, h.cause] at hl
  generalize t.before.state = c at hpass hl
  generalize t.after.state = c' at hpass hl
  cases hpass with
  | endsReading =>
    have hc : c.closed = false := by simpa using hl
    simp [Turn.next, hc]
  | hears | overhears | answers =>
    have hno : (!c.closed && c.closed) = true := hl
    simp at hno
  | _ => cases hl

/-- A move of another call leaves a call where it is. -/
theorem ReportStage.keep (h : ReportStage later t.before i) (hcaller : t.caller ≠ some i)
    (hw : t.after.waiting i = t.before.waiting i) : ReportStage (later ++ [t]) t.after i := by
  have hmoves : movesOf (later ++ [t]) i = movesOf later i := movesOf_concat_of_ne hcaller
  cases h with
  | clears hwait hcount => exact .clears (hw.trans hwait) (hmoves.trans hcount)
  | tells hwait hcount => exact .tells (hw.trans hwait) (hmoves.trans hcount)
  | finished hwait htold =>
    obtain ⟨u, hu, hreports⟩ := htold
    exact .finished (hw.trans hwait) ⟨u, List.mem_append_left _ hu, hreports⟩

theorem ReportStage.passes (h : ReportStage later t.before i) (hbegun : t.before.Begun i)
    (hp : Passes t id p a turn) : ReportStage (later ++ [t]) t.after i := by
  by_cases hi : i = id
  · subst hi
    have hpass := hp.passage
    have hmoves : movesOf (later ++ [t]) i = movesOf later i + 1 := movesOf_concat_self hp.caller
    cases h with
    | clears hw hcount =>
      obtain rfl := hp.eq_waiting hw
      refine .tells (hp.waiting_self.trans ?_) (by omega)
      generalize t.after.state = c' at hpass
      cases hpass with
      | sweeps => rfl
    | tells hw hcount =>
      obtain rfl := hp.eq_waiting hw
      refine .finished (hp.waiting_self.trans ?_) ⟨t, by simp, by rw [reports, hp.cause]⟩
      generalize t.after.state = c' at hpass
      cases hpass with
      | reports => rfl
    -- A call that is over makes no move.
    | finished hw => cases (hbegun.progress_eq_none hw).symm.trans hp.progress
  · exact h.keep (hp.caller_ne hi) (hp.waiting_of_ne hi)

theorem reportStage (h : History peer earlier t.before)
    (hm : t.before.apply system t.move = some t.after) (hl : loses t = true)
    (hcaller : t.caller = some i) (hlater : Execution system t.after later run) :
    ReportStage later run i := by
  have hbefore : t.before.Bounded := h.bounded bounded_fresh
  have hafter : t.after.Bounded := hbefore.apply hm
  have hbegun : t.after.Begun i := Run.begun_of_caller hbefore hm hcaller
  refine execution_induction (I := fun later run => ReportStage later run i) hlater hafter ?_
    (fun past u _ ih hq => ih.keep (by rw [hq.caller]; nofun) (by rw [hq.waiting]))
    fun past u id p a turn hx ih hp => ih.passes (hx.begun_of_begun hafter hbegun) hp
  rcases quiet_or_passes hbefore hm with hq | ⟨id, p, a, turn, hp⟩
  · cases hq.caller.symm.trans hcaller
  · obtain rfl : id = i := Option.some.inj (hp.caller.symm.trans hcaller)
    exact .clears (hp.waiting_self.trans (hp.next_of_loses hl)) rfl

/-- **The loss is told once**: the call that set the mark as it came to the end of
the frames has told it and is over, or can go on and will have told it after
two moves. -/
theorem reported_once (h : History peer (earlier ++ t :: later) run) (hl : loses t = true)
    (hcaller : t.caller = some i) :
    ((earlier ++ t :: later).countP reports = 1 ∧ run.progress i = none) ∨
    ((earlier ++ t :: later).countP reports = 0 ∧
      run.apply system (.resume i .turn) ≠ none ∧ movesOf later i < 2) := by
  obtain ⟨hearlier, hm, hlater⟩ := h.of_append_cons
  have hr := reporting h
  have hle := hr.le
  have hone := hr.loses_le_one
  -- As long as the reporter has not told the loss, nobody has.
  have hnone (hheld : Reporter (run.waiting i)) :
      (earlier ++ t :: later).countP reports = 0 := by
    have hlt := hr.token.up_iff.2 ⟨i, hheld⟩
    omega
  rcases reportStage hearlier hm hl hcaller hlater with
    ⟨hw, hcount⟩ | ⟨hw, hcount⟩ | ⟨hw, u, hu, hreports⟩
  · exact .inr ⟨hnone (.inl hw), Run.apply_resume_ne_none hw rfl, by omega⟩
  · exact .inr ⟨hnone (.inr hw), Run.apply_resume_ne_none hw rfl, by omega⟩
  · have hbefore : t.before.Bounded := hearlier.bounded bounded_fresh
    have hbegun : run.Begun i :=
      hlater.begun_of_begun (hbefore.apply hm) (Run.begun_of_caller hbefore hm hcaller)
    have hpos : 0 < (earlier ++ t :: later).countP reports :=
      List.countP_pos_iff.2 ⟨u, by simp [hu], hreports⟩
    exact .inl ⟨by omega, hbegun.progress_eq_none hw⟩

/-! ## What listeners are told -/

/-- The listeners are told that the peer is down, or of an event that arrived, or
nothing. -/
theorem Passes.told (h : Passes t id p a turn) :
    (reports t = true → t.after.state.told = t.before.state.told ++
      (t.before.state.listeners.reactions .down).map (·, t.before.state.lossEvent)) ∧
    (reports t = false → t.after.state.told = t.before.state.told ∨ Hears t) := by
  have hpass := h.passage
  simp only [reports, Hears, h.cause]
  generalize t.before.state = c at hpass ⊢
  generalize t.after.state = c' at hpass ⊢
  cases hpass with
  | hears hfront hevent hpassed =>
    exact ⟨nofun, fun _ => .inr ⟨rfl, _, _, _, hfront, hevent, hpassed, rfl⟩⟩
  | reports => exact ⟨fun _ => rfl, nofun⟩
  | _ => exact ⟨nofun, fun _ => .inl rfl⟩

/-- Who sets the mark goes on to clear the table. -/
theorem Passes.clearing_of_marks (h : Passes t id p a turn)
    (hopen : t.before.state.closed = false) (hclosed : t.after.state.closed = true) :
    (loses t = true ∨ shuts t = true) ∧ ∃ e, t.after.waiting id = some (.clearing e) := by
  constructor
  · have hcourse := h.course
    rw [hopen, hclosed] at hcourse
    generalize shuts t = x, loses t = y, reports t = z at hcourse ⊢
    cases hcourse with
    | shuts => exact .inr rfl
    | loses => exact .inl rfl
  · have hpass := h.passage
    rw [h.waiting_self]
    generalize t.before.state = c at hpass hopen
    generalize t.after.state = c' at hpass hclosed
    cases hpass with
    | closes | endsReading => exact ⟨_, rfl⟩
    | _ => cases hopen.symm.trans hclosed

/-! ## All together -/

/-- **The end of a connection strands no request, and its loss is told once.** The
mark of the end stays, and who sets it clears the table. Once the table has
been cleared, nobody waits in it but to look at the mark, and every request
that was in it or registers later is told within two moves of its own that the
connection is of no use. A request that finds the mark is told so, and is never
written. If the one who reads set the mark, the listeners are told once that
the peer is down; if a caller did, they are not. -/
theorem loss_strands_no_request (h : History peer past run) :
    (∀ t ∈ past, t.after.state.closed = true → run.state.closed = true) ∧
    (∀ t ∈ past, t.before.state.closed = false → t.after.state.closed = true →
      (loses t = true ∨ shuts t = true) ∧
        ∃ i e, t.caller = some i ∧ t.after.waiting i = some (.clearing e)) ∧
    (∀ earlier t later, past = earlier ++ t :: later → newsOf t = .sweep →
      (∀ q ∈ run.state.pending, ∃ i, run.waiting i = some (.checking q.2 q.1)) ∧
      ∀ i, Dropped t later i → Told peer later i ∨
        (run.apply system (.resume i .turn) ≠ none ∧ movesOf later i < 2)) ∧
    (∀ t ∈ past, ∀ n s, t.cause = some (.waiting (.checking n s), some .turn) →
      t.before.state.closed = true →
      n ∉ run.state.written ∧ ∃ r, t.result system = some r ∧ r.IsUnavailable peer) ∧
    (∀ t ∈ past, (reports t = true → t.after.state.told = t.before.state.told ++
        (t.before.state.listeners.reactions .down).map (·, ⟨.down, peer⟩)) ∧
      (reports t = false → t.after.state.told = t.before.state.told ∨ Hears t)) ∧
    (∀ t ∈ past, shuts t = true → past.countP reports = 0) ∧
    (∀ earlier t later i, past = earlier ++ t :: later → loses t = true →
      t.caller = some i →
      (past.countP reports = 1 ∧ run.progress i = none) ∨
      (past.countP reports = 0 ∧ run.apply system (.resume i .turn) ≠ none ∧
        movesOf later i < 2)) ∧
    past.countP reports ≤ past.countP loses := by
  have hcut (t : Moment α) (ht : t ∈ past) : ∃ earlier later,
      History peer earlier t.before ∧ t.before.apply system t.move = some t.after ∧
        Execution system t.after later run := by
    obtain ⟨earlier, later, rfl⟩ := List.append_of_mem ht
    exact ⟨earlier, later, h.of_append_cons⟩
  refine ⟨fun t ht hc => ?_, fun t ht hopen hclosed => ?_, fun earlier t later hpast hn => ?_,
    fun t ht n s hcause hc => ?_, fun t ht => ?_, fun t ht hs => not_reported_of_shuts h ht hs,
    fun earlier t later i hpast hl hcaller => ?_, (reporting h).le⟩
  · obtain ⟨earlier, later, hearlier, hm, hlater⟩ := hcut t ht
    exact closed_of_closed hlater ((hearlier.bounded bounded_fresh).apply hm) hc
  · obtain ⟨earlier, later, hearlier, hm, -⟩ := hcut t ht
    rcases quiet_or_passes (hearlier.bounded bounded_fresh) hm with hq | ⟨id, p, a, turn, hp⟩
    · rw [hq.state, hopen] at hclosed
      cases hclosed
    · obtain ⟨hmarks, e, he⟩ := hp.clearing_of_marks hopen hclosed
      exact ⟨hmarks, id, e, hp.caller, he⟩
  · subst hpast
    obtain ⟨hearlier, hm, hlater⟩ := h.of_append_cons
    obtain ⟨hsealed, hfated⟩ := sealed_and_fated hearlier hm hn hlater
    exact ⟨fun q hq => hsealed.checking (booked h) hq,
      fun i hi => (hfated i hi).told_or_goes_on⟩
  · obtain ⟨earlier, later, hearlier, hm, hlater⟩ := hcut t ht
    exact refused_never_written hearlier hm hcause hc hlater
  · obtain ⟨earlier, later, hearlier, hm, -⟩ := hcut t ht
    rcases quiet_or_passes (hearlier.bounded bounded_fresh) hm with hq | ⟨id, p, a, turn, hp⟩
    · refine ⟨fun hr => ?_, fun _ => .inl (by rw [hq.state])⟩
      rw [reports, hq.cause] at hr
      cases hr
    · have htold := hp.told
      rw [lossEvent, peer_eq hearlier] at htold
      exact htold
  · subst hpast
    exact reported_once h hl hcaller

/-- Somebody listens, a request is written, and the stream ends. -/
def streamEnds : List (Move (Call Unit) Answer) :=
  [.submit (.listen (.on [.down] ())), .submit .execute, .start 0, .start 1, .start 2,
    .resume 2 .turn, .resume 2 .turn, .submit .hangUp, .start 3]

/-- Another request registers before the table is cleared. -/
def lateRequest : List (Move (Call Unit) Answer) :=
  [.submit .execute, .start 4]

/-- The loss is told, and both requests are. -/
def allTold : List (Move (Call Unit) Answer) :=
  [.resume 0 .turn, .resume 2 .turn, .resume 4 .turn]

/-- Both requests that were made before the table was cleared are told, and the
listener is told once. -/
theorem loss_told_to_all : ∃ (past : List (Moment Unit)) (lost : Moment Unit)
    (past' : List (Moment Unit)) (cleared : Moment Unit) (later : List (Moment Unit))
    (run : Calls Unit),
    History loopback (past ++ lost :: (past' ++ cleared :: later)) run ∧ loses lost = true ∧
    newsOf cleared = .sweep ∧ Told loopback later 2 ∧ Told loopback later 4 ∧
    (past ++ lost :: (past' ++ cleared :: later)).countP reports = 1 ∧
    run.state.told = [((), ⟨.down, loopback⟩)] ∧ run.state.pending = [] := by
  obtain ⟨before, hbefore, lost, hlost, mid, hmid, cleared, hclear, run, hrun, hloses, hsweep,
      hpending, hfirst, hsecond, hover0, hover2, hover4, htold, htable⟩ :
      ∃ before, (fresh loopback).applyAll system streamEnds = some before ∧
      ∃ lost, before.apply system (.resume 0 .turn) = some lost ∧
      ∃ mid, lost.applyAll system lateRequest = some mid ∧
      ∃ cleared, mid.apply system (.resume 0 .turn) = some cleared ∧
      ∃ run, cleared.applyAll system allTold = some run ∧
      loses ⟨before, .resume 0 .turn, lost⟩ = true ∧
      newsOf ⟨mid, .resume 0 .turn, cleared⟩ = .sweep ∧
      mid.state.pending = [(1, 0), (2, 1)] ∧ mid.entry 2 = some (1, 0) ∧ mid.entry 4 = some (2, 1) ∧
      run.progress 0 = none ∧ run.progress 2 = none ∧ run.progress 4 = none ∧
      run.state.told = [((), ⟨.down, loopback⟩)] ∧ run.state.pending = [] :=
    ⟨_, rfl, _, rfl, _, rfl, _, rfl, _, rfl, rfl, rfl, rfl, rfl, rfl, rfl, rfl, rfl, rfl, rfl⟩
  have hpast1 := execution_of_applyAll hbefore
  have hpast2 := execution_of_applyAll hmid
  have hpast3 := execution_of_applyAll hrun
  generalize (fresh loopback).transitions system streamEnds = past1 at hpast1
  generalize lost.transitions system lateRequest = past2 at hpast2
  generalize cleared.transitions system allTold = past3 at hpast3
  have hall : History loopback (past1 ++ ⟨before, .resume 0 .turn, lost⟩ ::
      (past2 ++ ⟨mid, .resume 0 .turn, cleared⟩ :: past3)) run := by
    simpa using (((hpast1.move hlost).trans hpast2).move hclear).trans hpast3
  obtain ⟨-, -, hsweeps, -, -, -, hreported, -⟩ := loss_strands_no_request hall
  have hdone {i : Nat} (hi : run.progress i = none) :
      ¬ run.apply system (.resume i .turn) ≠ none := by
    simp [Run.apply, Run.stretch?, hi]
  have hdropped := (hsweeps (past1 ++ ⟨before, .resume 0 .turn, lost⟩ :: past2) _ past3
    (by simp) hsweep).2
  have hreport := hreported past1 _ _ 0 rfl hloses rfl
  refine ⟨past1, _, past2, _, past3, run, hall, hloses, hsweep, ?_, ?_, ?_, htold, htable⟩
  · refine (hdropped 2 (.inl ⟨(1, 0), by simp [hpending], hfirst⟩)).resolve_right fun h => ?_
    exact hdone hover2 h.1
  · refine (hdropped 4 (.inl ⟨(2, 1), by simp [hpending], hsecond⟩)).resolve_right fun h => ?_
    exact hdone hover4 h.1
  · exact (hreport.resolve_right fun h => hdone hover0 h.2.1).1

/-- The stream ends and that is told; a request made afterwards fails at once. -/
example : ((fresh loopback : Calls Unit).transitions system
    [.start 0, .submit .hangUp, .start 1, .resume 0 .turn, .resume 0 .turn, .resume 0 .turn,
      .submit .execute, .start 2, .resume 2 .turn]).filterMap (·.result system) =
    [.finished, .finished,
      .rows (.error (.sessionUnavailable "127.0.0.1:9042" "connection closed"))] := by
  decide +kernel

end NodeSidecar.Session.Connection
