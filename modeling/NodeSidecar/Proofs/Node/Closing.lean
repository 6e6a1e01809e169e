import NodeSidecar.Proofs.Node.Adapters
/-!
# Node — the end of the watch

The call that ends the watch says so first, then takes the session in use away
with the lock, then forgets what is remembered, then closes the provider and
the link (`Stage`). From the second step on no session is in use and none is
being opened, and no call can change that (`Released`): a call that waited for
the lock meanwhile finds the watch over, and one that held the lock gave it
back with the session that the end then took away.
-/

namespace NodeSidecar.Node

variable {m m' : Monitor} {p : Progress Call Wait} {a : Option Answer} {w : Option Wait}

/-- The watch is over, no session is in use, and none is being opened. -/
structure Released (m : Monitor) : Prop where
  closed : m.isClosed
  slot : m.slot = none
  locked : m.locked = false

/-- **What was released stays released**, whatever a call does that is not
opening a session. -/
theorem Passage.released (h : Passage m p a m' w) (hm : Released m)
    (hp : ∀ q, p ≠ .waiting (.connecting q)) : Released m' := by
  obtain ⟨hclosed, hslot, hlocked⟩ := hm
  have hdiscard : discard m = m := by simp [discard, hslot]
  have hkeeps (he : m'.holding = m.holding) : m'.slot = none ∧ m'.locked = false :=
    ⟨(congrArg Monitor.Holding.slot he).trans hslot,
      (congrArg Monitor.Holding.locked he).trans hlocked⟩
  -- No stretch ends a watch that is over, so only the slot and the lock are in question.
  suffices m'.slot = none ∧ m'.locked = false from ⟨h.isClosed hclosed, this.1, this.2⟩
  cases h with
  | opened => exact ⟨hslot, hlocked⟩
  | lost => exact ⟨hslot, hlocked⟩
  | late => exact hkeeps (by simp [hdiscard])
  | connects _ _ hopen => exact absurd hclosed hopen
  | @evicts s =>
    have habandon : m.abandon s = m := by simp [Monitor.abandon, hslot]
    rw [habandon]
    exact ⟨hslot, hlocked⟩
  | shuts _ hs =>
    rw [hslot] at hs
    cases hs
  | unreachable => exact absurd rfl (hp _)
  | adopts => exact absurd rfl (hp _)
  | _ => exact hkeeps (by simp)

/-- **Once released, no session is asked for and no query begins.** -/
theorem Passage.next_of_released (h : Passage m p a m' w) (hm : Released m)
    (hp : ∀ q, p ≠ .waiting (.connecting q)) :
    (∀ q, w ≠ some (.connecting q)) ∧ ∀ s, w ≠ some (.querying s) := by
  obtain ⟨hclosed, hslot, -⟩ := hm
  have haside (hw : ∀ v, w = some v → v.isAside) :
      (∀ q, w ≠ some (.connecting q)) ∧ ∀ s, w ≠ some (.querying s) := by
    refine ⟨fun q hq => ?_, fun s hs => ?_⟩
    · exact absurd (hw _ hq) (by simp [Wait.isAside])
    · exact absurd (hw _ hs) (by simp [Wait.isAside])
  cases h with
  | probeReady hopen => exact absurd hclosed hopen
  | probeSeeks hopen => exact absurd hclosed hopen
  | found _ hs => simp [Monitor.usable, hslot] at hs
  | connects _ _ hopen => exact absurd hclosed hopen
  | unreachable => exact absurd rfl (hp _)
  | adopts => exact absurd rfl (hp _)
  | provided hw => exact haside hw
  | asideStarts _ hw => exact haside hw
  | asideResumes _ hw => exact haside hw
  | _ => exact ⟨by simp, by simp⟩

/-- What has nothing to do with the monitor goes on having nothing to do with
it. -/
theorem Passage.of_isAside {v : Wait} (h : Passage m (.waiting v) a m' w) (hv : v.isAside) :
    m' = m ∧ ∀ v', w = some v' → v'.isAside := by
  cases h with
  | asideResumes _ hw => exact ⟨rfl, hw⟩
  | _ => cases hv

/-- While nobody holds the lock no call is opening a session. -/
theorem Guarded.not_connecting {run : Calls} {id : Nat}
    (hg : Guarded run.monitor run.waiting) (hfree : run.monitor.locked = false)
    (hp : run.progress id = some p) (q : Purpose) : p ≠ .waiting (.connecting q) := by
  rintro rfl
  have hlocked := hg.locked_iff.2 ⟨id, connects_waiting_iff.2 ⟨q, hp⟩⟩
  rw [hfree] at hlocked
  cases hlocked

/-! ## After the end -/

/-- The watch is over and has left nothing behind. -/
structure Gone (run : Calls) : Prop where
  bounded : run.Bounded
  guarded : Guarded run.monitor run.waiting
  released : Released run.monitor
  settings : run.monitor.settings = none

/-- **What is gone stays gone.** -/
theorem Gone.apply {run next : Calls} {move : Move Call Answer} (h : Gone run)
    (hm : run.apply system move = some next) : Gone next := by
  obtain ⟨hbounded, hguarded, hreleased, hsettings⟩ := h
  rcases quiet_or_passes hbounded hm with hq | ⟨id, p, a, hp⟩
  · have hmonitor : next.monitor = run.monitor := hq.monitor
    have hwaiting : next.waiting = run.waiting := hq.waiting
    refine ⟨hbounded.apply hm, ?_, ?_, ?_⟩
    · rw [hmonitor, hwaiting]
      exact hguarded
    · rw [hmonitor]
      exact hreleased
    · rw [hmonitor]
      exact hsettings
  · have hfree := hguarded.not_connecting hreleased.locked hp.progress
    refine ⟨hbounded.apply hm, hguarded.passes hp, hp.passage.released hreleased hfree, ?_⟩
    rcases hp.passage.settings_of_isClosed hreleased.closed with hsame | hnone
    · exact hsame.trans hsettings
    · exact hnone

/-- **After the end nothing is asked of the provider, and no query begins.** -/
theorem Gone.asks_nothing {t : Moment} (h : Gone t.before)
    (hm : t.before.apply system t.move = some t.after) :
    asksSession t = false ∧ asksQuery t = false := by
  obtain ⟨hbounded, hguarded, hreleased, -⟩ := h
  rcases quiet_or_passes hbounded hm with hq | ⟨id, p, a, hp⟩
  · simp [asksSession, asksQuery, Transition.next, Transition.stretch?, hq.cause]
  · have hfree := hguarded.not_connecting hreleased.locked hp.progress
    obtain ⟨hsession, hquery⟩ := hp.passage.next_of_released hreleased hfree
    refine ⟨?_, ?_⟩
    · unfold asksSession
      split
      · rename_i q heq
        exact absurd heq (hsession q)
      · rfl
    · unfold asksQuery
      split
      · rename_i s heq
        exact absurd heq (hquery s)
      · rfl

/-! ## The call that ends the watch -/

/-- **How far the call that ends the watch has come**, by what it waits for. -/
inductive Stage (m : Monitor) : Option Wait → Prop
  /-- It wants the lock. -/
  | begun : Stage m (some (.monitorLock .shut))
  /-- It has given up the session in use, and closes it. -/
  | released {s : Nat} : Released m → Stage m (some (.shutting s))
  /-- It has forgotten what the node said of itself. -/
  | cleared {w : Option Wait} : Released m → m.settings = none →
      (∀ v, w = some v → v = .closingProvider ∨ v.isAside) → Stage m w

/-- The call with this id has ended the watch, and goes on. -/
structure Ending (id : Nat) (run : Calls) : Prop where
  bounded : run.Bounded
  begun : run.Begun id
  guarded : Guarded run.monitor run.waiting
  closed : run.monitor.isClosed
  stage : Stage run.monitor (run.waiting id)

/-- The call that ends the watch goes on by one stage. -/
theorem Stage.goes_on {v : Wait} (h : Stage m (some v)) (hclosed : m.isClosed)
    (hpassage : Passage m (.waiting v) a m' w) : Stage m' w := by
  have hclosed' := hpassage.isClosed hclosed
  cases h with
  | begun =>
    cases hpassage with
    | @shuts s hfree hs =>
      have hlocked : (m.abandon s).locked = false := by simpa using hfree
      have hslot : (m.abandon s).slot = none := by simp [Monitor.abandon, hs]
      exact .released ⟨hclosed', hslot, hlocked⟩
    | shutsNone hfree hs =>
      have hlocked : m.locked = false := by simpa using hfree
      exact .cleared ⟨hclosed', hs, hlocked⟩ rfl (by simp)
    | asideResumes hv => cases hv
  | released hreleased =>
    cases hpassage with
    | cleared => exact .cleared ⟨hclosed', hreleased.slot, hreleased.locked⟩ rfl (by simp)
    | asideResumes hv => cases hv
  | cleared hreleased hsettings hv =>
    rcases hv v rfl with rfl | haside
    · cases hpassage with
      | provided hw => exact .cleared hreleased hsettings fun v hv => .inr (hw v hv)
      | asideResumes hv => cases hv
    · obtain ⟨rfl, hw⟩ := hpassage.of_isAside haside
      exact .cleared hreleased hsettings fun v hv => .inr (hw v hv)

/-- What the other calls do does not set it back. -/
theorem Stage.of_other (h : Stage m w) {w' : Option Wait} (hclosed : m.isClosed)
    (hpassage : Passage m p a m' w')
    (hp : m.locked = false → ∀ q, p ≠ .waiting (.connecting q)) : Stage m' w := by
  cases h with
  | begun => exact .begun
  | released hreleased => exact .released (hpassage.released hreleased (hp hreleased.locked))
  | cleared hreleased hsettings hw =>
    refine .cleared (hpassage.released hreleased (hp hreleased.locked)) ?_ hw
    rcases hpassage.settings_of_isClosed hclosed with hsame | hnone
    · exact hsame.trans hsettings
    · exact hnone

/-- **No move stops the end.** -/
theorem Ending.apply {run next : Calls} {move : Move Call Answer} {id : Nat}
    (h : Ending id run) (hm : run.apply system move = some next) : Ending id next := by
  obtain ⟨hbounded, hbegun, hguarded, hclosed, hstage⟩ := h
  rcases quiet_or_passes hbounded hm with hq | ⟨i, p, a, hp⟩
  · have hmonitor : next.monitor = run.monitor := hq.monitor
    have hwaiting : next.waiting = run.waiting := hq.waiting
    refine ⟨hbounded.apply hm, hbegun.apply hbounded hm, ?_, ?_, ?_⟩
    · rw [hmonitor, hwaiting]
      exact hguarded
    · rw [hmonitor]
      exact hclosed
    · rw [hmonitor, hwaiting]
      exact hstage
  · refine ⟨hbounded.apply hm, hbegun.apply hbounded hm, hguarded.passes hp,
      hp.passage.isClosed hclosed, ?_⟩
    -- The end goes on by one stage if its own call went on; else it stays at its stage.
    by_cases hid : i = id
    · subst hid
      have hself : next.waiting i = _ := hp.waiting_self
      obtain ⟨v, rfl⟩ : ∃ v, p = .waiting v := by
        cases p with
        | fresh c => exact absurd hp.progress (hbegun.2 c)
        | waiting v => exact ⟨v, rfl⟩
      rw [Run.waiting_eq_some_iff.2 hp.progress] at hstage
      rw [hself]
      exact hstage.goes_on hclosed hp.passage
    · have hother : next.waiting id = run.waiting id := hp.waiting_of_ne (Ne.symm hid)
      rw [hother]
      exact hstage.of_other hclosed hp.passage fun hfree =>
        hguarded.not_connecting hfree hp.progress

/-- **Once the call that ended the watch is over, nothing is left.** -/
theorem Ending.gone {run : Calls} {id : Nat} (h : Ending id run)
    (hover : run.progress id = none) : Gone run := by
  obtain ⟨hbounded, -, hguarded, -, hstage⟩ := h
  rw [Run.waiting_eq_none_of_progress hover] at hstage
  cases hstage with
  | cleared hreleased hsettings => exact ⟨hbounded, hguarded, hreleased, hsettings⟩

/-- A move that the call does not stop at leaves what is remembered, or forgets
it, and leaves the adapter. -/
theorem Ending.keeps {t : Moment} {id : Nat} (h : Ending id t.before)
    (hm : t.before.apply system t.move = some t.after) :
    (t.after.monitor.settings = t.before.monitor.settings ∨
      t.after.monitor.settings = none) ∧
      t.after.monitor.outfit = t.before.monitor.outfit := by
  rcases quiet_or_passes h.bounded hm with hq | ⟨i, p, a, hp⟩
  · rw [hq.monitor]
    exact ⟨.inl rfl, rfl⟩
  · refine ⟨hp.passage.settings_of_isClosed h.closed, ?_⟩
    rcases hp.passage.outfit with he | ⟨-, hopen, -⟩
    · exact he
    · exact absurd h.closed hopen

/-! ## The end -/

theorem Passage.of_close (h : Passage m (.fresh .close) a m' w) (hopen : ¬ m.isClosed) :
    m' = m.finish ∧ w = some (.monitorLock .shut) := by
  cases h with
  | closedBefore hclosed => exact absurd hclosed hopen
  | closes => exact ⟨rfl, rfl⟩
  | readAtOnce hc => cases hc
  | readSeeks hc => cases hc
  | asideStarts hc => cases hc

/-- The first stretch of a call that ends the watch. -/
theorem ending_of_start {run next : Calls} {id : Nat} (hbounded : run.Bounded)
    (hguarded : Guarded run.monitor run.waiting)
    (hcall : run.progress id = some (.fresh .close)) (hopen : run.monitor.isClosed = false)
    (hm : run.apply system (.start id) = some next) :
    Ending id next ∧ next.monitor = run.monitor.finish := by
  have hcause : Transition.cause ⟨run, (.start id : Move Call Answer), next⟩ =
      some (.fresh .close, none) := by
    simp [Transition.cause, hcall]
  rcases quiet_or_passes hbounded hm with hq | ⟨i, p, a, hp⟩
  · rw [hq.cause] at hcause
    cases hcause
  · obtain rfl : id = i := Option.some.inj hp.caller
    obtain ⟨rfl, rfl⟩ := hp.eq_of_cause hcause
    obtain ⟨hfinish, hnext⟩ := hp.passage.of_close (by simp [hopen])
    have hmonitor : next.monitor = run.monitor.finish := hfinish
    have hwaiting : next.waiting id = some (.monitorLock .shut) := hp.waiting_self.trans hnext
    have hprogress := Run.waiting_eq_some_iff.1 hwaiting
    refine ⟨⟨hbounded.apply hm, ⟨?_, ?_⟩, hguarded.passes hp, ?_, ?_⟩, hmonitor⟩
    · exact Nat.lt_of_lt_of_le (hbounded.lt_of_progress hcall) (Run.nextId_le_apply hm)
    · simp [hprogress]
    · rw [hmonitor]
      rfl
    · rw [hwaiting]
      exact .begun

/-- The adapter is left as it is from the end on. -/
theorem Ending.outfit_eq {start run : Calls} {past : List Moment} {id : Nat}
    (h : Execution system start past run) (hending : Ending id start) :
    run.monitor.outfit = start.monitor.outfit := by
  have hboth : Ending id run ∧ run.monitor.outfit = start.monitor.outfit := by
    refine h.invariant (I := fun r => Ending id r ∧ r.monitor.outfit = start.monitor.outfit)
      ⟨hending, rfl⟩ fun r move next hr hm => ⟨hr.1.apply hm, ?_⟩
    have hkeeps : next.monitor.outfit = r.monitor.outfit :=
      (Ending.keeps (t := ⟨r, move, next⟩) hr.1 hm).2
    exact hkeeps.trans hr.2
  exact hboth.2

/-- **The end of a watch is the end.** In any history let the call `id` end the
watch, let moves be made until some point, and further moves after it. The
watch is over ever since, nothing more was remembered and no adapter put to
use. If the call was over at that point then no session is in use ever since,
the monitor listens nowhere, every session that it was ever given is over,
nothing is remembered, and since that point it asked for no session and began
no query. -/
theorem ended_for_good {id call : Nat} {catalog : Catalog} {past meanwhile later : List Moment}
    {before ended mid run : Calls} (hbefore : History id catalog past before)
    (hcall : before.progress call = some (.fresh .close))
    (hopen : before.monitor.isClosed = false)
    (hstart : before.apply system (.start call) = some ended)
    (hmeanwhile : Execution system ended meanwhile mid)
    (hlater : Execution system mid later run) :
    run.monitor.phase = .closed ∧
    (∀ t ∈ meanwhile ++ later, t.after.monitor.settings = t.before.monitor.settings ∨
      t.after.monitor.settings = none) ∧
    run.monitor.adapter = before.monitor.adapter ∧
    run.monitor.built = before.monitor.built ∧
    (mid.progress call = none →
      run.monitor.slot = none ∧
      run.monitor.hasListener = false ∧
      (∀ (s : Nat) (q : QuerySession), run.monitor.sessions[s]? = some q →
        q.listeners.entries = []) ∧
      (∀ s ∈ obtained (past ++ ⟨before, .start call, ended⟩ :: meanwhile ++ later),
        Monitor.Over run.monitor s) ∧
      run.monitor.isUp = false ∧
      ∀ t ∈ later, asksSession t = false ∧ asksQuery t = false) := by
  have hsince : Execution system ended (meanwhile ++ later) run := hmeanwhile.trans hlater
  obtain ⟨hending, hfinish⟩ := ending_of_start (hbefore.bounded (Run.bounded_idle _))
    (held hbefore).guarded hcall hopen hstart
  have hends {moves : List Moment} {r : Calls} (h : Execution system ended moves r) :
      Ending call r :=
    h.invariant hending fun _ _ _ hr hm => hr.apply hm
  have houtfit : run.monitor.outfit = before.monitor.outfit := by
    rw [Ending.outfit_eq hsince hending, hfinish]
    rfl
  refine ⟨isClosed_iff.1 (hends hsince).closed, fun t ht => ?_,
    congrArg Monitor.Outfit.adapter houtfit, congrArg Monitor.Outfit.built houtfit,
    fun hover => ?_⟩
  · obtain ⟨moves, hmoves, hm⟩ := hsince.of_mem ht
    exact ((hends hmoves).keeps hm).1
  · have hgone {moves : List Moment} {r : Calls} (h : Execution system mid moves r) : Gone r :=
      h.invariant ((hends hmeanwhile).gone hover) fun _ _ _ hr hm => hr.apply hm
    obtain ⟨-, -, ⟨-, hslot, -⟩, hsettings⟩ := hgone hlater
    have hwhole : History id catalog
        (past ++ ⟨before, .start call, ended⟩ :: meanwhile ++ later) run := by
      simpa using (hbefore.move hstart).trans hsince
    obtain ⟨-, hlistening, hkept⟩ := held hwhole
    refine ⟨hslot, (hlistening.of_none hslot).1, fun s q hq => ?_, fun s hs => ?_, ?_,
      fun t ht => ?_⟩
    · exact hlistening.elsewhere s q hq (by simp [hslot])
    · exact (hkept s hs).2.resolve_left (by simp [hslot])
    · simp [Monitor.isUp, hsettings]
    · obtain ⟨moves, hmoves, hm⟩ := hlater.of_mem ht
      exact (hgone hmoves).asks_nothing hm

/-- A probe asks for a session, and then the watch is to end. -/
def probeBeforeEnd : List (Move Call Answer) :=
  [.submit .probe, .start 0, .resume 0 .granted, .submit .close]

/-- The probe gets its session only then, so the end takes it away. -/
def sessionDuringEnd : List (Move Call Answer) :=
  [.submit .sessionOpened, .start 2, .resume 0 (.session (some 0)), .resume 1 .granted,
    .resume 1 .closed, .resume 1 .closed]

/-- A session that a probe was given while the watch ended is over then, and a
row that the probe is answered is not remembered. -/
theorem late_session_ended_for_good : ∃ (before ended mid run : Calls)
    (past meanwhile later : List Moment),
    History 1 .standard past before ∧ before.progress 1 = some (.fresh .close) ∧
    before.monitor.isClosed = false ∧ before.apply system (.start 1) = some ended ∧
    Execution system ended meanwhile mid ∧ Execution system mid later run ∧
    mid.progress 1 = none ∧ obtained meanwhile = [0] ∧ run.monitor.phase = .closed ∧
    Monitor.Over run.monitor 0 ∧ run.monitor.isUp = false := by
  obtain ⟨before, hbefore, hcall, hopen, ended, hstart, mid, hmid, hover, hobtained, run, hrun⟩ :
      ∃ before, (Run.idle (Node.fresh 1 .standard)).applyAll system probeBeforeEnd =
        some before ∧ before.progress 1 = some (.fresh .close) ∧
      before.monitor.isClosed = false ∧ ∃ ended, before.apply system (.start 1) = some ended ∧
      ∃ mid, ended.applyAll system sessionDuringEnd = some mid ∧ mid.progress 1 = none ∧
      obtained (ended.transitions system sessionDuringEnd) = [0] ∧
      ∃ run, mid.applyAll system [.resume 0 (.rows (.ok []))] = some run :=
    ⟨_, rfl, rfl, rfl, _, rfl, _, rfl, rfl, rfl, _, rfl⟩
  have hpast := execution_of_applyAll hbefore
  have hmeanwhile := execution_of_applyAll hmid
  have hlater := execution_of_applyAll hrun
  obtain ⟨hphase, -, -, -, hgone⟩ := ended_for_good hpast hcall hopen hstart hmeanwhile hlater
  obtain ⟨-, -, -, hsessions, hup, -⟩ := hgone hover
  refine ⟨before, ended, mid, run, _, _, _, hpast, hcall, hopen, hstart, hmeanwhile, hlater,
    hover, hobtained, hphase, hsessions 0 ?_, hup⟩
  have hmem : 0 ∈ obtained (ended.transitions system sessionDuringEnd) := by simp [hobtained]
  obtain ⟨t, ht, hobtains⟩ := List.mem_filterMap.1 hmem
  exact List.mem_filterMap.2 ⟨t, by simp [ht], hobtains⟩

end NodeSidecar.Node
