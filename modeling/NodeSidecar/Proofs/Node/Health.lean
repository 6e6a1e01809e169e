import NodeSidecar.Proofs.Node.Readers
import NodeSidecar.Proofs.Node.Sessions
/-!
# Node — how the node is doing

The phase of a monitor and what it remembers of the node are two places, and
three kinds of stretches write to them: a probe that succeeds, one that fails,
and word that the node is down. `Tells` lists what any stretch does to the two
together. In every history the monitor remembers something exactly while the
phase is healthy, until the watch is over.
-/

namespace NodeSidecar.Node

open Monitor (Listening)

variable {m m' : Monitor} {p : Progress Call Wait} {a : Option Answer} {w : Option Wait}

/-- The row that a query is answered with, if it is complete. -/
def CompleteRow (p : Progress Call Wait) (a : Option Answer) (settings : NodeSettings) : Prop :=
  ∃ s r, p = .waiting (.querying s) ∧ a = some (.rows r) ∧
    r.bind NodeSettings.ofRows = .ok (some settings)

/-- A stretch of the call that ends the watch gives the settings up. -/
def ClearsSettings (p : Progress Call Wait) : Prop :=
  p = .waiting (.monitorLock .shut) ∨ ∃ s, p = .waiting (.shutting s)

/-- What a stretch tells of how the node is doing. -/
inductive Tells (m m' : Monitor) (p : Progress Call Wait) (a : Option Answer) : Prop
  /-- Nothing. -/
  | nothing : m'.phase = m.phase → m'.settings = m.settings → Tells m m' p a
  /-- The first session is being opened. -/
  | connecting : m.phase = .uninitialized → m'.phase = .connecting →
      m'.settings = m.settings → Tells m m' p a
  /-- The node is down. -/
  | down : m'.phase = (if m.isClosed then m.phase else .down) → m'.settings = none →
      Tells m m' p a
  /-- The node is up. -/
  | healthy (settings : NodeSettings) : ¬ m.isClosed → CompleteRow p a settings →
      m'.phase = .healthy → m'.settings = some settings → Tells m m' p a
  /-- The watch is over. -/
  | ends : m'.phase = .closed → m'.settings = m.settings → p = .fresh .close → Tells m m' p a
  /-- Nothing more, now that the watch is over. -/
  | clears : ClearsSettings p → m'.phase = m.phase → m'.settings = none → Tells m m' p a

theorem tells_of_apart (he : m'.apart = m.apart) : Tells m m' p a :=
  .nothing (Monitor.phase_eq_of_apart he) (Monitor.settings_eq_of_apart he)

theorem tells_without {d : Monitor} (he : d.apart = m.apart) (q : Purpose) :
    Tells m (d.without q) p a := by
  cases q with
  | session => exact tells_of_apart he
  | settings => exact tells_of_apart he
  | probe =>
    have hphase : (d.without .probe).phase = if d.isClosed then d.phase else .down :=
      d.phase_markDown _
    rw [Monitor.isClosed_eq_of_apart he, Monitor.phase_eq_of_apart he] at hphase
    exact .down hphase (d.settings_markDown _)

theorem tells_beginConnect (hopen : ¬ m.isClosed) : Tells m (discard m).beginConnect p a := by
  have hapart : (discard m).lock.apart = m.apart := apart_discard m
  have hphase := Monitor.phase_eq_of_apart hapart
  have hsettings := Monitor.settings_eq_of_apart hapart
  have hclosed := Monitor.isClosed_eq_of_apart hapart
  unfold Monitor.beginConnect
  split
  · rename_i hun
    refine .connecting (hphase ▸ hun) ?_ ?_
    · rw [Monitor.phase_enter, hclosed, if_neg hopen]
    · rw [Monitor.settings_enter, hsettings]
  · exact .nothing hphase hsettings

theorem tells_markDown (reason : String) : Tells m (m.markDown reason) p a :=
  .down (m.phase_markDown reason) (m.settings_markDown reason)

/-- That a probe is over tells nothing. -/
theorem Tells.endProbe (h : Tells m m' p a) : Tells m m'.endProbe p a := by
  cases h with
  | nothing hphase hsettings => exact .nothing hphase hsettings
  | connecting hun hphase hsettings => exact .connecting hun hphase hsettings
  | down hphase hsettings => exact .down hphase hsettings
  | healthy st hopen hrow hphase hsettings => exact .healthy st hopen hrow hphase hsettings
  | ends hphase hsettings hp => exact .ends hphase hsettings hp
  | clears hp hphase hsettings => exact .clears hp hphase hsettings

theorem tells_accept {settings : NodeSettings} (hopen : ¬ m.isClosed)
    (hrow : CompleteRow p a settings) : Tells m (m.accept settings) p a := by
  have hphase : (m.accept settings).phase = .healthy := by
    rw [m.phase_accept, if_neg hopen]
  exact .healthy settings hopen hrow hphase (m.settings_accept settings)

/-- **What every stretch tells of how the node is doing.** -/
theorem Passage.tells (h : Passage m p a m' w) : Tells m m' p a := by
  cases h with
  | closes => exact .ends rfl rfl rfl
  | reportedDown => exact .down m.phase_forget m.settings_forget
  | heard => exact .down m.phase_forget m.settings_forget
  | @late q => exact tells_without (apart_discard m) q
  | connects _ _ hopen => exact tells_beginConnect hopen
  | @unreachable q => exact tells_without m.apart_unlock q
  | shutsNone => exact .clears (.inl rfl) rfl rfl
  | cleared => exact .clears (.inr ⟨_, rfl⟩) rfl rfl
  | @accepted s r settings hopen hrow =>
    exact (tells_accept hopen ⟨s, r, rfl, rfl, hrow⟩).endProbe
  | rowless => exact (tells_markDown _).endProbe
  | failed => exact (tells_markDown _).endProbe
  | cutOff => exact tells_markDown _
  | probeSkipped => exact .nothing rfl rfl
  | probeReady => exact .nothing rfl rfl
  | probeSeeks => exact .nothing rfl rfl
  | ignored => exact .nothing rfl rfl
  | dropped => exact .nothing rfl rfl
  | @evicts s => exact tells_of_apart (m.apart_abandon s)
  | @shuts s => exact tells_of_apart (m.apart_abandon s)
  | @adopts q s => exact tells_of_apart (m.apart_adopt s)
  | _ => exact .nothing rfl rfl

theorem isClosed_iff : m.isClosed ↔ m.phase = .closed := by
  simp [Monitor.isClosed]

/-- **A watch that is over stays over.** -/
theorem Passage.isClosed (h : Passage m p a m' w) (hm : m.isClosed) : m'.isClosed := by
  have hover : m.phase = .closed := isClosed_iff.1 hm
  rw [isClosed_iff]
  cases h.tells with
  | nothing hphase => rw [hphase, hover]
  | connecting hun =>
    rw [hover] at hun
    cases hun
  | down hphase => rw [hphase, if_pos hm, hover]
  | healthy st hopen => exact absurd hm hopen
  | ends hphase => exact hphase
  | clears _ hphase => rw [hphase, hover]

/-- **No move starts a watch again** that is over. -/
theorem isClosed_of_apply {run next : Calls} {move : Move Call Answer} (hb : run.Bounded)
    (hm : run.apply system move = some next) (h : run.monitor.isClosed) :
    next.monitor.isClosed := by
  rcases quiet_or_passes hb hm with hq | ⟨id, p, a, hp⟩
  · have hmonitor : next.monitor = run.monitor := hq.monitor
    rw [hmonitor]
    exact h
  · exact hp.passage.isClosed h

/-- What is remembered stays, or is forgotten, or comes from a probe that
succeeds. -/
theorem Tells.settings (h : Tells m m' p a) : m'.settings = m.settings ∨ m'.settings = none ∨
    ∃ settings, ¬ m.isClosed ∧ CompleteRow p a settings := by
  cases h with
  | nothing _ hsettings => exact .inl hsettings
  | connecting _ _ hsettings => exact .inl hsettings
  | down _ hsettings => exact .inr (.inl hsettings)
  | healthy st hopen hrow => exact .inr (.inr ⟨st, hopen, hrow⟩)
  | ends _ hsettings => exact .inl hsettings
  | clears _ _ hsettings => exact .inr (.inl hsettings)

/-- Once the watch is over nothing is remembered any more. -/
theorem Passage.settings_of_isClosed (h : Passage m p a m' w) (hm : m.isClosed) :
    m'.settings = m.settings ∨ m'.settings = none := by
  rcases h.tells.settings with hsame | hnone | ⟨st, hopen, -⟩
  · exact .inl hsame
  · exact .inr hnone
  · exact absurd hm hopen

/-! ## The end under way -/

/-- The call that ends the watch is under way. -/
def IsEnding (w : Option Wait) : Prop :=
  w = some (.monitorLock .shut) ∨ ∃ s, w = some (.shutting s)

/-- **A call ends the watch only after it has said so.** -/
theorem Passage.isClosed_of_isEnding (h : Passage m p a m' w) (hw : IsEnding w)
    (hp : p = .waiting (.monitorLock .shut) → m.isClosed) : m'.isClosed := by
  have hnext {s : Nat} {q : Purpose} : ¬ IsEnding (q.next s) := by
    cases q <;> simp [IsEnding, Purpose.next]
  have haside (hw' : ∀ v, w = some v → v.isAside) : m'.isClosed := by
    rcases hw with rfl | ⟨s, rfl⟩
    · exact absurd (hw' _ rfl) (by simp [Wait.isAside])
    · exact absurd (hw' _ rfl) (by simp [Wait.isAside])
  have hstep := h.isClosed
  cases h with
  | closes => rfl
  | shuts => exact hstep (hp rfl)
  | found => exact absurd hw hnext
  | adopts => exact absurd hw hnext
  | provided hw' => exact haside hw'
  | asideStarts _ hw' => exact haside hw'
  | asideResumes _ hw' => exact haside hw'
  | _ => simp [IsEnding] at hw

/-! ## Steps from phase to phase -/

/-- The first session begins to be opened in a move. -/
def entersConnecting (t : Moment) : Bool :=
  t.before.monitor.phase ≠ .connecting && t.after.monitor.phase = .connecting

/-- **How the phase may change in a move.** -/
structure PhaseStep (t : Moment) : Prop where
  /-- The node is found up only by a probe that is answered with a complete
  row. -/
  healthy : t.before.monitor.phase ≠ .healthy → t.after.monitor.phase = .healthy →
    ∃ settings, stores t = some settings
  /-- Only the first session makes the monitor connect. -/
  connecting : t.before.monitor.phase ≠ .connecting → t.after.monitor.phase = .connecting →
    t.before.monitor.phase = .uninitialized
  /-- What was tried once is not untried again. -/
  uninitialized : t.after.monitor.phase = .uninitialized →
    t.before.monitor.phase = .uninitialized
  /-- A watch that is over stays over. -/
  closed : t.before.monitor.phase = .closed → t.after.monitor.phase = .closed

theorem phaseStep_of_phase_eq {t : Moment} (h : t.after.monitor.phase = t.before.monitor.phase) :
    PhaseStep t where
  healthy hne heq := absurd (h ▸ heq) hne
  connecting hne heq := absurd (h ▸ heq) hne
  uninitialized heq := h ▸ heq
  closed heq := h.trans heq

/-- What a probe is answered with a complete row is stored. -/
theorem Passes.stores_of_completeRow {t : Moment} {id : Nat} {settings : NodeSettings}
    (h : Passes t id p a) (hopen : ¬ t.before.monitor.isClosed)
    (hrow : CompleteRow p a settings) : stores t = some settings := by
  obtain ⟨s, r, rfl, rfl, hr⟩ := hrow
  simp [stores, h.cause, hopen, hr]

/-- **Every move changes the phase as it may.** -/
theorem Passes.phaseStep {t : Moment} {id : Nat} (h : Passes t id p a) : PhaseStep t := by
  have hover := h.passage.isClosed
  rw [isClosed_iff, isClosed_iff] at hover
  cases h.passage.tells with
  | nothing hphase => exact phaseStep_of_phase_eq hphase
  | connecting hun hphase =>
    exact ⟨by simp [hphase], fun _ _ => hun, by simp [hphase], hover⟩
  | down hphase =>
    split at hphase
    · exact phaseStep_of_phase_eq hphase
    · exact ⟨by simp [hphase], by simp [hphase], by simp [hphase], hover⟩
  | healthy st hopen hrow hphase =>
    exact ⟨fun _ _ => ⟨st, h.stores_of_completeRow hopen hrow⟩, by simp [hphase],
      by simp [hphase], hover⟩
  | ends hphase => exact ⟨by simp [hphase], by simp [hphase], by simp [hphase], hover⟩
  | clears _ hphase => exact phaseStep_of_phase_eq hphase

/-! ## What is remembered -/

theorem Passage.eq_accept {s : Nat} {r : Except Fault (List Wire.Row)} {settings : NodeSettings}
    (h : Passage m (.waiting (.querying s)) (some (.rows r)) m' w) (hopen : ¬ m.isClosed)
    (hr : r.bind NodeSettings.ofRows = .ok (some settings)) :
    m' = (m.accept settings).endProbe := by
  cases h with
  | ignored hover => exact absurd hover hopen
  | accepted _ hrow =>
    rw [hr] at hrow
    cases hrow
    rfl
  | rowless _ hrow =>
    rw [hr] at hrow
    cases hrow
  | failed _ hrow =>
    rw [hr] at hrow
    cases hrow
  | cutOff _ hrow =>
    rw [hr] at hrow
    cases hrow
  | asideResumes hv => cases hv

/-- **A probe that succeeds** is one that is answered with a complete row while
the watch goes on. -/
theorem Passes.accepts_of_stores {t : Moment} {id : Nat} {settings : NodeSettings}
    (h : Passes t id p a) (hs : stores t = some settings) :
    t.before.monitor.isClosed = false ∧
      t.after.monitor = (t.before.monitor.accept settings).endProbe := by
  have hpassage := h.passage
  unfold stores at hs
  split at hs
  · rename_i s r heq
    obtain ⟨rfl, rfl⟩ := h.eq_of_cause heq
    split at hs
    · cases hs
    · rename_i hopen
      split at hs
      · rename_i hr
        subst hs
        exact ⟨by simpa using hopen, hpassage.eq_accept hopen hr⟩
      · cases hs
  · cases hs

/-- **A probe that succeeds is remembered**, and finds the node healthy. -/
theorem Passes.healthy_of_stores {t : Moment} {id : Nat} {settings : NodeSettings}
    (h : Passes t id p a) (hs : stores t = some settings) :
    t.after.monitor.settings = some settings ∧ t.after.monitor.phase = .healthy := by
  obtain ⟨hopen, hafter⟩ := h.accepts_of_stores hs
  rw [hafter, Monitor.settings_endProbe, Monitor.phase_endProbe, Monitor.settings_accept,
    Monitor.phase_accept]
  simp [hopen]

/-- Without a probe that succeeds nothing is remembered that was not before. -/
theorem Passes.settings_of_not_stores {t : Moment} {id : Nat} (h : Passes t id p a)
    (hs : stores t = none) : t.after.monitor.settings = t.before.monitor.settings ∨
      t.after.monitor.settings = none := by
  rcases h.passage.tells.settings with hsame | hnone | ⟨st, hopen, hrow⟩
  · exact .inl hsame
  · exact .inr hnone
  · rw [h.stores_of_completeRow hopen hrow] at hs
    cases hs

/-- **What was forgotten stays forgotten until a probe succeeds.** -/
theorem settings_eq_none {start run : Calls} {past : List Moment}
    (h : Execution system start past run) (hb : start.Bounded)
    (hnone : start.monitor.settings = none) (hs : ∀ t ∈ past, stores t = none) :
    run.monitor.settings = none := by
  suffices (∀ t ∈ past, stores t = none) → run.monitor.settings = none from this hs
  refine history_induction (I := fun past run => (∀ t ∈ past, stores t = none) →
    run.monitor.settings = none) h hb (fun _ => hnone) (fun past t ih hq hs => ?_)
    fun past t id p a ih hp hs => ?_
  · rw [hq.monitor]
    exact ih fun t' ht' => hs t' (List.mem_append_left _ ht')
  · have hbefore := ih fun t' ht' => hs t' (List.mem_append_left _ ht')
    rcases hp.settings_of_not_stores (hs t (by simp)) with hsame | hnone
    · rw [hsame, hbefore]
    · exact hnone

theorem Passage.settings_of_refused
    (h : Passage m (.waiting (.monitorLock (.connect .probe))) (some .granted) m' w)
    (hover : m.isClosed) (hnone : m.usable = none) : m'.settings = none := by
  cases h with
  | found _ hs =>
    rw [hnone] at hs
    cases hs
  | late => exact Monitor.settings_markDown _ _
  | connects _ _ hopen => exact absurd hover hopen
  | asideResumes hv => cases hv

theorem Passage.settings_of_unreachable
    (h : Passage m (.waiting (.connecting .probe)) (some (.session none)) m' w) :
    m'.settings = none := by
  cases h with
  | unreachable => exact Monitor.settings_markDown _ _
  | asideResumes hv => cases hv

theorem Passage.settings_of_not_row {s : Nat} {r : Except Fault (List Wire.Row)}
    (h : Passage m (.waiting (.querying s)) (some (.rows r)) m' w) (hopen : ¬ m.isClosed)
    (hr : ∀ settings, r.bind NodeSettings.ofRows ≠ .ok (some settings)) :
    m'.settings = none := by
  cases h with
  | ignored hover => exact absurd hover hopen
  | accepted _ hrow => exact absurd hrow (hr _)
  | rowless => exact Monitor.settings_markDown _ _
  | failed => exact Monitor.settings_markDown _ _
  | cutOff => exact Monitor.settings_markDown _ _
  | asideResumes hv => cases hv

/-- **A probe that fails leaves nothing to remember.** -/
theorem Passes.settings_of_fails {t : Moment} {id : Nat} (h : Passes t id p a)
    (hf : fails t = true) : t.after.monitor.settings = none := by
  have hpassage := h.passage
  unfold fails at hf
  split at hf
  · rename_i heq
    obtain ⟨rfl, rfl⟩ := h.eq_of_cause heq
    simp only [Bool.and_eq_true, Option.isNone_iff_eq_none] at hf
    exact hpassage.settings_of_refused hf.1 hf.2
  · rename_i s heq
    obtain ⟨rfl, rfl⟩ := h.eq_of_cause heq
    obtain rfl : s = none := by simpa using hf
    exact hpassage.settings_of_unreachable
  · rename_i s r heq
    obtain ⟨rfl, rfl⟩ := h.eq_of_cause heq
    simp only [Bool.and_eq_true, Bool.not_eq_true', Option.isNone_iff_eq_none] at hf
    have hopen : ¬ t.before.monitor.isClosed := by simp [hf.1]
    refine hpassage.settings_of_not_row hopen fun settings hrow => ?_
    rw [h.stores_of_completeRow hopen ⟨s, r, rfl, rfl, hrow⟩] at hf
    exact absurd hf.2 nofun
  · cases hf

/-- **The probes that fail are those that are counted.** -/
theorem Passage.failures (h : Passage m p a m' w) {t : Moment} (hc : t.cause = some (p, a))
    (hm : t.before.monitor = m) :
    m'.counts.failures = m.counts.failures + if fails t then 1 else 0 := by
  have hkeeps (he : m'.counts.failures = m.counts.failures) (hf : fails t = false) :
      m'.counts.failures = m.counts.failures + if fails t then 1 else 0 := by
    simp [he, hf]
  have hdiscard : (discard m).counts = m.counts := Monitor.counts_eq_of_apart (apart_discard m)
  cases h with
  | @late q _ hnone hover => cases q <;> simp [fails, hc, hm, hnone, hover, hdiscard]
  | @connects q _ _ hopen => cases q <;> simp [fails, hc, hm, hopen, hdiscard]
  | @found q s _ hs => cases q <;> simp [fails, hc, hm, hs]
  | @unreachable q => cases q <;> simp [fails, hc, Monitor.unlock]
  | @adopts q s =>
    have hcounts : (m.adopt s).unlock.counts = m.counts := 
      Monitor.counts_eq_of_apart (m.apart_adopt s)
    cases q <;> simp [fails, hc, hcounts]
  | @evicts s =>
    have hcounts := Monitor.counts_eq_of_apart (m.apart_abandon s)
    exact hkeeps (congrArg Counts.failures hcounts) (by simp [fails, hc])
  | @shuts s =>
    have hcounts := Monitor.counts_eq_of_apart (m.apart_abandon s)
    exact hkeeps (congrArg Counts.failures hcounts) (by simp [fails, hc])
  | ignored hover => exact hkeeps rfl (by simp [fails, hc, hm, hover])
  | accepted hopen hrow => simp [fails, stores, hc, hm, hopen, hrow]
  | rowless hopen hrow => simp [fails, stores, hc, hm, hopen, hrow]
  | failed hopen hrow => simp [fails, stores, hc, hm, hopen, hrow]
  | cutOff hopen hrow => simp [fails, stores, hc, hm, hopen, hrow]
  | heard => simp [fails, hc]
  | reportedDown => simp [fails, hc]
  | @asideResumes v _ _ hv =>
    refine hkeeps rfl ?_
    cases v <;> simp_all [fails, Wait.isAside]
  | _ => exact hkeeps rfl (by simp [fails, hc])

/-- The listener on the session in use hears that the node is down. -/
theorem hears_down {s : Nat} {e : Host.Event} (hl : Listening m) (hs : m.slot = some s)
    (he : e.change = .down) : hears m s e := by
  obtain ⟨-, i, q, -, hq, hentries⟩ := hl.of_some s hs
  simp [hears, listenersOf, hq, Host.Listeners.reactions, hentries, he, monitorListener,
    Host.Listener.reaction]

theorem Passage.settings_of_reportDown (h : Passage m (.fresh .reportDown) a m' w) :
    m'.settings = none := by
  cases h with
  | reportedDown => exact Monitor.settings_forget _
  | readAtOnce hc => cases hc
  | readSeeks hc => cases hc
  | asideStarts hc => cases hc

theorem Passage.settings_of_hears {s : Nat} {e : Host.Event}
    (h : Passage m (.fresh (.event s e)) a m' w) (hh : hears m s e) : m'.settings = none := by
  cases h with
  | heard => exact Monitor.settings_forget _
  | unheard hno => exact absurd hh hno
  | readAtOnce hc => cases hc
  | readSeeks hc => cases hc
  | asideStarts hc => cases hc

/-- **Word that the node is down leaves nothing to remember.** -/
theorem Passes.settings_of_tellsDown {t : Moment} {id : Nat} (h : Passes t id p a)
    (hl : Listening t.before.monitor) (hd : tellsDown t = true) :
    t.after.monitor.settings = none := by
  have hpassage := h.passage
  unfold tellsDown at hd
  split at hd
  · rename_i heq
    obtain ⟨rfl, rfl⟩ := h.eq_of_cause heq
    exact hpassage.settings_of_reportDown
  · rename_i s e _ heq
    obtain ⟨rfl, rfl⟩ := h.eq_of_cause heq
    simp only [Bool.and_eq_true, decide_eq_true_eq] at hd
    exact hpassage.settings_of_hears (hears_down hl hd.1 hd.2)
  · cases hd

/-! ## The invariant -/

/-- The monitor remembers something just when its phase is healthy, as long as
the watch goes on. -/
def Agrees (m : Monitor) : Prop :=
  m.phase ≠ .closed → (m.isUp = true ↔ m.phase = .healthy)

/-- What holds of the phase after every history. -/
structure Accounted (past : List Moment) (run : Calls) : Prop where
  ending : ∀ i, IsEnding (run.waiting i) → run.monitor.isClosed
  agrees : Agrees run.monitor
  steps : ∀ t ∈ past, PhaseStep t
  connecting : past.countP entersConnecting ≤
    if run.monitor.phase = .uninitialized then 0 else 1

theorem Passage.agrees (h : Passage m p a m' w) (hm : Agrees m)
    (hp : ClearsSettings p → m.isClosed) : Agrees m' := by
  unfold Agrees Monitor.isUp at *
  cases h.tells with
  | nothing hphase hsettings =>
    rw [hphase, hsettings]
    exact hm
  | connecting hun hphase hsettings =>
    have hnone : ¬ m.settings.isSome = true := by simp [hm (by simp [hun]), hun]
    rw [hphase, hsettings]
    exact fun _ => iff_of_false hnone (by simp)
  | down hphase hsettings =>
    intro hne
    rw [hphase] at hne ⊢
    split at hne
    · rename_i hover
      exact absurd (isClosed_iff.1 hover) hne
    · rename_i hopen
      simp [hsettings, hopen]
  | healthy st _ _ hphase hsettings => simp [hphase, hsettings]
  | ends hphase => exact fun hne => absurd hphase hne
  | clears hclears hphase =>
    exact fun hne => absurd (hphase.trans (isClosed_iff.1 (hp hclears))) hne

theorem Accounted.quiet {past : List Moment} {t : Moment} (hh : Accounted past t.before)
    (h : Quiet t) : Accounted (past ++ [t]) t.after := by
  obtain ⟨hending, hagrees, hsteps, hcount⟩ := hh
  have hsame : t.after.monitor.phase = t.before.monitor.phase := by rw [h.monitor]
  have henters : entersConnecting t = false := by simp [entersConnecting, hsame]
  refine ⟨?_, ?_, ?_, ?_⟩
  · rw [h.waiting, h.monitor]
    exact hending
  · rw [h.monitor]
    exact hagrees
  · simp only [List.mem_append, List.mem_singleton]
    rintro t' (ht' | rfl)
    · exact hsteps t' ht'
    · exact phaseStep_of_phase_eq hsame
  · simpa [hsame, henters] using hcount

theorem Accounted.passes {past : List Moment} {t : Moment} {id : Nat}
    (hh : Accounted past t.before) (h : Passes t id p a) : Accounted (past ++ [t]) t.after := by
  obtain ⟨hending, hagrees, hsteps, hcount⟩ := hh
  have hwaits {v : Wait} (hp : p = .waiting v) : t.before.waiting id = some v :=
    Run.waiting_eq_some_iff.2 (hp ▸ h.progress)
  have hstep := h.phaseStep
  refine ⟨fun i hi => ?_, ?_, ?_, ?_⟩
  -- The call that went on may be the one that ends the watch; the others stay where they were.
  · by_cases hid : i = id
    · subst hid
      rw [h.waiting_self] at hi
      exact h.passage.isClosed_of_isEnding hi fun hp => hending i (.inl (hwaits hp))
    · rw [h.waiting_of_ne hid] at hi
      exact h.passage.isClosed (hending i hi)
  · refine h.passage.agrees hagrees ?_
    rintro (hp | ⟨s, hp⟩)
    · exact hending id (.inl (hwaits hp))
    · exact hending id (.inr ⟨s, hwaits hp⟩)
  · simp only [List.mem_append, List.mem_singleton]
    rintro t' (ht' | rfl)
    · exact hsteps t' ht'
    · exact hstep
  -- Whoever enters comes from the first phase, up to which nobody has entered.
  · rw [List.countP_append, List.countP_singleton]
    by_cases henters : entersConnecting t = true
    · simp only [entersConnecting, Bool.and_eq_true, decide_eq_true_eq] at henters
      have hun := hstep.connecting henters.1 henters.2
      have hne : t.after.monitor.phase ≠ .uninitialized := by simp [henters.2]
      rw [if_pos hun] at hcount
      rw [if_neg hne, if_pos (by simp [entersConnecting, henters])]
      omega
    · rw [if_neg henters]
      by_cases hun : t.after.monitor.phase = .uninitialized
      · rw [if_pos hun]
        rwa [if_pos (hstep.uninitialized hun)] at hcount
      · rw [if_neg hun]
        split at hcount <;> omega

/-- **Every history accounts for the phase.** -/
theorem accounted {id : Nat} {catalog : Catalog} {past : List Moment} {run : Calls}
    (h : History id catalog past run) : Accounted past run := by
  refine history_induction h (Run.bounded_idle _) ?_ (fun _ _ hh hq => hh.quiet hq)
    fun _ _ _ _ _ hh hp => hh.passes hp
  refine ⟨fun i hi => ?_, fun _ => ?_, by simp, by simp⟩
  · simp [IsEnding] at hi
  · simp [Run.monitor, Run.idle, Node.fresh, Monitor.fresh, Monitor.isUp]

/-- A move of a history lets no call go on, or lets one pass. -/
theorem quiet_or_passes_of_mem {id : Nat} {catalog : Catalog} {past : List Moment} {run : Calls}
    {t : Moment} (h : History id catalog past run) (ht : t ∈ past) :
    Quiet t ∨ ∃ i p a, Passes t i p a := by
  obtain ⟨earlier, he, hm⟩ := h.of_mem ht
  exact quiet_or_passes (he.bounded (Run.bounded_idle _)) hm

/-- A move that tells that the node is down leaves nothing to remember. -/
theorem settings_of_down {id : Nat} {catalog : Catalog} {earlier : List Moment} {t : Moment}
    {run : Calls} (h : History id catalog (earlier ++ [t]) run)
    (hdown : fails t = true ∨ tellsDown t = true) : run.monitor.settings = none := by
  obtain ⟨hbefore, hm, rfl⟩ := h.of_concat
  rcases quiet_or_passes (hbefore.bounded (Run.bounded_idle _)) hm with hq | ⟨i, p, a, hp⟩
  · simp [fails, tellsDown, hq.cause] at hdown
  · rcases hdown with hf | hd
    · exact hp.settings_of_fails hf
    · exact hp.settings_of_tellsDown (held hbefore).listening hd

/-- **How the node is doing is what the probes and the word of it say**, after
every history. While the watch goes on the monitor remembers something just when
its phase is healthy; every move changes the phase as it may, and at most one
makes the monitor connect. A probe that succeeds is remembered; nothing is
remembered before one has, nor after one has failed or the node was reported
down until one succeeds again. Readers are told what is remembered. -/
theorem health_follows_probes {id : Nat} {catalog : Catalog} {past : List Moment} {run : Calls}
    (h : History id catalog past run) :
    (run.monitor.phase ≠ .closed → (run.monitor.isUp = true ↔ run.monitor.phase = .healthy)) ∧
    (∀ t ∈ past, PhaseStep t) ∧
    past.countP entersConnecting ≤ 1 ∧
    (∀ t ∈ past, ∀ settings, stores t = some settings →
      t.after.monitor.settings = some settings ∧ t.after.monitor.phase = .healthy) ∧
    (∀ t ∈ past, t.after.monitor.counts.failures =
      t.before.monitor.counts.failures + if fails t then 1 else 0) ∧
    ((∀ t ∈ past, stores t = none) → run.monitor.settings = none) ∧
    (∀ earlier t later, past = earlier ++ t :: later → fails t = true ∨ tellsDown t = true →
      (∀ t' ∈ later, stores t' = none) → run.monitor.settings = none) ∧
    ∀ t ∈ past, ∀ settings, t.result system = some (.settings settings) →
      settings = t.after.monitor.settings := by
  obtain ⟨-, hagrees, hsteps, hcount⟩ := accounted h
  have hbounded : (Run.idle (Node.fresh id catalog) : Calls).Bounded := Run.bounded_idle _
  refine ⟨hagrees, hsteps, ?_, fun t ht settings hs => ?_, fun t ht => ?_, fun hs => ?_, ?_, ?_⟩
  · split at hcount <;> omega
  · rcases quiet_or_passes_of_mem h ht with hq | ⟨i, p, a, hp⟩
    · simp [stores, hq.cause] at hs
    · exact hp.healthy_of_stores hs
  · rcases quiet_or_passes_of_mem h ht with hq | ⟨i, p, a, hp⟩
    · simp [fails, hq.cause, hq.monitor]
    · exact hp.passage.failures hp.cause rfl
  · exact settings_eq_none h hbounded rfl hs
  · rintro earlier t later rfl hdown hs
    rw [List.append_cons] at h
    obtain ⟨mid, hmid, hlater⟩ := h.exists_mid
    have hdown' := settings_of_down hmid hdown
    exact settings_eq_none hlater (hmid.bounded hbounded) hdown' hs
  · intro t ht settings hr
    obtain ⟨earlier, -, hm⟩ := h.of_mem ht
    exact settings_of_result hm hr

/-- A probe opens a session and is answered with one row. -/
def firstProbe (row : Wire.Row) : List (Move Call Answer) :=
  [.submit .probe, .start 0, .resume 0 .granted, .submit .sessionOpened, .start 1,
    .resume 0 (.session (some 0)), .resume 0 (.rows (.ok [row]))]

/-- A node that a probe has found up is healthy. -/
theorem healthy_after_first_probe : ∃ past run, History 1 .standard past run ∧
    run.monitor.phase = .healthy ∧ run.monitor.isUp = true := by
  have hmoves : (Run.idle (Node.fresh 1 .standard)).applyAll system (firstProbe
    (.ofTexts [("release_version", "4.0.0"), ("partitioner", "Murmur3")])) = some _ := rfl
  have hpast := execution_of_applyAll hmoves
  obtain ⟨hup, -⟩ := health_follows_probes hpast
  exact ⟨_, _, hpast, rfl, (hup nofun).2 rfl⟩

end NodeSidecar.Node
