import NodeSidecar.Proofs.Node.Closing
import NodeSidecar.Proofs.Node.Probes
/-!
# Node — a session that failed

A probe whose query fails for want of a connection gives up the session it was
on: it waits for the lock, takes the session out of use if it still is the one
in use, and closes it (`Discarding`). Meanwhile no other probe runs, so nothing
is remembered and the node stays down until the probe is over; a session that
another call puts to use meanwhile is not touched (`Spares`).
-/

namespace NodeSidecar

namespace Monitor

variable {m : Monitor} {s s' : Nat}

/-- Giving up a session leaves the other sessions alone. -/
theorem getElem?_abandon_of_ne (h : s' ≠ s) : (m.abandon s).sessions[s']? = m.sessions[s']? := by
  have hupdate (f : QuerySession → QuerySession) :
      (m.updateSession s f).sessions[s']? = m.sessions[s']? := by
    rw [getElem?_updateSession]
    simp [h.symm]
  unfold abandon unlisten
  split
  · split
    · split
      · rfl
      · exact hupdate _
    · rfl
  · rfl

/-- Only the session in use can be given up. -/
theorem abandon_of_slot (hs : m.slot = some s') (h : s' ≠ s) : m.abandon s = m := by
  have hne : m.slot ≠ some s := by simpa [hs] using h
  rw [abandon, if_neg hne]

theorem slot_abandon_ne : (m.abandon s).slot ≠ some s := by
  unfold abandon
  split
  · exact nofun
  · assumption

theorem isOpen_of_usable (h : m.usable = some s) : m.isOpen s = true := by
  simp only [usable, Option.filter_eq_some_iff] at h
  exact h.2

theorem lt_length_of_isOpen (h : m.isOpen s = true) : s < m.sessions.length := by
  obtain ⟨q, hq, -⟩ := isOpen_iff.1 h
  exact (List.getElem?_eq_some_iff.1 hq).1

/-- A session that is over is not open. -/
theorem Over.ne_of_isOpen (h : m.Over s) (ho : m.isOpen s' = true) : s' ≠ s := by
  rintro rfl
  obtain ⟨q, hq, hclosed⟩ := h
  obtain ⟨q', hq', hopen⟩ := isOpen_iff.1 ho
  obtain rfl : q = q' := Option.some.inj (hq.symm.trans hq')
  rw [hclosed] at hopen
  cases hopen

end Monitor

namespace Node

open Monitor (Over)

variable {m m' : Monitor} {p : Progress Call Wait} {a : Option Answer} {w : Option Wait}
variable {s : Nat}

/-! ## Sessions that are queried -/

theorem eq_of_next {q : Purpose} {v : Nat} (h : q.next v = some (.querying s)) : v = s := by
  cases q with
  | probe => simpa [Purpose.next] using h
  | session => cases h
  | settings => cases h

/-- A query is made on a session that is there. -/
theorem Passage.lt_length_of_querying (h : Passage m p a m' w) (hw : w = some (.querying s)) :
    s < m'.sessions.length := by
  have hgrows := h.grows
  have husable (hs : m.usable = some s) : s < m'.sessions.length :=
    hgrows.length_le (Monitor.lt_length_of_isOpen (Monitor.isOpen_of_usable hs))
  cases h with
  | @probeReady v _ _ hv =>
    obtain rfl : v = s := by simpa using hw
    exact husable hv
  | @found q v _ hv =>
    obtain rfl : v = s := eq_of_next hw
    exact husable hv
  | @adopts q v hv =>
    obtain rfl : v = s := eq_of_next hw
    exact hgrows.length_le (Monitor.lt_length_of_isOpen hv)
  | provided haside => exact absurd (haside _ hw) nofun
  | asideStarts _ haside => exact absurd (haside _ hw) nofun
  | asideResumes _ haside => exact absurd (haside _ hw) nofun
  | _ => cases hw

theorem lt_length_of_querying {id : Nat} {catalog : Catalog} {past : List Moment} {run : Calls}
    (h : History id catalog past run) {i : Nat} (hi : run.waiting i = some (.querying s)) :
    s < run.monitor.sessions.length := by
  suffices ∀ i, run.waiting i = some (.querying s) → s < run.monitor.sessions.length from
    this i hi
  refine history_induction (I := fun _ run => ∀ i, run.waiting i = some (.querying s) →
    s < run.monitor.sessions.length) h (Run.bounded_idle _) nofun (fun past t ih hq => ?_)
    fun past t id p a ih hp i hi => ?_
  · rw [hq.waiting, hq.monitor]
    exact ih
  · by_cases hid : i = id
    · subst hid
      exact hp.passage.lt_length_of_querying (hp.waiting_self.symm.trans hi)
    · rw [hp.waiting_of_ne hid] at hi
      exact hp.passage.grows.length_le (ih i hi)

/-! ## The stretches of the probe -/

theorem Passage.of_cutOff {r : Except Fault (List Wire.Row)} {fault : Fault}
    (h : Passage m (.waiting (.querying s)) (some (.rows r)) m' w) (hopen : ¬ m.isClosed)
    (hr : r.bind NodeSettings.ofRows = .error fault) (hconn : fault.isConnectivity) :
    m' = m.markDown fault.message ∧ w = some (.monitorLock (.evict s)) := by
  cases h with
  | ignored hclosed => exact absurd hclosed hopen
  | accepted _ hrow => exact absurd (hr.symm.trans hrow) nofun
  | rowless _ hrow => exact absurd (hr.symm.trans hrow) nofun
  | failed _ hrow hno =>
    cases hr.symm.trans hrow
    exact absurd hconn hno
  | cutOff _ hrow =>
    cases hr.symm.trans hrow
    exact ⟨rfl, rfl⟩
  | asideResumes hv => cases hv

theorem Passage.of_evict (h : Passage m (.waiting (.monitorLock (.evict s))) a m' w) :
    m' = (m.abandon s).closeSession s ∧ w = some (.dropping s) := by
  cases h with
  | evicts => exact ⟨rfl, rfl⟩
  | asideResumes hv => cases hv

theorem Passage.of_dropping (h : Passage m (.waiting (.dropping s)) a m' w) :
    m' = m.endProbe ∧ w = none := by
  cases h with
  | dropped => exact ⟨rfl, rfl⟩
  | asideResumes hv => cases hv

/-- A session that is over is not put to use. -/
theorem Passage.slot_ne_of_over (h : Passage m p a m' w) (ho : Over m s)
    (hs : m.slot ≠ some s) : m'.slot ≠ some s := by
  have hkeeps (he : m'.holding = m.holding) : m'.slot ≠ some s := by
    rwa [show m'.slot = m.slot from congrArg Monitor.Holding.slot he]
  have habandon (v : Nat) : (m.abandon v).slot ≠ some s := by
    unfold Monitor.abandon
    split
    · exact nofun
    · exact hs
  cases h with
  | opened => exact hs
  | lost => exact hs
  | @late q =>
    have hslot := congrArg Monitor.Holding.slot ((discard m).holding_without q)
    rw [show ((discard m).without q).slot = none from hslot.trans (slot_discard m)]
    exact nofun
  | connects =>
    have hslot := congrArg Monitor.Holding.slot (discard m).holding_beginConnect
    rw [show (discard m).beginConnect.slot = none from hslot.trans (slot_discard m)]
    exact nofun
  | @evicts v => exact habandon v
  | @shuts v => exact habandon v
  | @unreachable q =>
    have hslot := congrArg Monitor.Holding.slot (m.unlock.holding_without q)
    rwa [show (m.unlock.without q).slot = m.slot from hslot]
  | @adopts q v hv =>
    have hne : v ≠ s := ho.ne_of_isOpen hv
    simpa [Monitor.unlock, Monitor.adopt] using hne
  | _ => exact hkeeps (by simp)

/-! ## What the probe leaves alone -/

/-- A move leaves all sessions but this one alone: their state and listeners,
and if one of them is in use then that it is, and that it is listened on. -/
structure Spares (s : Nat) (t : Moment) : Prop where
  sessions : ∀ s' ≠ s, t.after.monitor.sessions[s']? = t.before.monitor.sessions[s']?
  inUse : ∀ s' ≠ s, t.before.monitor.slot = some s' → t.after.monitor.slot = some s' ∧
    t.after.monitor.hasListener = t.before.monitor.hasListener ∧
    t.after.monitor.listener = t.before.monitor.listener

theorem spares_of_holding {t : Moment} (he : t.after.monitor.holding = t.before.monitor.holding) :
    Spares s t where
  sessions s' _ := by
    rw [show t.after.monitor.sessions = t.before.monitor.sessions from
      congrArg Monitor.Holding.sessions he]
  inUse s' _ hs' :=
    ⟨(congrArg Monitor.Holding.slot he).trans hs', congrArg Monitor.Holding.registered he,
      congrArg Monitor.Holding.listener he⟩

/-- **Giving up a session spares the others.** -/
theorem spares_of_evict {t : Moment}
    (he : t.after.monitor = (t.before.monitor.abandon s).closeSession s) : Spares s t where
  sessions s' hne := by
    rw [he, Monitor.closeSession, Monitor.getElem?_updateSession,
      Monitor.getElem?_abandon_of_ne hne]
    simp [hne.symm]
  inUse s' hne hs' := by
    rw [he, Monitor.abandon_of_slot hs' hne]
    exact ⟨hs', rfl, rfl⟩

/-! ## While the session is given up -/

/-- A call that ends the watch begins in a move. -/
def endsWatch (t : Moment) : Bool :=
  match t.cause with
  | some (.fresh .close, _) => true
  | _ => false

/-- **The probe `call` gives up the session `s`**, and nothing is remembered
meanwhile; the node is down, unless the watch was ended in one of these
moves. -/
structure Discarding (call s : Nat) (since : List Moment) (run : Calls) : Prop where
  settings : run.monitor.settings = none
  phase : run.monitor.phase = if since.any endsWatch then .closed else .down
  placed : s < run.monitor.sessions.length
  stage : run.waiting call = some (.monitorLock (.evict s)) ∨
    run.waiting call = some (.dropping s) ∧ Over run.monitor s ∧ run.monitor.slot ≠ some s

namespace Discarding

variable {call : Nat} {since : List Moment} {run : Calls}

theorem probing (h : Discarding call s since run) : Probing (run.waiting call) := by
  rcases h.stage with hw | ⟨hw, -⟩
  · rw [hw]
    rfl
  · rw [hw]
    rfl

/-- Whoever goes on while the session is given up is answered no row: the only
query is that of the one probe under way, which has none any more. -/
theorem not_completeRow {t : Moment} {i : Nat} (h : Discarding call s since t.before)
    (ht : Token Probing (t.before.monitor.probing = true) t.before.waiting)
    (hp : Passes t i p a) (settings : NodeSettings) : ¬ CompleteRow p a settings := by
  rintro ⟨v, r, rfl, -, -⟩
  have hwaits : t.before.waiting i = some (.querying v) := Run.waiting_of_progress hp.progress
  have hprobing : Probing (t.before.waiting i) := hwaits ▸ rfl
  obtain rfl : i = call := ht.unique i call hprobing h.probing
  rcases h.stage with hw | ⟨hw, -⟩
  · cases hwaits.symm.trans hw
  · cases hwaits.symm.trans hw

/-- A move that ends the watch ends it, and no other does. -/
theorem phase_passes {t : Moment} {i : Nat} (h : Discarding call s since t.before)
    (hrow : ∀ settings, ¬ CompleteRow p a settings) (hp : Passes t i p a) :
    t.after.monitor.settings = none ∧
      t.after.monitor.phase = if (since ++ [t]).any endsWatch then .closed else .down := by
  have hclose : endsWatch t = true ↔ p = .fresh .close := by
    unfold endsWatch
    rw [hp.cause]
    split
    · rename_i heq
      cases heq
      simp
    · rename_i hno
      exact iff_of_false nofun fun he => hno a (by rw [he])
  have hany : (since ++ [t]).any endsWatch = (since.any endsWatch || endsWatch t) := by
    simp
  have hbefore := h.phase
  have hsettings := h.settings
  rw [hany]
  by_cases hover : since.any endsWatch = true
  -- The watch is over: it stays over, and nothing more is remembered.
  · rw [if_pos hover] at hbefore
    have hclosed : t.before.monitor.isClosed := isClosed_iff.2 hbefore
    refine ⟨?_, ?_⟩
    · rcases hp.passage.settings_of_isClosed hclosed with hsame | hnone
      · exact hsame.trans hsettings
      · exact hnone
    · simpa [hover] using isClosed_iff.1 (hp.passage.isClosed hclosed)
  · rw [if_neg hover] at hbefore
    have hopen : ¬ t.before.monitor.isClosed := by simp [isClosed_iff, hbefore]
    by_cases hend : endsWatch t = true
    · obtain ⟨rfl⟩ := hclose.1 hend
      obtain ⟨hfinish, -⟩ := hp.passage.of_close hopen
      rw [hfinish, hend]
      exact ⟨hsettings, by simp [Monitor.finish]⟩
    · rw [Bool.eq_false_iff.2 hover, Bool.eq_false_iff.2 hend]
      cases hp.passage.tells with
      | nothing hphase hsame => exact ⟨hsame.trans hsettings, hphase.trans hbefore⟩
      | connecting hun =>
        rw [hbefore] at hun
        cases hun
      | down hphase hnone =>
        rw [if_neg hopen] at hphase
        exact ⟨hnone, hphase⟩
      | healthy st _ hst => exact absurd hst (hrow st)
      | ends _ _ hp' => exact absurd (hclose.2 hp') hend
      | clears _ hphase hnone => exact ⟨hnone, hphase.trans hbefore⟩

/-- **Another call does not get in the way.** -/
theorem other {t : Moment} {i : Nat} (h : Discarding call s since t.before)
    (hrow : ∀ settings, ¬ CompleteRow p a settings) (hp : Passes t i p a) (hi : i ≠ call) :
    Discarding call s (since ++ [t]) t.after := by
  obtain ⟨hsettings, hphase⟩ := h.phase_passes hrow hp
  have hgrows := hp.passage.grows
  refine ⟨hsettings, hphase, hgrows.length_le h.placed, ?_⟩
  rw [hp.waiting_of_ne (Ne.symm hi)]
  rcases h.stage with hw | ⟨hw, hover, hslot⟩
  · exact .inl hw
  · exact .inr ⟨hw, hgrows.over hover, hp.passage.slot_ne_of_over hover hslot⟩

/-- **The probe itself goes on by one stage**: it gives up the session and
closes it, and then is over. -/
theorem goes_on {t : Moment} {v : Wait} (h : Discarding call s since t.before)
    (hrow : ∀ settings, ¬ CompleteRow (.waiting v) a settings)
    (hp : Passes t call (.waiting v) a) :
    Discarding call s (since ++ [t]) t.after ∨
      (t.after.waiting call = none ∧ t.after.monitor = t.before.monitor.endProbe ∧
        Over t.before.monitor s ∧ t.before.monitor.slot ≠ some s) := by
  obtain ⟨hsettings, hphase⟩ := h.phase_passes hrow hp
  have hwaits : t.before.waiting call = some v := Run.waiting_of_progress hp.progress
  have hpassage := hp.passage
  rcases h.stage with hw | ⟨hw, hover, hslot⟩
  -- It had to wait for the lock: now it gives the session up and closes it.
  · obtain rfl : v = .monitorLock (.evict s) := Option.some.inj (hwaits.symm.trans hw)
    obtain ⟨hevict, hnext⟩ := hpassage.of_evict
    have habandon := (t.before.monitor.grows_abandon s).length_le h.placed
    refine .inl ⟨hsettings, hphase, hpassage.grows.length_le h.placed, .inr ⟨?_, ?_, ?_⟩⟩
    · rw [hp.waiting_self, hnext]
    · rw [hevict]
      exact Monitor.over_closeSession habandon
    · rw [hevict]
      exact Monitor.slot_abandon_ne
  -- The session is closed, and the probe is over.
  · obtain rfl : v = .dropping s := Option.some.inj (hwaits.symm.trans hw)
    obtain ⟨hend, hnext⟩ := hpassage.of_dropping
    exact .inr ⟨hp.waiting_self.trans hnext, hend, hover, hslot⟩

/-- The move with which the probe is over ends the probe, and that is all. -/
theorem last {t : Moment} (h : Discarding call s since t.before) (hb : t.before.Bounded)
    (hm : t.before.apply system t.move = some t.after)
    (ht : Token Probing (t.before.monitor.probing = true) t.before.waiting)
    (hover : t.after.waiting call = none) :
    t.after.monitor = t.before.monitor.endProbe ∧ Over t.before.monitor s ∧
      t.before.monitor.slot ≠ some s := by
  -- A call that is over gives nothing up, so the move is the last stage's own.
  have hnot {since' : List Moment} : ¬ Discarding call s since' t.after := fun h' =>
    not_probing_none (hover ▸ h'.probing)
  have hwas : ¬ t.before.waiting call = none := fun hnone =>
    not_probing_none (hnone ▸ h.probing)
  rcases quiet_or_passes hb hm with hq | ⟨i, p, a, hp⟩
  · have hsame : t.after.waiting = t.before.waiting := hq.waiting
    exact absurd (hsame ▸ hover) hwas
  have hpass : Passes t i p a := hp
  have hrow := h.not_completeRow ht hpass
  by_cases hi : i = call
  · subst hi
    have hwaits : t.before.waiting i = p.wait? := Run.waiting_of_progress hpass.progress
    cases p with
    | fresh c => exact absurd hwaits hwas
    | waiting v =>
      rcases h.goes_on hrow hpass with h' | ⟨-, hend⟩
      · exact absurd h' hnot
      · exact hend
  · exact absurd (h.other hrow hpass hi) hnot

/-- **What the probe does spares the other sessions.** -/
theorem spares {t : Moment} (h : Discarding call s since t.before)
    (hp : Passes t call p a) : Spares s t := by
  have hwaits : t.before.waiting call = p.wait? := Run.waiting_of_progress hp.progress
  have hpassage := hp.passage
  cases p with
  | fresh c =>
    have hprobing := h.probing
    rw [hwaits] at hprobing
    exact absurd hprobing not_probing_none
  | waiting v =>
    rcases h.stage with hw | ⟨hw, -⟩
    · obtain rfl : v = .monitorLock (.evict s) := Option.some.inj (hwaits.symm.trans hw)
      exact spares_of_evict hpassage.of_evict.1
    · obtain rfl : v = .dropping s := Option.some.inj (hwaits.symm.trans hw)
      refine spares_of_holding ?_
      rw [hpassage.of_dropping.1]
      rfl

end Discarding

/-- A probe gives up its session until it is over. -/
theorem discarding_or_over {id call : Nat} {catalog : Catalog} {past since : List Moment}
    {start run : Calls} (hpast : History id catalog past start) (hbegun : start.Begun call)
    (h0 : Discarding call s [] start) (h : Execution system start since run) :
    run.waiting call = none ∨ Discarding call s since run := by
  induction h with
  | refl => exact .inr h0
  | @move since mid next m hx hm ih =>
    have hmid : History id catalog (past ++ since) mid := hpast.trans hx
    have hbounded : mid.Bounded := hmid.bounded (Run.bounded_idle _)
    have hbegun' : mid.Begun call :=
      hx.begun_of_begun (hpast.bounded (Run.bounded_idle _)) hbegun
    rcases quiet_or_passes hbounded hm with hq | ⟨i, p, a, hp⟩
    · have hmonitor : next.monitor = mid.monitor := hq.monitor
      have hwaiting : next.waiting = mid.waiting := hq.waiting
      have hend : endsWatch ⟨mid, m, next⟩ = false := by simp [endsWatch, hq.cause]
      refine ih.imp (fun hnone => by rw [hwaiting, hnone]) fun h => ?_
      refine ⟨?_, ?_, ?_, ?_⟩
      · rw [hmonitor]
        exact h.settings
      · simpa [hmonitor, hend] using h.phase
      · rw [hmonitor]
        exact h.placed
      · rw [hwaiting, hmonitor]
        exact h.stage
    · have hself : next.waiting i = _ := hp.waiting_self
      rcases ih with hnone | h
      · have hne : call ≠ i := by
          rintro rfl
          exact absurd (hp.progress.symm.trans (hbegun'.progress_eq_none hnone)) nofun
        have hother : next.waiting call = mid.waiting call := hp.waiting_of_ne hne
        exact .inl (hother.trans hnone)
      -- Nobody is answered a row, so nothing is remembered by this move.
      · have hrow := Discarding.not_completeRow (t := ⟨mid, m, next⟩) h
          (singleFlight hmid).token hp
        by_cases hi : i = call
        · subst hi
          obtain ⟨v, rfl⟩ : ∃ v, p = .waiting v := by
            cases p with
            | fresh c => exact absurd hp.progress (hbegun'.2 c)
            | waiting v => exact ⟨v, rfl⟩
          exact (Discarding.goes_on (t := ⟨mid, m, next⟩) h hrow hp).symm.imp (·.1) fun h => h
        · exact .inr (Discarding.other (t := ⟨mid, m, next⟩) h hrow hp hi)

/-- What the probe does until it is over spares the other sessions. -/
theorem spares_of_mem {id call : Nat} {catalog : Catalog} {past since : List Moment}
    {start run : Calls} (hpast : History id catalog past start) (hbegun : start.Begun call)
    (h0 : Discarding call s [] start) (h : Execution system start since run) {t : Moment}
    (ht : t ∈ since) (hcaller : t.caller = some call) : Spares s t := by
  obtain ⟨earlier, hearlier, hm⟩ := h.of_mem ht
  have hbounded : start.Bounded := hpast.bounded (Run.bounded_idle _)
  rcases quiet_or_passes (hearlier.bounded hbounded) hm with hq | ⟨i, p, a, hp⟩
  · have hq' : Quiet t := hq
    refine spares_of_holding ?_
    rw [hq'.monitor]
  · have hp' : Passes t i p a := hp
    obtain rfl : i = call := Option.some.inj (hp'.caller.symm.trans hcaller)
    rcases discarding_or_over hpast hbegun h0 hearlier with hnone | hdiscarding
    · have hover := (hearlier.begun_of_begun hbounded hbegun).progress_eq_none hnone
      exact absurd (hp'.progress.symm.trans hover) nofun
    · exact hdiscarding.spares hp'

/-- The probe whose query failed for want of a connection begins to give its
session up. -/
theorem discarding_of_cutOff {id call : Nat} {catalog : Catalog} {past : List Moment}
    {before failed : Calls} {r : Except Fault (List Wire.Row)} {fault : Fault}
    (hbefore : History id catalog past before)
    (hcall : before.waiting call = some (.querying s))
    (hopen : before.monitor.isClosed = false)
    (hanswer : r.bind NodeSettings.ofRows = .error fault)
    (hconn : fault.isConnectivity = true)
    (hfail : before.apply system (.resume call (.rows r)) = some failed) :
    Discarding call s [] failed ∧ failed.monitor.holding = before.monitor.holding := by
  have hbounded : before.Bounded := hbefore.bounded (Run.bounded_idle _)
  have hcause : Transition.cause ⟨before, (.resume call (.rows r) : Move Call Answer), failed⟩ =
      some (.waiting (.querying s), some (.rows r)) := by
    simp [Transition.cause, Run.waiting_eq_some_iff.1 hcall]
  rcases quiet_or_passes hbounded hfail with hq | ⟨i, p, a, hp⟩
  · rw [hq.cause] at hcause
    cases hcause
  · obtain rfl : call = i := Option.some.inj hp.caller
    obtain ⟨rfl, rfl⟩ := hp.eq_of_cause hcause
    have hopen' : ¬ before.monitor.isClosed := by simp [hopen]
    obtain ⟨hdown, hnext⟩ := hp.passage.of_cutOff hopen' hanswer hconn
    have hmonitor : failed.monitor = before.monitor.markDown fault.message := hdown
    have hwaiting : failed.waiting call = _ := hp.waiting_self
    refine ⟨⟨?_, ?_, ?_, .inl (hwaiting.trans hnext)⟩, ?_⟩
    · rw [hmonitor, Monitor.settings_markDown]
    · rw [hmonitor, Monitor.phase_markDown, if_neg hopen']
      rfl
    · exact hp.passage.grows.length_le (lt_length_of_querying hbefore hcall)
    · rw [hmonitor, Monitor.holding_markDown]

/-- **A probe gives up the session on which its query failed, and nothing
else.** In any history let the query of the probe `call` on the session `s` fail
for want of a connection while the watch goes on, let moves be made until the
probe is over, and further moves after it. When the probe is over the session
is over, not in use, and not listened on; nothing is remembered, and the node is
down, unless the watch was ended meanwhile. No move of the probe touches any
other session, its listener, or that it is in use. A probe that succeeds later
is remembered again. -/
theorem failed_session_is_given_up {id call : Nat} {catalog : Catalog}
    {past since later : List Moment} {before failed mid done run : Calls}
    {r : Except Fault (List Wire.Row)} {fault : Fault} {last : Move Call Answer}
    (hbefore : History id catalog past before)
    (hcall : before.waiting call = some (.querying s))
    (hopen : before.monitor.isClosed = false)
    (hanswer : r.bind NodeSettings.ofRows = .error fault)
    (hconn : fault.isConnectivity = true)
    (hfail : before.apply system (.resume call (.rows r)) = some failed)
    (hsince : Execution system failed since mid) (hgoes : mid.progress call ≠ none)
    (hlast : mid.apply system last = some done) (hover : done.progress call = none)
    (hlater : Execution system done later run) :
    Over done.monitor s ∧
    done.monitor.slot ≠ some s ∧
    (∀ q : QuerySession, done.monitor.sessions[s]? = some q → q.listeners.entries = []) ∧
    done.monitor.settings = none ∧
    done.monitor.phase = (if since.any endsWatch then .closed else .down) ∧
    (∀ t ∈ ⟨before, .resume call (.rows r), failed⟩ :: since ++ [⟨mid, last, done⟩],
      t.caller = some call → Spares s t) ∧
    ∀ t ∈ later, ∀ settings, stores t = some settings →
      t.after.monitor.settings = some settings ∧ t.after.monitor.phase = .healthy := by
  obtain ⟨h0, hholding⟩ := discarding_of_cutOff hbefore hcall hopen hanswer hconn hfail
  have hfailed : History id catalog _ failed := hbefore.move hfail
  have hmid : History id catalog _ mid := hfailed.trans hsince
  have hdone : History id catalog _ done := hmid.move hlast
  have hbegun : failed.Begun call :=
    hfailed.begun (Run.bounded_idle _) (List.mem_append_right _ (List.mem_singleton.2 rfl)) rfl
  have hdiscarding : Discarding call s since mid := by
    refine (discarding_or_over hfailed hbegun h0 hsince).resolve_left fun hgone => hgoes ?_
    exact (hsince.begun_of_begun (hfailed.bounded (Run.bounded_idle _)) hbegun).progress_eq_none
      hgone
  obtain ⟨hend, hclosed, hslot⟩ := Discarding.last (t := ⟨mid, last, done⟩) hdiscarding
    (hmid.bounded (Run.bounded_idle _)) hlast (singleFlight hmid).token
    (Run.waiting_eq_none_of_progress hover)
  have hmonitor : done.monitor = mid.monitor.endProbe := hend
  have hslot' : done.monitor.slot ≠ some s := hmonitor ▸ hslot
  refine ⟨hmonitor ▸ hclosed, hslot', fun q hq => ?_, hmonitor ▸ hdiscarding.settings,
    hmonitor ▸ hdiscarding.phase, fun t ht hcaller => ?_, fun t ht settings hs => ?_⟩
  · exact (held hdone).listening.elsewhere s q hq hslot'
  · rcases List.mem_cons.1 ht with rfl | ht
    · exact spares_of_holding hholding
    · exact spares_of_mem hfailed hbegun h0 (hsince.move hlast) ht hcaller
  · obtain ⟨earlier, hearlier, hm⟩ := hlater.of_mem ht
    have hbounded := (hdone.trans hearlier).bounded (Run.bounded_idle _)
    rcases quiet_or_passes hbounded hm with hq | ⟨i, p, a, hp⟩
    · have hq' : Quiet t := hq
      simp [stores, hq'.cause] at hs
    · have hp' : Passes t i p a := hp
      exact hp'.healthy_of_stores hs

/-- A probe has opened a session, and its query is on the way. -/
def queryUnderWay : List (Move Call Answer) :=
  [.submit .probe, .start 0, .resume 0 .granted, .submit .sessionOpened, .start 1,
    .resume 0 (.session (some 0))]

/-- The session is lost, and a reader opens another one before the probe gets
the lock. -/
def readerReconnects : List (Move Call Answer) :=
  [.submit (.sessionLost 0), .start 2, .submit .readSettings, .start 3, .resume 3 .granted,
    .submit .sessionOpened, .start 4, .resume 3 (.session (some 1)), .resume 0 .granted]

/-- A session that a reader opened meanwhile stays in use, open and listened on
when the probe gives up the one that failed. -/
theorem late_teardown_spares_new_session : ∃ (before failed mid done : Calls)
    (past since : List Moment) (last : Move Call Answer),
    History 1 .standard past before ∧ before.waiting 0 = some (.querying 0) ∧
    before.apply system (.resume 0 (.rows (.error (.sessionUnavailable "node" "reset")))) =
      some failed ∧
    Execution system failed since mid ∧ mid.apply system last = some done ∧
    mid.monitor.slot = some 1 ∧ done.progress 0 = none ∧
    Monitor.Over done.monitor 0 ∧ done.monitor.phase = .down ∧
    done.monitor.slot = some 1 ∧ done.monitor.hasListener = true ∧
    done.monitor.isOpen 1 = true := by
  have hanswer : (Except.error (.sessionUnavailable "node" "reset") :
      Except Fault (List Wire.Row)).bind NodeSettings.ofRows =
      .error (.sessionUnavailable "node" "reset") := rfl
  obtain ⟨before, hbefore, hcall, hopen, failed, hfail, mid, hsince, hgoes, hends, hslot,
      hlistens, hisOpen, done, hlast, hover⟩ :
      ∃ before, (Run.idle (Node.fresh 1 .standard)).applyAll system queryUnderWay =
        some before ∧ before.waiting 0 = some (.querying 0) ∧
      before.monitor.isClosed = false ∧ ∃ failed,
      before.apply system (.resume 0 (.rows (.error (.sessionUnavailable "node" "reset")))) =
        some failed ∧ ∃ mid, failed.applyAll system readerReconnects = some mid ∧
      (mid.progress 0).isSome ∧
      (failed.transitions system readerReconnects).any endsWatch = false ∧
      mid.monitor.slot = some 1 ∧ mid.monitor.hasListener = true ∧ mid.monitor.isOpen 1 = true ∧
      ∃ done, mid.apply system (.resume 0 .closed) = some done ∧ done.progress 0 = none :=
    ⟨_, rfl, rfl, rfl, _, rfl, _, rfl, rfl, rfl, rfl, rfl, rfl, _, rfl, rfl⟩
  have hpast := execution_of_applyAll hbefore
  have hmoves := execution_of_applyAll hsince
  obtain ⟨hsession, -, -, -, hphase, hspares, -⟩ := failed_session_is_given_up hpast hcall hopen
    hanswer rfl hfail hmoves (Option.isSome_iff_ne_none.1 hgoes) hlast hover .refl
  have hspared := hspares ⟨mid, .resume 0 .closed, done⟩ (by simp) rfl
  obtain ⟨hslot', hlistens', -⟩ := hspared.inUse 1 (by decide) hslot
  have hsame : done.monitor.sessions[1]? = mid.monitor.sessions[1]? :=
    hspared.sessions 1 (by decide)
  refine ⟨before, failed, mid, done, _, _, _, hpast, hcall, hfail, hmoves, hlast, hslot, hover,
    hsession, ?_, hslot', hlistens'.trans hlistens, ?_⟩
  · rw [hphase, hends]
    rfl
  · rwa [Monitor.isOpen, hsame]

end Node

end NodeSidecar
