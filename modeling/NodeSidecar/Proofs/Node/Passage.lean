import NodeSidecar.Node.Calls
import NodeSidecar.Proofs.Execution
import NodeSidecar.Proofs.Monitor.Frame
/-!
# Node — what a stretch does to the monitor

`Passage` lists once what a stretch of a call can do to the monitor of its
node: how far the call had come, what it was answered, under which condition,
what the monitor is then, and what the call waits for then. `passage_start`
and `passage_resume` say that the list is complete; every invariant of the
monitor is a case analysis on it.
-/

namespace NodeSidecar

/-- The monitor's part in a call that goes on without a session. -/
def Monitor.without (m : Monitor) : Node.Purpose → Monitor
  | .probe => (m.markDown "no session available").endProbe
  | _ => m

/-- The monitor as a connect begins: it holds the lock. -/
def Monitor.beginConnect (m : Monitor) : Monitor :=
  if m.lock.phase = .uninitialized then m.lock.enter .connecting else m.lock

@[simp] theorem Monitor.holding_without (m : Monitor) (p : Node.Purpose) :
    (m.without p).holding = m.holding := by
  cases p with
  | probe => exact m.holding_markDown _
  | session => rfl
  | settings => rfl

@[simp] theorem Monitor.outfit_without (m : Monitor) (p : Node.Purpose) :
    (m.without p).outfit = m.outfit := by
  cases p with
  | probe => exact m.outfit_markDown _
  | session => rfl
  | settings => rfl

/-- A probe that gets no session has found the node down. -/
@[simp] theorem Monitor.failures_without (m : Monitor) (p : Node.Purpose) :
    (m.without p).counts.failures = m.counts.failures + if p = .probe then 1 else 0 := by
  cases p with
  | probe => exact m.failures_markDown _
  | session => rfl
  | settings => rfl

@[simp] theorem Monitor.counts_beginConnect (m : Monitor) : m.beginConnect.counts = m.counts := by
  unfold beginConnect
  split
  · exact m.lock.counts_enter .connecting
  · rfl

@[simp] theorem Monitor.holding_beginConnect (m : Monitor) :
    m.beginConnect.holding = m.lock.holding := by
  unfold beginConnect
  split
  · exact m.lock.holding_enter .connecting
  · rfl

@[simp] theorem Monitor.outfit_beginConnect (m : Monitor) : m.beginConnect.outfit = m.outfit := by
  unfold beginConnect
  split
  · exact m.lock.outfit_enter .connecting
  · rfl

@[simp] theorem Monitor.admission_beginConnect (m : Monitor) :
    m.beginConnect.admission = m.admission := by
  unfold beginConnect
  split
  · exact m.lock.admission_enter .connecting
  · rfl

namespace Node

/-- What a reader wants a session for. -/
def Call.reads : Call → Option Purpose
  | .ensureSession => some .session
  | .readSettings => some .settings
  | _ => none

/-- What a call waits for once it has a session. -/
def Purpose.next (s : Nat) : Purpose → Option Wait
  | .probe => some (.querying s)
  | _ => none

/-- A call that has nothing to do with the monitor's sessions and phase. -/
def Call.isAside : Call → Bool
  | .adapterSettings | .snapshot _ | .openLink | .manage _ | .closeLink => true
  | _ => false

/-- Something waited for that has nothing to do with them. -/
def Wait.isAside : Wait → Bool
  | .adapterConnecting | .adapterQuerying _ | .linkLock _ | .linkConnecting _
  | .requesting .. | .linkClosing _ => true
  | _ => false

/-- A session tells the monitor to forget what it knows when an event is
pushed on it. -/
def hears (m : Monitor) (s : Nat) (e : Host.Event) : Prop :=
  .forget ∈ (listenersOf s (m, [])).reactions e.change

/-- **What a stretch of a call does to the monitor** `m`: from how far the call
had come and what it was answered, to the monitor then and what the call waits
for then. -/
inductive Passage (m : Monitor) :
    Progress Call Wait → Option Answer → Monitor → Option Wait → Prop
  /-- A probe finds the watch over. -/
  | probeRefused : m.isClosed → Passage m (.fresh .probe) none m none
  /-- A probe is left out, because one is running. -/
  | probeSkipped : ¬ m.isClosed → m.probing → Passage m (.fresh .probe) none m.skipProbe none
  /-- A probe begins and finds an open session. -/
  | probeReady {s : Nat} : ¬ m.isClosed → ¬ m.probing → m.usable = some s →
      Passage m (.fresh .probe) none m.admitProbe (some (.querying s))
  /-- A probe begins and needs a session. -/
  | probeSeeks : ¬ m.isClosed → ¬ m.probing → m.usable = none →
      Passage m (.fresh .probe) none m.admitProbe (some (.monitorLock (.connect .probe)))
  /-- A reader finds an open session, or the watch over. -/
  | readAtOnce {c : Call} {p : Purpose} : c.reads = some p →
      Passage m (.fresh c) none m none
  /-- A reader needs a session. -/
  | readSeeks {c : Call} {p : Purpose} : c.reads = some p → ¬ m.isClosed → m.usable = none →
      Passage m (.fresh c) none m (some (.monitorLock (.connect p)))
  /-- The end has begun before. -/
  | closedBefore : m.isClosed → Passage m (.fresh .close) none m none
  /-- The end begins. -/
  | closes : ¬ m.isClosed → Passage m (.fresh .close) none m.finish (some (.monitorLock .shut))
  /-- The node was reported down. -/
  | reportedDown : Passage m (.fresh .reportDown) none m.forget none
  /-- An event says that the node is down. -/
  | heard {s : Nat} {e : Host.Event} : hears m s e →
      Passage m (.fresh (.event s e)) none m.forget none
  /-- An event says nothing that the monitor takes in at once. -/
  | unheard {s : Nat} {e : Host.Event} : ¬ hears m s e →
      Passage m (.fresh (.event s e)) none m none
  /-- A session was opened. -/
  | opened : Passage m (.fresh .sessionOpened) none m.openSession none
  /-- A session was lost. -/
  | lost {s : Nat} : Passage m (.fresh (.sessionLost s)) none (m.closeSession s) none
  /-- With the lock, a call finds that another one has opened a session. -/
  | found {p : Purpose} {s : Nat} : ¬ m.locked → m.usable = some s →
      Passage m (.waiting (.monitorLock (.connect p))) (some .granted) m (p.next s)
  /-- With the lock, a call finds the watch over. -/
  | late {p : Purpose} : ¬ m.locked → m.usable = none → m.isClosed →
      Passage m (.waiting (.monitorLock (.connect p))) (some .granted)
        ((discard m).without p) none
  /-- With the lock, a call asks for a session. -/
  | connects {p : Purpose} : ¬ m.locked → m.usable = none → ¬ m.isClosed →
      Passage m (.waiting (.monitorLock (.connect p))) (some .granted)
        (discard m).beginConnect (some (.connecting p))
  /-- With the lock, a probe gives up the session that failed. -/
  | evicts {s : Nat} : ¬ m.locked →
      Passage m (.waiting (.monitorLock (.evict s))) (some .granted)
        ((m.abandon s).closeSession s) (some (.dropping s))
  /-- With the lock, the end gives up the session in use. -/
  | shuts {s : Nat} : ¬ m.locked → m.slot = some s →
      Passage m (.waiting (.monitorLock .shut)) (some .granted)
        ((m.abandon s).closeSession s) (some (.shutting s))
  /-- With the lock, the end finds no session in use. -/
  | shutsNone : ¬ m.locked → m.slot = none →
      Passage m (.waiting (.monitorLock .shut)) (some .granted)
        m.clearSettings (some .closingProvider)
  /-- There is no session to be had. -/
  | unreachable {p : Purpose} :
      Passage m (.waiting (.connecting p)) (some (.session none)) (m.unlock.without p) none
  /-- A session is put to use. -/
  | adopts {p : Purpose} {s : Nat} : m.isOpen s →
      Passage m (.waiting (.connecting p)) (some (.session (some s)))
        (m.adopt s).unlock (p.next s)
  /-- A query is answered when the watch is over. -/
  | ignored {s : Nat} {r : Except Fault (List Wire.Row)} : m.isClosed →
      Passage m (.waiting (.querying s)) (some (.rows r)) m.endProbe none
  /-- A query is answered with a complete row. -/
  | accepted {s : Nat} {r : Except Fault (List Wire.Row)} {settings : NodeSettings} :
      ¬ m.isClosed → r.bind NodeSettings.ofRows = .ok (some settings) →
      Passage m (.waiting (.querying s)) (some (.rows r)) (m.accept settings).endProbe none
  /-- A query is answered with no row. -/
  | rowless {s : Nat} {r : Except Fault (List Wire.Row)} :
      ¬ m.isClosed → r.bind NodeSettings.ofRows = .ok none →
      Passage m (.waiting (.querying s)) (some (.rows r))
        (m.markDown "system.local returned no row").endProbe none
  /-- A query fails on a session that goes on. -/
  | failed {s : Nat} {r : Except Fault (List Wire.Row)} {fault : Fault} :
      ¬ m.isClosed → r.bind NodeSettings.ofRows = .error fault → ¬ fault.isConnectivity →
      Passage m (.waiting (.querying s)) (some (.rows r))
        (m.markDown fault.message).endProbe none
  /-- A query fails for want of a connection. -/
  | cutOff {s : Nat} {r : Except Fault (List Wire.Row)} {fault : Fault} :
      ¬ m.isClosed → r.bind NodeSettings.ofRows = .error fault → fault.isConnectivity →
      Passage m (.waiting (.querying s)) (some (.rows r))
        (m.markDown fault.message) (some (.monitorLock (.evict s)))
  /-- The session that failed is closed, and the probe is over. -/
  | dropped {s : Nat} : Passage m (.waiting (.dropping s)) (some .closed) m.endProbe none
  /-- The session in use is closed for good. -/
  | cleared {s : Nat} :
      Passage m (.waiting (.shutting s)) (some .closed) m.clearSettings (some .closingProvider)
  /-- The provider of sessions is closed. -/
  | provided {w : Option Wait} : (∀ v, w = some v → v.isAside) →
      Passage m (.waiting .closingProvider) (some .closed) m w
  /-- A call that has nothing to do with the monitor begins. -/
  | asideStarts {c : Call} {w : Option Wait} : c.isAside → (∀ v, w = some v → v.isAside) →
      Passage m (.fresh c) none m w
  /-- Something is answered that has nothing to do with it. -/
  | asideResumes {v : Wait} {a : Answer} {w : Option Wait} : v.isAside →
      (∀ v', w = some v' → v'.isAside) → Passage m (.waiting v) (some a) m w

/-! ## Stretches on the link -/

/-- A stretch that leaves the monitor alone, waits for nothing of its, and
does not tell what it remembers. -/
structure Aside (n : Node) (st : Step) : Prop where
  monitor : st.state.monitor = n.monitor
  next : ∀ w, st.turn.next = some w → w.isAside
  result : ∀ s, st.turn.result ≠ some (.settings s)

theorem aside_ends (n : Node) {r : Result} (hr : ∀ s, r ≠ .settings s) : Aside n (n.ends r) where
  monitor := rfl
  next := nofun
  result s hs := hr s (Option.some.inj hs)

theorem aside_waits (n : Node) {w : Wait} (hw : w.isAside) : Aside n (n.waits w) where
  monitor := rfl
  next v hv := by
    obtain rfl : w = v := by simpa [waits, Turn.next] using hv
    exact hw
  result := nofun

/-- What is done to the link is nothing to the monitor. -/
theorem Aside.of_onLink {n : Node} {f : Management.Link → Management.Link} {st : Step}
    (h : Aside (n.onLink f) st) : Aside n st :=
  ⟨h.monitor, h.next, h.result⟩

theorem aside_withLink (n : Node) (c : Nat) (use : LinkUse) : Aside n (n.withLink c use) := by
  cases use with
  | opening => exact aside_ends n nofun
  | request r => exact aside_waits n rfl

theorem aside_seekLink (n : Node) (use : LinkUse) : Aside n (n.seekLink use) := by
  unfold seekLink
  split
  · exact aside_withLink n _ use
  · exact aside_waits n rfl

theorem aside_startUse (n : Node) (proxy : Management.Proxy) (u : Management.Use) :
    Aside n (n.startUse proxy u) := by
  unfold startUse
  split
  · exact aside_ends n nofun
  · exact aside_seekLink n _

theorem aside_startSnapshot (n : Node) (order : Management.SnapshotOrder) :
    Aside n (n.startSnapshot order) := by
  unfold startSnapshot
  split
  · exact aside_ends n nofun
  · split
    · exact aside_ends n nofun
    · exact aside_startUse n _ _

theorem aside_releaseLink (n : Node) : Aside n n.releaseLink := by
  unfold releaseLink
  split
  · exact Aside.of_onLink (aside_waits _ rfl)
  · exact aside_ends n nofun

theorem aside_linkLocked (n : Node) (use : LinkUse) : Aside n (n.linkLocked use) := by
  unfold linkLocked
  split
  · exact Aside.of_onLink (aside_withLink _ _ use)
  · exact aside_waits n rfl

theorem aside_withLinkLock (n : Node) (work : LinkWork) : Aside n (n.withLinkLock work) := by
  cases work with
  | connect use => exact aside_linkLocked n use
  | evict c fault => exact Aside.of_onLink (aside_ends _ nofun)

theorem aside_linkOpened (n : Node) (r : Except Fault Unit) (use : LinkUse) :
    Aside n (n.linkOpened r use) := by
  unfold linkOpened
  split
  · exact Aside.of_onLink (aside_ends _ nofun)
  · exact Aside.of_onLink (aside_withLink _ _ use)

theorem aside_answered (n : Node) (c : Nat) (r : Except Fault Management.Value) :
    Aside n (n.answered c r) := by
  unfold answered
  split
  · exact aside_ends n nofun
  · split
    · exact aside_waits n rfl
    · exact aside_ends n nofun

/-! ## Stretches on the monitor -/

theorem monitor_withSession_none (n : Node) (p : Purpose) :
    (n.withSession none p).state.monitor = n.monitor.without p := by
  cases p <;> rfl

@[simp] theorem next_withSession_none (n : Node) (p : Purpose) :
    (n.withSession none p).turn.next = none := by
  cases p <;> rfl

@[simp] theorem state_withSession_some (n : Node) (s : Nat) (p : Purpose) :
    (n.withSession (some s) p).state = n := by
  cases p <;> rfl

@[simp] theorem next_withSession_some (n : Node) (s : Nat) (p : Purpose) :
    (n.withSession (some s) p).turn.next = p.next s := by
  cases p <;> rfl

/-- A reader that seeks a session. -/
theorem passage_seekSession (n : Node) {c : Call} {p : Purpose} (hc : c.reads = some p) :
    Passage n.monitor (.fresh c) none (n.seekSession p).state.monitor
      (n.seekSession p).turn.next := by
  have hp : p ≠ .probe := by
    rintro rfl
    cases c <;> cases hc
  have hwithout : n.monitor.without p = n.monitor := by
    cases p with
    | probe => exact absurd rfl hp
    | session => rfl
    | settings => rfl
  have hnext (s : Nat) : p.next s = none := by
    cases p with
    | probe => exact absurd rfl hp
    | session => rfl
    | settings => rfl
  unfold seekSession
  split
  · rw [monitor_withSession_none, next_withSession_none, hwithout]
    exact .readAtOnce hc
  · rename_i hclosed
    split
    · rw [state_withSession_some, next_withSession_some, hnext]
      exact .readAtOnce hc
    · rename_i hnone
      exact .readSeeks hc hclosed hnone

theorem passage_startProbe (n : Node) :
    Passage n.monitor (.fresh .probe) none n.startProbe.state.monitor
      n.startProbe.turn.next := by
  unfold startProbe
  split
  · rename_i hclosed
    exact .probeRefused hclosed
  · rename_i hclosed
    split
    · rename_i hprobing
      exact .probeSkipped hclosed hprobing
    · rename_i hprobing
      have hopen : ¬ (n.onMonitor .admitProbe).monitor.isClosed := hclosed
      unfold seekSession
      rw [if_neg hopen]
      split
      · rename_i s hs
        exact .probeReady hclosed hprobing hs
      · rename_i hnone
        exact .probeSeeks hclosed hprobing hnone

theorem passage_startClose (n : Node) :
    Passage n.monitor (.fresh .close) none n.startClose.state.monitor
      n.startClose.turn.next := by
  unfold startClose
  split
  · rename_i hclosed
    exact .closedBefore hclosed
  · rename_i hclosed
    exact .closes hclosed

/-- Reactions to an event forget at most once what the monitor knows. -/
theorem foldl_react (rs : List Reaction) (e : Host.Event) (m : Monitor) (calls : List Call) :
    (rs.foldl (fun s a => react a e s) (m, calls)).1 =
      if .forget ∈ rs then m.forget else m := by
  induction rs generalizing m calls with
  | nil => rfl
  | cons r rs ih =>
    rw [List.foldl_cons]
    cases r with
    | probe =>
      rw [react, ih]
      simp
    | forget =>
      rw [react, ih]
      simp

theorem monitor_push (n : Node) (s : Nat) (e : Host.Event) :
    (n.push s e).state.monitor =
      if .forget ∈ (listenersOf s (n.monitor, [])).reactions e.change then n.monitor.forget
      else n.monitor :=
  foldl_react _ e n.monitor []

/-- **The list is complete**, for a call that begins. -/
theorem passage_start (c : Call) (n : Node) :
    Passage n.monitor (.fresh c) none (start c n).state.monitor (start c n).turn.next := by
  have haside {st : Step} (hc : c.isAside) (h : Aside n st) :
      Passage n.monitor (.fresh c) none st.state.monitor st.turn.next := by
    rw [h.monitor]
    exact .asideStarts hc h.next
  cases c with
  | probe => exact passage_startProbe n
  | ensureSession => exact passage_seekSession n rfl
  | readSettings => exact passage_seekSession n rfl
  | adapterSettings => exact haside rfl (aside_waits n rfl)
  | snapshot order => exact haside rfl (aside_startSnapshot n order)
  | openLink => exact haside rfl (aside_seekLink n _)
  | manage r => exact haside rfl (aside_seekLink n _)
  | closeLink => exact haside rfl (aside_releaseLink n)
  | close => exact passage_startClose n
  | reportDown => exact .reportedDown
  | event s e =>
    rw [start, monitor_push]
    split
    · rename_i h
      exact .heard h
    · rename_i h
      exact .unheard h
  | sessionOpened => exact .opened
  | sessionLost s => exact .lost

/-! ### With the lock -/

theorem discard_lock (m : Monitor) : discard m.lock = (discard m).lock := by
  have hslot : m.lock.slot = m.slot := rfl
  unfold discard
  rw [hslot]
  cases m.slot with
  | none => rfl
  | some s => exact m.abandon_lock s

@[simp] theorem locked_discard (m : Monitor) : (discard m).locked = m.locked := by
  unfold discard
  split
  · exact m.locked_abandon _
  · rfl

@[simp] theorem apart_discard (m : Monitor) : (discard m).apart = m.apart := by
  unfold discard
  split
  · exact m.apart_abandon _
  · rfl

theorem isClosed_discard (m : Monitor) : (discard m).isClosed = m.isClosed :=
  Monitor.isClosed_eq_of_apart (apart_discard m)

/-- A call that wants a session. -/
theorem passage_connectLocked {n : Node} (hfree : ¬ n.monitor.locked) (p : Purpose) :
    Passage n.monitor (.waiting (.monitorLock (.connect p))) (some .granted)
      ((n.onMonitor .lock).connectLocked p).state.monitor
      ((n.onMonitor .lock).connectLocked p).turn.next := by
  have hclosed : (discard n.monitor.lock).isClosed = n.monitor.isClosed :=
    isClosed_discard n.monitor.lock
  unfold connectLocked
  split
  · rename_i s hs
    have hsame : ((n.onMonitor .lock).onMonitor .unlock).monitor = n.monitor :=
      Monitor.unlock_lock hfree
    rw [state_withSession_some, next_withSession_some, hsame]
    exact .found hfree hs
  · rename_i hnone
    simp only [onMonitor, hclosed]
    split
    · rename_i hover
      have hsame : (discard n.monitor.lock).unlock = discard n.monitor := by
        rw [discard_lock]
        exact Monitor.unlock_lock (by simpa using hfree)
      rw [monitor_withSession_none, next_withSession_none]
      simp only [hsame]
      exact .late hfree hnone hover
    · rename_i hopen
      have hbegin : (discard n.monitor).beginConnect =
          if (discard n.monitor.lock).phase = .uninitialized then
            (discard n.monitor.lock).enter .connecting
          else discard n.monitor.lock := by
        rw [discard_lock]
        rfl
      have hconnects := Passage.connects (p := p) hfree hnone hopen
      rw [hbegin] at hconnects
      by_cases hphase : (discard n.monitor.lock).phase = .uninitialized
      · simpa [hphase, waits, Turn.next] using hconnects
      · simpa [hphase, waits, Turn.next] using hconnects

/-- What is done with the lock. -/
theorem passage_withMonitorLock {n : Node} (hfree : ¬ n.monitor.locked) (work : MonitorWork) :
    Passage n.monitor (.waiting (.monitorLock work)) (some .granted)
      ((n.onMonitor .lock).withMonitorLock work).state.monitor
      ((n.onMonitor .lock).withMonitorLock work).turn.next := by
  have habandon (s : Nat) : (n.monitor.lock.abandon s).unlock = n.monitor.abandon s := by
    rw [Monitor.abandon_lock]
    exact Monitor.unlock_lock (by simpa using hfree)
  cases work with
  | connect p => exact passage_connectLocked hfree p
  | evict s =>
    have hevicts := Passage.evicts (s := s) hfree
    rwa [← habandon] at hevicts
  | shut =>
    have hslot : (n.onMonitor .lock).monitor.slot = n.monitor.slot := rfl
    simp only [withMonitorLock, shutLocked]
    split
    · rename_i s hs
      have hshuts := Passage.shuts hfree (hslot ▸ hs)
      rwa [← habandon] at hshuts
    · rename_i hs
      have hclear : n.monitor.lock.unlock.clearSettings = n.monitor.clearSettings := by
        rw [Monitor.unlock_lock hfree]
      have hshuts := Passage.shutsNone hfree (hslot ▸ hs)
      rwa [← hclear] at hshuts

/-! ### Answers -/

theorem passage_connected {n : Node} {s : Option Nat} (hs : n.isOffer s) (p : Purpose) :
    Passage n.monitor (.waiting (.connecting p)) (some (.session s))
      (n.connected s p).state.monitor (n.connected s p).turn.next := by
  unfold connected
  split
  · rw [monitor_withSession_none, next_withSession_none]
    exact .unreachable
  · rw [state_withSession_some, next_withSession_some]
    exact .adopts hs

theorem passage_probed (n : Node) (s : Nat) (r : Except Fault (List Wire.Row)) :
    Passage n.monitor (.waiting (.querying s)) (some (.rows r))
      (n.probed s r).state.monitor (n.probed s r).turn.next := by
  unfold probed
  split
  · rename_i hover
    exact .ignored hover
  · rename_i hopen
    split
    · rename_i settings hrow
      exact .accepted hopen hrow
    · rename_i hrow
      exact .rowless hopen hrow
    · rename_i fault hrow
      split
      · rename_i hconn
        exact .cutOff hopen hrow hconn
      · rename_i hconn
        exact .failed hopen hrow hconn

/-- **The list is complete**, for a call that is answered. -/
theorem passage_resume {w : Wait} {a : Answer} {n : Node} {st : Step}
    (h : resume w a n = some st) :
    Passage n.monitor (.waiting w) (some a) st.state.monitor st.turn.next := by
  have haside {st : Step} (hw : w.isAside) (h : Aside n st) :
      Passage n.monitor (.waiting w) (some a) st.state.monitor st.turn.next := by
    rw [h.monitor]
    exact .asideResumes hw h.next
  unfold resume at h
  split at h
  · split at h
    · cases h
    · rename_i hfree
      cases h
      exact passage_withMonitorLock hfree _
  · split at h
    · rename_i hoffer
      cases h
      exact passage_connected hoffer _
    · cases h
  · cases h
    exact passage_probed n _ _
  · cases h
    exact .dropped
  · cases h
    exact .cleared
  · cases h
    obtain ⟨hmonitor, hw, -⟩ := aside_releaseLink n
    rw [hmonitor]
    exact .provided hw
  · split at h
    · split at h
      · cases h
        exact haside rfl (aside_ends n nofun)
      · cases h
        exact haside rfl (aside_waits n rfl)
    · cases h
  · cases h
    exact haside rfl (aside_ends n nofun)
  · split at h
    · cases h
    · cases h
      exact haside rfl (Aside.of_onLink (aside_withLinkLock _ _))
  · cases h
    exact haside rfl (aside_linkOpened n _ _)
  · cases h
    exact haside rfl (aside_answered n _ _)
  · cases h
    exact haside rfl (aside_ends n nofun)
  · cases h

end Node

end NodeSidecar
