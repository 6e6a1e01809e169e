import NodeSidecar.Proofs.Node.History
/-!
# Node — what readers are told

Few stretches tell what the node last said of itself, and those that do tell
what the monitor remembers at that very point (`Truthful`).
-/

namespace NodeSidecar.Node

/-- A stretch that tells what the node last said of itself tells what is
remembered then. -/
def Truthful (st : Step) : Prop :=
  ∀ s, st.turn.result = some (.settings s) → s = st.state.monitor.settings

theorem Aside.truthful {n : Node} {st : Step} (h : Aside n st) : Truthful st :=
  fun s hs => absurd hs (h.result s)

theorem truthful_waits (n : Node) (w : Wait) : Truthful (n.waits w) :=
  nofun

theorem truthful_ends (n : Node) {r : Result} (hr : ∀ s, r ≠ .settings s) :
    Truthful (n.ends r) :=
  (aside_ends n hr).truthful

theorem truthful_withSession (n : Node) (s : Option Nat) (q : Purpose) :
    Truthful (n.withSession s q) := by
  cases q with
  | session => exact truthful_ends n nofun
  | settings =>
    rintro st ⟨⟩
    rfl
  | probe =>
    cases s with
    | none => exact truthful_ends _ nofun
    | some s => exact truthful_waits n _

theorem truthful_seekSession (n : Node) (q : Purpose) : Truthful (n.seekSession q) := by
  unfold seekSession
  split
  · exact truthful_withSession n none q
  · split
    · exact truthful_withSession n _ q
    · exact truthful_waits n _

theorem truthful_startProbe (n : Node) : Truthful n.startProbe := by
  unfold startProbe
  split
  · exact truthful_ends n nofun
  · split
    · exact truthful_ends _ nofun
    · exact truthful_seekSession _ _

theorem truthful_startClose (n : Node) : Truthful n.startClose := by
  unfold startClose
  split
  · exact truthful_ends n nofun
  · exact truthful_waits _ _

theorem truthful_start (c : Call) (n : Node) : Truthful (start c n) := by
  cases c with
  | probe => exact truthful_startProbe n
  | ensureSession => exact truthful_seekSession n _
  | readSettings => exact truthful_seekSession n _
  | adapterSettings => exact truthful_waits n _
  | snapshot order => exact (aside_startSnapshot n order).truthful
  | openLink => exact (aside_seekLink n _).truthful
  | manage r => exact (aside_seekLink n _).truthful
  | closeLink => exact (aside_releaseLink n).truthful
  | close => exact truthful_startClose n
  | event s e => exact nofun
  | reportDown => exact truthful_ends _ nofun
  | sessionOpened => exact truthful_ends _ nofun
  | sessionLost s => exact truthful_ends _ nofun

theorem truthful_connectLocked (n : Node) (q : Purpose) : Truthful (n.connectLocked q) := by
  unfold connectLocked
  split
  · exact truthful_withSession _ _ q
  · dsimp only
    split
    · exact truthful_withSession _ _ q
    · exact truthful_waits _ _

theorem truthful_shutLocked (n : Node) : Truthful n.shutLocked := by
  unfold shutLocked
  split
  · exact truthful_waits _ _
  · exact truthful_waits _ _

theorem truthful_withMonitorLock (n : Node) (work : MonitorWork) :
    Truthful (n.withMonitorLock work) := by
  cases work with
  | connect q => exact truthful_connectLocked n q
  | evict s => exact truthful_waits _ _
  | shut => exact truthful_shutLocked n

theorem truthful_connected (n : Node) (s : Option Nat) (q : Purpose) :
    Truthful (n.connected s q) := by
  unfold connected
  split
  · exact truthful_withSession _ _ q
  · exact truthful_withSession _ _ q

theorem truthful_probed (n : Node) (s : Nat) (r : Except Fault (List Wire.Row)) :
    Truthful (n.probed s r) := by
  unfold probed
  split
  · exact truthful_ends _ nofun
  · split
    · exact truthful_ends _ nofun
    · exact truthful_ends _ nofun
    · dsimp only
      split
      · exact truthful_waits _ _
      · exact truthful_ends _ nofun

theorem truthful_resume {v : Wait} {ans : Answer} {n : Node} {st : Step}
    (h : resume v ans n = some st) : Truthful st := by
  unfold resume at h
  split at h
  · split at h
    · cases h
    · cases h
      exact truthful_withMonitorLock _ _
  · split at h
    · cases h
      exact truthful_connected n _ _
    · cases h
  · cases h
    exact truthful_probed n _ _
  · cases h
    exact truthful_ends _ nofun
  · cases h
    exact truthful_waits _ _
  · cases h
    exact (aside_releaseLink n).truthful
  · split at h
    · split at h
      · cases h
        exact truthful_ends n nofun
      · cases h
        exact truthful_waits n _
    · cases h
  · cases h
    exact truthful_ends n nofun
  · split at h
    · cases h
    · cases h
      exact (aside_withLinkLock _ _).truthful
  · cases h
    exact (aside_linkOpened n _ _).truthful
  · cases h
    exact (aside_answered n _ _).truthful
  · cases h
    exact truthful_ends n nofun
  · cases h

/-- **A reader is told what is remembered when it is told.** -/
theorem settings_of_result {t : Moment} {settings : Option NodeSettings}
    (h : t.before.apply system t.move = some t.after)
    (hr : t.result system = some (.settings settings)) :
    settings = t.after.monitor.settings := by
  rcases Transition.submitted_or_ran h with ⟨c, hc, -⟩ | ⟨id, p, a, st, hran⟩
  · simp [Transition.result, Transition.stretch?, Transition.cause, hc] at hr
  · have htold : Truthful st := by
      rcases System.proceed_eq_some_iff.1 hran.proceed with ⟨c, -, -, rfl⟩ | ⟨v, b, -, -, hres⟩
      · exact truthful_start c t.before.state
      · exact truthful_resume hres
    rw [hran.result_eq] at hr
    rw [Run.monitor, hran.state]
    exact htold settings hr

end NodeSidecar.Node
