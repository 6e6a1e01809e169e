import NodeSidecar.Proofs.Monitor.Listening
import NodeSidecar.Proofs.Node.History
import NodeSidecar.Proofs.Token
/-!
# Node — the session in use and the listener on it

The lock of a monitor is held by the one call that opens a session, and no
session is in use meanwhile (`Guarded`). With that, in every history: the
monitor listens on the session in use, once, and nowhere else
(`Monitor.Listening`), and the sessions that it was given and that are not in
use are over (`Monitor.Kept`).
-/

namespace NodeSidecar.Node

open Monitor (Listening Kept Over Grows)

variable {m m' : Monitor} {p : Progress Call Wait} {a : Option Answer} {w : Option Wait}

/-- A session is being opened. -/
def Connects (w : Option Wait) : Prop :=
  ∃ p, w = some (.connecting p)

/-- **One call at a time opens a session**: the one that holds the lock. No
session is in use meanwhile. -/
structure Guarded (m : Monitor) (waiting : Nat → Option Wait) : Prop where
  locked_iff : m.locked = true ↔ ∃ i, Connects (waiting i)
  unique : ∀ i j, Connects (waiting i) → Connects (waiting j) → i = j
  slot_none : m.locked = true → m.slot = none

/-- The lock is a token for opening a session. -/
theorem Guarded.token {waiting : Nat → Option Wait} (h : Guarded m waiting) :
    Token Connects (m.locked = true) waiting :=
  ⟨h.locked_iff, h.unique⟩

theorem Guarded.of_token {waiting : Nat → Option Wait}
    (h : Token Connects (m.locked = true) waiting) (hslot : m.locked = true → m.slot = none) :
    Guarded m waiting :=
  ⟨h.up_iff, h.unique, hslot⟩

theorem not_connects_none : ¬ Connects none := by
  simp [Connects]

theorem not_connects_next (s : Nat) (p : Purpose) : ¬ Connects (p.next s) := by
  cases p <;> simp [Purpose.next, Connects]

theorem not_connects_of_aside (hw : ∀ v, w = some v → v.isAside) : ¬ Connects w := by
  rintro ⟨p, rfl⟩
  exact absurd (hw _ rfl) (by simp [Wait.isAside])

/-- What a stretch does to the lock. -/
inductive LockUse (m m' : Monitor) (p : Progress Call Wait) (w : Option Wait) : Prop
  /-- It leaves the lock alone. -/
  | leaves : (∀ q, p ≠ .waiting (.connecting q)) → ¬ Connects w → m'.locked = m.locked →
      (m.locked → m'.slot = m.slot) → LockUse m m' p w
  /-- It takes the lock, to open a session. -/
  | takes : (∀ q, p ≠ .waiting (.connecting q)) → Connects w → ¬ m.locked → m'.locked →
      m'.slot = none → LockUse m m' p w
  /-- It gives the lock back. -/
  | returns (q : Purpose) : p = .waiting (.connecting q) → ¬ Connects w → ¬ m'.locked →
      LockUse m m' p w

theorem lockUse_of_holding (he : m'.holding = m.holding)
    (hp : ∀ q, p ≠ .waiting (.connecting q)) (hw : ¬ Connects w) : LockUse m m' p w :=
  .leaves hp hw (congrArg Monitor.Holding.locked he) fun _ => congrArg Monitor.Holding.slot he

/-- A session that is not usable is discarded. -/
theorem slot_discard (m : Monitor) : (discard m).slot = none := by
  unfold discard
  split
  · rename_i s hs
    simp [Monitor.abandon, hs]
  · rename_i hs
    exact hs

/-- **What every stretch does to the lock.** -/
theorem Passage.lockUse (h : Passage m p a m' w) : LockUse m m' p w := by
  cases h with
  | connects hfree hnone hopen =>
    have hlocked := congrArg Monitor.Holding.locked (discard m).holding_beginConnect
    have hslot := congrArg Monitor.Holding.slot (discard m).holding_beginConnect
    exact .takes nofun ⟨_, rfl⟩ hfree hlocked (hslot.trans (slot_discard m))
  | @unreachable q =>
    have hlocked := congrArg Monitor.Holding.locked (m.unlock.holding_without q)
    exact .returns q rfl not_connects_none (ne_true_of_eq_false hlocked)
  | @adopts q s hs => exact .returns q rfl (not_connects_next s q) nofun
  | @late q hfree hnone hover =>
    have hlocked := congrArg Monitor.Holding.locked ((discard m).holding_without q)
    exact .leaves nofun not_connects_none (hlocked.trans (locked_discard m))
      fun h => absurd h hfree
  | @evicts s hfree =>
    exact .leaves nofun (by simp [Connects]) (m.locked_abandon s) fun h => absurd h hfree
  | @shuts s hfree hs =>
    exact .leaves nofun (by simp [Connects]) (m.locked_abandon s) fun h => absurd h hfree
  | @found q s hfree hs => exact lockUse_of_holding rfl nofun (not_connects_next s q)
  | opened => exact .leaves nofun not_connects_none rfl fun _ => rfl
  | lost => exact .leaves nofun not_connects_none rfl fun _ => rfl
  | provided hw => exact lockUse_of_holding rfl nofun (not_connects_of_aside hw)
  | asideStarts hc hw => exact lockUse_of_holding rfl nofun (not_connects_of_aside hw)
  | asideResumes hv hw =>
    refine lockUse_of_holding rfl (fun q hq => ?_) (not_connects_of_aside hw)
    cases hq
    exact absurd hv (by simp [Wait.isAside])
  | _ => exact lockUse_of_holding (by simp) nofun (by simp [Connects])

theorem guarded_fresh (id : Nat) (catalog : Catalog) :
    Guarded (Monitor.fresh id catalog) fun _ => none :=
  .of_token (.init (by simp [Monitor.fresh]) not_connects_none) fun _ => rfl

theorem connects_waiting_iff {run : Calls} {i : Nat} :
    Connects (run.waiting i) ↔ ∃ q, run.progress i = some (.waiting (.connecting q)) := by
  simp only [Connects, Run.waiting_eq_some_iff]

/-- **The lock stays with the one call that opens a session.** -/
theorem Guarded.passes {t : Moment} {id : Nat} (hg : Guarded t.before.monitor t.before.waiting)
    (h : Passes t id p a) : Guarded t.after.monitor t.after.waiting := by
  have htoken := hg.token
  rcases h.passage.lockUse with ⟨hp, hw, hlocked, hslot⟩ | ⟨hp, hw, hfree, hlocked, hslot⟩ |
    ⟨q, rfl, hw, hfree⟩
  · have hnot : ¬ Connects (t.before.waiting id) := by
      rw [connects_waiting_iff]
      rintro ⟨q, hq⟩
      exact hp q (Option.some.inj (h.progress.symm.trans hq))
    refine .of_token ?_ fun h' => ?_
    · rw [h.waiting]
      exact htoken.keep (iff_of_false hw hnot) (by rw [hlocked])
    · rw [hlocked] at h'
      exact (hslot h').trans (hg.slot_none h')
  · refine .of_token ?_ fun _ => hslot
    rw [h.waiting]
    exact htoken.take hfree hw hlocked
  · refine .of_token ?_ fun h' => absurd h' hfree
    rw [h.waiting]
    exact htoken.release (connects_waiting_iff.2 ⟨q, h.progress⟩) hw hfree

/-- A stretch keeps the monitor listening on the session in use. -/
theorem Passage.listening (h : Passage m p a m' w) (hl : Listening m)
    (hslot : m.locked = true → m.slot = none)
    (hlock : ∀ q, p = .waiting (.connecting q) → m.locked = true) : Listening m' := by
  have hdiscard : Listening (discard m) := by
    unfold discard
    split
    · exact hl.abandon _
    · exact hl
  cases h with
  | opened => exact hl.openSession
  | @lost s => exact hl.closeSession s
  | @late q => exact hdiscard.of_holding ((discard m).holding_without q)
  | connects => exact hdiscard.lock.of_holding (discard m).holding_beginConnect
  | @evicts s => exact (hl.abandon s).closeSession s
  | @shuts s => exact (hl.abandon s).closeSession s
  | @unreachable q => exact hl.unlock.of_holding (m.unlock.holding_without q)
  | @adopts q s hs => exact (hl.adopt (hslot (hlock q rfl)) hs).unlock
  | _ => exact hl.of_holding (by simp)

/-- No stretch takes a session away or opens one again. -/
theorem Passage.grows (h : Passage m p a m' w) : Grows m m' := by
  have hdiscard : Grows m (discard m) := by
    unfold discard
    split
    · exact m.grows_abandon _
    · exact m.grows_refl
  cases h with
  | opened => exact m.grows_openSession
  | @lost s => exact m.grows_closeSession s
  | @late q => exact hdiscard.trans (Monitor.grows_of_holding ((discard m).holding_without q))
  | connects =>
    have hsessions : (discard m).beginConnect.sessions = (discard m).sessions :=
      congrArg Monitor.Holding.sessions (discard m).holding_beginConnect
    exact hdiscard.trans (Monitor.grows_of_sessions hsessions)
  | @evicts s => exact (m.grows_abandon s).trans (Monitor.grows_closeSession _ s)
  | @shuts s => exact (m.grows_abandon s).trans (Monitor.grows_closeSession _ s)
  | @unreachable q =>
    have hsessions : (m.unlock.without q).sessions = m.sessions :=
      congrArg Monitor.Holding.sessions (m.unlock.holding_without q)
    exact Monitor.grows_of_sessions hsessions
  | @adopts q s => exact m.grows_adopt s
  | _ => exact Monitor.grows_of_holding (by simp)

theorem slot_of_holding {s : Option Nat} (he : m'.holding = m.holding) (hs : m.slot = s) :
    m'.slot = s :=
  (congrArg Monitor.Holding.slot he).trans hs

/-- **A session that goes out of use is over.** -/
theorem Passage.slot_or_over (h : Passage m p a m' w) (hl : Listening m)
    (hslot : m.locked = true → m.slot = none)
    (hlock : ∀ q, p = .waiting (.connecting q) → m.locked = true) {s : Nat}
    (hs : m.slot = some s) : m'.slot = some s ∨ Over m' s := by
  have hlt : s < m.sessions.length := hl.lt_length hs
  -- Closing the session that was given up: it is this one, or this one stays in use.
  have hclose (v : Nat) : ((m.abandon v).closeSession v).slot = some s ∨
      Over ((m.abandon v).closeSession v) s := by
    by_cases hv : v = s
    · subst hv
      exact .inr (Monitor.over_closeSession ((m.grows_abandon v).length_le hlt))
    · have hne : m.slot ≠ some v := by
        rw [hs]
        simpa [eq_comm] using hv
      rw [Monitor.abandon, if_neg hne]
      exact .inl hs
  have hunused : m.usable = none → Over m s := fun hnone =>
    Monitor.over_of_not_isOpen hlt (Monitor.isOpen_eq_false_of_usable hnone hs)
  have hgrows := h.grows
  cases h with
  | late _ hnone => exact .inr (hgrows.over (hunused hnone))
  | connects _ hnone => exact .inr (hgrows.over (hunused hnone))
  | @evicts v => exact hclose v
  | @shuts v => exact hclose v
  | @unreachable q => exact .inl (slot_of_holding (m.unlock.holding_without q) hs)
  | @adopts q v =>
    rw [hslot (hlock q rfl)] at hs
    cases hs
  | opened => exact .inl hs
  | lost => exact .inl hs
  | _ => exact .inl (slot_of_holding (by simp) hs)

theorem Passage.slot_of_session {q : Purpose} {s : Nat}
    (h : Passage m (.waiting (.connecting q)) (some (.session (some s))) m' w) :
    m'.slot = some s ∧ m.isOpen s = true := by
  cases h with
  | adopts hs => exact ⟨rfl, hs⟩
  | asideResumes hv => cases hv

/-- The session that the provider gives is in use then. -/
theorem Passes.slot_of_obtains {t : Moment} {id s : Nat} (h : Passes t id p a)
    (ho : obtains t = some s) :
    t.after.monitor.slot = some s ∧ t.before.monitor.isOpen s = true := by
  have hpassage := h.passage
  unfold obtains at ho
  split at ho
  · rename_i q v heq
    obtain ⟨rfl, rfl⟩ := h.eq_of_cause heq
    subst ho
    exact hpassage.slot_of_session
  · cases ho

/-! ## The invariant -/

/-- What holds of the sessions after every history. -/
structure Held (past : List Moment) (run : Calls) : Prop where
  guarded : Guarded run.monitor run.waiting
  listening : Listening run.monitor
  kept : Kept run.monitor (obtained past)

theorem Held.passes {past : List Moment} {t : Moment} {id : Nat} (hh : Held past t.before)
    (h : Passes t id p a) : Held (past ++ [t]) t.after := by
  have hlock : ∀ q, p = .waiting (.connecting q) → t.before.monitor.locked = true := by
    rintro q rfl
    exact hh.guarded.locked_iff.2 ⟨id, connects_waiting_iff.2 ⟨q, h.progress⟩⟩
  have hgrows := h.passage.grows
  have hkept : Kept t.after.monitor (obtained past) :=
    hh.kept.of_grows hgrows fun s hs =>
      h.passage.slot_or_over hh.listening hh.guarded.slot_none hlock hs
  refine ⟨hh.guarded.passes h, h.passage.listening hh.listening hh.guarded.slot_none hlock, ?_⟩
  intro s hs
  rw [obtained, List.filterMap_append] at hs
  rcases List.mem_append.1 hs with hs | hs
  · exact hkept s hs
  · have ho : obtains t = some s := by simpa using hs
    obtain ⟨hslot, hopen⟩ := h.slot_of_obtains ho
    obtain ⟨q, hq, -⟩ := Monitor.isOpen_iff.1 hopen
    exact ⟨hgrows.length_le (List.getElem?_eq_some_iff.1 hq).1, .inl hslot⟩

theorem Held.quiet {past : List Moment} {t : Moment} (hh : Held past t.before)
    (h : Quiet t) : Held (past ++ [t]) t.after := by
  have ho : obtained (past ++ [t]) = obtained past := by
    simp [obtained, obtains, h.cause]
  refine ⟨?_, ?_, ?_⟩
  · rw [h.monitor, h.waiting]
    exact hh.guarded
  · rw [h.monitor]
    exact hh.listening
  · rw [h.monitor, ho]
    exact hh.kept

/-- **Every history keeps the sessions.** -/
theorem held {id : Nat} {catalog : Catalog} {past : List Moment} {run : Calls}
    (h : History id catalog past run) : Held past run := by
  refine history_induction h (Run.bounded_idle _) ?_ (fun _ _ hh hq => hh.quiet hq)
    fun _ _ _ _ _ hh hp => hh.passes hp
  exact ⟨guarded_fresh id catalog, Monitor.listening_fresh id catalog, by simp [Kept, obtained]⟩

/-- **A monitor listens on the session in use, once, and nowhere else**, after
every history. Every session that the provider gave it is over, unless it is
in use. -/
theorem listens_on_session_in_use {id : Nat} {catalog : Catalog} {past : List Moment}
    {run : Calls} (h : History id catalog past run) :
    (run.monitor.hasListener = true ↔ ∃ s, run.monitor.slot = some s) ∧
    (∀ s, run.monitor.slot = some s → ∃ i q, run.monitor.listener = some i ∧
      run.monitor.sessions[s]? = some q ∧ q.listeners.entries = [(i, monitorListener)]) ∧
    (∀ s q, run.monitor.sessions[s]? = some q → run.monitor.slot ≠ some s →
      q.listeners.entries = []) ∧
    run.monitor.registrations ≤ 1 ∧
    ∀ s ∈ obtained past, run.monitor.slot ≠ some s → Over run.monitor s := by
  obtain ⟨-, hl, hk⟩ := held h
  refine ⟨?_, fun s hs => (hl.of_some s hs).2, hl.elsewhere, hl.registrations_le_one,
    fun s hs hne => (hk s hs).2.resolve_left hne⟩
  rw [Monitor.hasListener]
  rcases hslot : run.monitor.slot with - | s
  · simp [(hl.of_none hslot).1]
  · simp [(hl.of_some s hslot).1]

/-- A session is opened for a probe after the watch has ended. -/
def lateConnect : List (Move Call Answer) :=
  [.submit .probe, .start 0, .resume 0 .granted, .submit .close, .start 1,
    .submit .sessionOpened, .start 2, .resume 0 (.session (some 0))]

/-- The monitor listens on a session that it was given after the watch has
ended. -/
theorem listens_on_late_session : ∃ past run, History 1 .standard past run ∧
    run.monitor.isClosed = true ∧ run.monitor.slot = some 0 ∧
    run.monitor.hasListener = true ∧ run.monitor.registrations ≤ 1 := by
  have hmoves : (Run.idle (Node.fresh 1 .standard)).applyAll system lateConnect = some _ := rfl
  have hpast := execution_of_applyAll hmoves
  obtain ⟨hlistener, -, -, hcount, -⟩ := listens_on_session_in_use hpast
  exact ⟨_, _, hpast, rfl, rfl, hlistener.2 ⟨0, rfl⟩, hcount⟩

end NodeSidecar.Node
