import NodeSidecar.Proofs.Monitor.Frame
/-!
# Monitor — where it listens

`Listening` ties together the four places in which a monitor keeps that it
listens: the flag, the id, the session in use and the tables of all sessions.
Each change to sessions keeps it. `Kept` says that the sessions a monitor was
given are closed, the one in use apart.
-/

namespace NodeSidecar.Monitor

variable {m m' : Monitor} {s : Nat}

/-- **The monitor listens on the session in use, once, and nowhere else.** -/
structure Listening (m : Monitor) : Prop where
  /-- Without a session in use the monitor does not listen. -/
  of_none : m.slot = none → m.registered = false ∧ m.listener = none
  /-- On the session in use its listener is the only one. -/
  of_some : ∀ s, m.slot = some s → m.registered = true ∧
    ∃ i q, m.listener = some i ∧ m.sessions[s]? = some q ∧
      q.listeners.entries = [(i, monitorListener)]
  /-- No other session has a listener. -/
  elsewhere : ∀ s q, m.sessions[s]? = some q → m.slot ≠ some s → q.listeners.entries = []

/-- The session with this number is there and was closed or lost. -/
def Over (m : Monitor) (s : Nat) : Prop :=
  ∃ q, m.sessions[s]? = some q ∧ q.closed = true

/-- The sessions in the list are over, the one in use apart. -/
def Kept (m : Monitor) (got : List Nat) : Prop :=
  ∀ s ∈ got, s < m.sessions.length ∧ (m.slot = some s ∨ m.Over s)

/-- No session goes away, and none that is over is opened again. -/
def Grows (m m' : Monitor) : Prop :=
  ∀ (s : Nat) (q : QuerySession), m.sessions[s]? = some q →
    ∃ q' : QuerySession, m'.sessions[s]? = some q' ∧ (q.closed = true → q'.closed = true)

theorem isOpen_iff : m.isOpen s = true ↔ ∃ q, m.sessions[s]? = some q ∧ q.closed = false := by
  unfold isOpen
  split
  · rename_i q hq
    simp [hq]
  · rename_i hq
    simp [hq]

/-- A session that is there is over, or open. -/
theorem over_of_not_isOpen (hlt : s < m.sessions.length) (h : m.isOpen s = false) :
    m.Over s := by
  refine ⟨m.sessions[s], List.getElem?_eq_getElem hlt, ?_⟩
  simpa [isOpen, List.getElem?_eq_getElem hlt] using h

/-- Without a usable session, the session in use is not open. -/
theorem isOpen_eq_false_of_usable (h : m.usable = none) (hs : m.slot = some s) :
    m.isOpen s = false := by
  simpa [usable, hs] using h

/-! ## Listening -/

theorem Listening.of_holding (h : m.Listening) (he : m'.holding = m.holding) : m'.Listening := by
  simp only [holding, Holding.mk.injEq] at he
  obtain ⟨hsessions, hslot, hregistered, hlistener, -⟩ := he
  refine ⟨?_, ?_, ?_⟩
  · rw [hslot, hregistered, hlistener]
    exact h.of_none
  · rw [hslot, hregistered, hlistener, hsessions]
    exact h.of_some
  · rw [hslot, hsessions]
    exact h.elsewhere

theorem listening_fresh (id : Nat) (catalog : Catalog) : (fresh id catalog).Listening where
  of_none _ := ⟨rfl, rfl⟩
  of_some s hs := by cases hs
  elsewhere s q hq := by simp [fresh] at hq

/-- The lock is nothing to it. -/
theorem Listening.lock (h : m.Listening) : m.lock.Listening :=
  ⟨h.of_none, h.of_some, h.elsewhere⟩

theorem Listening.unlock (h : m.Listening) : m.unlock.Listening :=
  ⟨h.of_none, h.of_some, h.elsewhere⟩

theorem Listening.openSession (h : m.Listening) : m.openSession.Listening where
  of_none := h.of_none
  of_some s hs := by
    obtain ⟨hreg, i, q, hi, hq, hentries⟩ := h.of_some s hs
    have hlt : s < m.sessions.length := (List.getElem?_eq_some_iff.1 hq).1
    exact ⟨hreg, i, q, hi, by rw [Monitor.openSession, List.getElem?_append_left hlt, hq],
      hentries⟩
  elsewhere s q hq hs := by
    rcases Nat.lt_or_ge s m.sessions.length with hlt | hge
    · rw [Monitor.openSession, List.getElem?_append_left hlt] at hq
      exact h.elsewhere s q hq hs
    · rw [Monitor.openSession, List.getElem?_append_right hge] at hq
      obtain rfl : QuerySession.opened = q := by
        have hmem := List.mem_of_getElem? hq
        simpa [eq_comm] using hmem
      rfl

theorem getElem?_updateSession (m : Monitor) (s s' : Nat) (f : QuerySession → QuerySession) :
    (m.updateSession s f).sessions[s']? =
      (m.sessions[s']?).map fun q => if s = s' then f q else q := by
  rw [updateSession, List.getElem?_modify]
  by_cases hs : s = s' <;> simp [hs]

/-- Closing a session takes no listener away. -/
theorem Listening.closeSession (h : m.Listening) (s : Nat) : (m.closeSession s).Listening where
  of_none := h.of_none
  of_some s' hs := by
    obtain ⟨hreg, i, q, hi, hq, hentries⟩ := h.of_some s' hs
    refine ⟨hreg, i, if s = s' then { q with closed := true } else q, hi, ?_, ?_⟩
    · rw [Monitor.closeSession, getElem?_updateSession, hq]
      rfl
    · split <;> exact hentries
  elsewhere s' q hq hs := by
    rw [Monitor.closeSession, getElem?_updateSession] at hq
    obtain ⟨q', hq', rfl⟩ := Option.map_eq_some_iff.1 hq
    have hentries := h.elsewhere s' q' hq' hs
    split <;> exact hentries

/-- **A session that is put to use is listened on**, if none was in use. -/
theorem Listening.adopt (h : m.Listening) (hslot : m.slot = none) (hs : m.isOpen s) :
    (m.adopt s).Listening := by
  obtain ⟨hreg, hlistener⟩ := h.of_none hslot
  obtain ⟨q, hq, -⟩ := isOpen_iff.1 hs
  have hentries : q.listeners.entries = [] := h.elsewhere s q hq (by simp [hslot])
  -- Nothing was listened on, so the flag is down and the listener is in fact registered.
  have hsessions (s' : Nat) : (m.adopt s).sessions[s']? =
      (m.sessions[s']?).map fun q' =>
        if s = s' then { q' with listeners := (q.listeners.register monitorListener).1 }
        else q' := by
    rw [← getElem?_updateSession]
    simp [Monitor.adopt, listen, hreg, hq, updateSession]
  refine ⟨fun hnone => ?_, fun s' hs' => ?_, fun s' q' hq' hs' => ?_⟩
  · simp [Monitor.adopt] at hnone
  · obtain rfl : s = s' := by simpa [Monitor.adopt] using hs'
    refine ⟨by simp [Monitor.adopt, listen, hreg, hq], q.listeners.nextId,
      { q with listeners := (q.listeners.register monitorListener).1 }, ?_, ?_, ?_⟩
    · simp [Monitor.adopt, listen, hreg, hq, Host.Listeners.register]
    · rw [hsessions, hq]
      simp
    · simp [Host.Listeners.register, hentries]
  · have hne : s ≠ s' := by
      rintro rfl
      exact hs' rfl
    rw [hsessions] at hq'
    simp only [hne, if_false, Option.map_id'] at hq'
    exact h.elsewhere s' q' hq' (by simp [hslot])

/-- The session in use is given up with the listener on it. -/
theorem Listening.abandon (h : m.Listening) (s : Nat) : (m.abandon s).Listening := by
  by_cases hslot : m.slot = some s
  · obtain ⟨hreg, i, q, hi, hq, hentries⟩ := h.of_some s hslot
    have hsessions (s' : Nat) : (m.abandon s).sessions[s']? =
        (m.sessions[s']?).map fun q' =>
          if s = s' then { q' with listeners := (q'.listeners.unregister i).1 } else q' := by
      rw [← getElem?_updateSession]
      simp [Monitor.abandon, unlisten, hslot, hreg, hi, updateSession]
    refine ⟨fun _ => ?_, fun s' hs' => ?_, fun s' q' hq' _ => ?_⟩
    · simp [Monitor.abandon, unlisten, hslot, hreg, hi]
    · simp [Monitor.abandon, hslot] at hs'
    · rw [hsessions] at hq'
      obtain ⟨q'', hq'', rfl⟩ := Option.map_eq_some_iff.1 hq'
      by_cases hs' : s = s'
      · subst hs'
        obtain rfl : q = q'' := by simpa [hq] using hq''
        simp [Host.Listeners.unregister, hentries]
      · simp only [hs', if_false]
        exact h.elsewhere s' q'' hq'' (by simpa [hslot] using hs')
  · rwa [Monitor.abandon, if_neg hslot]

/-! ### Counting

Over all sessions ever opened there is at most one listener. -/

/-- How many listeners the sessions opened so far have. -/
def registrations (m : Monitor) : Nat :=
  (m.sessions.flatMap (·.listeners.entries)).length

/-- Lists of which one has at most one element and the others have none. -/
theorem length_flatMap_le_one {α β : Type} {l : List α} {f : α → List β} {k : Nat}
    (hk : ∀ x, l[k]? = some x → (f x).length ≤ 1)
    (h : ∀ i x, l[i]? = some x → i ≠ k → f x = []) : (l.flatMap f).length ≤ 1 := by
  induction l generalizing k with
  | nil => exact Nat.zero_le 1
  | cons x l ih =>
    rw [List.flatMap_cons, List.length_append]
    cases k with
    | zero =>
      have hx : (f x).length ≤ 1 := hk x rfl
      have hl : l.flatMap f = [] := List.flatMap_eq_nil_iff.2 fun y hy => by
        obtain ⟨i, hi⟩ := List.mem_iff_getElem?.1 hy
        exact h (i + 1) y hi (Nat.succ_ne_zero i)
      simpa [hl] using hx
    | succ k =>
      have hx : f x = [] := h 0 x rfl (Nat.succ_ne_zero k).symm
      have hl : (l.flatMap f).length ≤ 1 := ih (fun y hy => hk y hy) fun i y hi hne =>
        h (i + 1) y hi (by omega)
      simpa [hx] using hl

theorem Listening.registrations_le_one (h : m.Listening) : m.registrations ≤ 1 := by
  refine length_flatMap_le_one (k := m.slot.getD m.sessions.length) (fun q hq => ?_)
    fun i q hq hne => ?_
  · rcases hslot : m.slot with - | s
    · simp [hslot] at hq
    · obtain ⟨-, i, q', -, hq', hentries⟩ := h.of_some s hslot
      obtain rfl : q' = q := by simpa [hslot, hq'] using hq
      simp [hentries]
  · exact h.elsewhere i q hq fun hs => hne (by simp [hs])

/-! ## Sessions that were given -/

theorem grows_refl (m : Monitor) : m.Grows m :=
  fun _ q hq => ⟨q, hq, fun hc => hc⟩

theorem Grows.trans {m'' : Monitor} (h : m.Grows m') (h' : m'.Grows m'') : m.Grows m'' := by
  intro s q hq
  obtain ⟨q', hq', hclosed⟩ := h s q hq
  obtain ⟨q'', hq'', hclosed'⟩ := h' s q' hq'
  exact ⟨q'', hq'', fun hc => hclosed' (hclosed hc)⟩

theorem grows_of_sessions (he : m'.sessions = m.sessions) : m.Grows m' := by
  intro s q hq
  exact ⟨q, by rw [he, hq], fun hc => hc⟩

theorem grows_of_holding (he : m'.holding = m.holding) : m.Grows m' :=
  grows_of_sessions (congrArg Holding.sessions he)

/-- Changing a session without opening it again. -/
theorem grows_updateSession (m : Monitor) (s : Nat) {f : QuerySession → QuerySession}
    (hf : ∀ q, q.closed = true → (f q).closed = true) : m.Grows (m.updateSession s f) := by
  intro s' q hq
  refine ⟨if s = s' then f q else q, by rw [getElem?_updateSession, hq]; rfl, fun hc => ?_⟩
  split
  · exact hf q hc
  · exact hc

theorem grows_openSession (m : Monitor) : m.Grows m.openSession := by
  intro s q hq
  have hlt : s < m.sessions.length := (List.getElem?_eq_some_iff.1 hq).1
  exact ⟨q, by rw [openSession, List.getElem?_append_left hlt, hq], fun hc => hc⟩

theorem grows_closeSession (m : Monitor) (s : Nat) : m.Grows (m.closeSession s) :=
  grows_updateSession m s fun _ _ => rfl

theorem grows_adopt (m : Monitor) (s : Nat) : m.Grows (m.adopt s) := by
  unfold adopt listen
  split
  · exact grows_refl m
  · split
    · exact grows_refl m
    · exact grows_updateSession m s fun _ hc => hc

theorem grows_abandon (m : Monitor) (s : Nat) : m.Grows (m.abandon s) := by
  unfold abandon unlisten
  split
  · split
    · split
      · exact grows_refl m
      · exact grows_updateSession m s fun _ hc => hc
    · exact grows_refl m
  · exact grows_refl m

theorem Grows.over (h : m.Grows m') (ho : m.Over s) : m'.Over s := by
  obtain ⟨q, hq, hclosed⟩ := ho
  obtain ⟨q', hq', hclosed'⟩ := h s q hq
  exact ⟨q', hq', hclosed' hclosed⟩

theorem Grows.length_le (h : m.Grows m') (hlt : s < m.sessions.length) :
    s < m'.sessions.length := by
  obtain ⟨q', hq', -⟩ := h s _ (List.getElem?_eq_getElem hlt)
  exact (List.getElem?_eq_some_iff.1 hq').1

/-- A session that is closed is over. -/
theorem over_closeSession (hlt : s < m.sessions.length) : (m.closeSession s).Over s := by
  refine ⟨{ m.sessions[s] with closed := true }, ?_, rfl⟩
  rw [closeSession, getElem?_updateSession, List.getElem?_eq_getElem hlt]
  simp

/-- The session in use is there. -/
theorem Listening.lt_length (h : m.Listening) (hs : m.slot = some s) :
    s < m.sessions.length := by
  obtain ⟨-, i, q, -, hq, -⟩ := h.of_some s hs
  exact (List.getElem?_eq_some_iff.1 hq).1

/-- **Sessions stay kept** while a session that goes out of use is over. -/
theorem Kept.of_grows {got : List Nat} (h : m.Kept got) (hg : m.Grows m')
    (hslot : ∀ s, m.slot = some s → m'.slot = some s ∨ m'.Over s) : m'.Kept got := by
  intro s hs
  obtain ⟨hlt, hin | hover⟩ := h s hs
  · exact ⟨hg.length_le hlt, hslot s hin⟩
  · exact ⟨hg.length_le hlt, .inr (hg.over hover)⟩

end NodeSidecar.Monitor
