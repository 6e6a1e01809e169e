import NodeSidecar.Monitor.Update
/-!
# Monitor — what a change leaves alone

A monitor has two sides: what it holds of sessions (`holding`) and all the
rest (`apart`). The changes to sessions leave the rest alone, and the changes
that a probe makes leave the sessions alone; among the latter, those that only
tell how the node is doing leave the adapter alone.
-/

namespace NodeSidecar.Monitor

variable (m : Monitor)

/-- What a monitor holds of sessions. -/
structure Holding where
  /-- Every session opened so far. -/
  sessions : List QuerySession
  /-- The session in use. -/
  slot : Option Nat
  /-- The monitor listens on it. -/
  registered : Bool
  /-- The id under which it listens. -/
  listener : Option Nat
  /-- A call is opening or giving up a session. -/
  locked : Bool

/-- What the monitor holds of sessions. -/
def holding : Holding :=
  ⟨m.sessions, m.slot, m.registered, m.listener, m.locked⟩

/-- The monitor, but for what it holds of sessions. -/
def apart : Monitor :=
  { m with sessions := [], slot := none, registered := false, listener := none, locked := false }

/-- What a monitor has of adapters. -/
structure Outfit where
  /-- The adapters to choose from. -/
  catalog : Catalog
  /-- The adapter in use. -/
  adapter : Option Adapter
  /-- The factories of all adapters built so far, the last one first. -/
  built : List Factory
  /-- How many adapters were put to use. -/
  swaps : Nat

/-- What the monitor has of adapters. -/
def outfit : Outfit :=
  ⟨m.catalog, m.adapter, m.built, m.counts.swaps⟩

/-- What a monitor has of probes. -/
structure Admission where
  /-- A probe is running. -/
  probing : Bool
  /-- How many probes ran. -/
  probes : Nat
  /-- How many were left out. -/
  skipped : Nat

/-- What the monitor has of probes. -/
def admission : Admission :=
  ⟨m.probing, m.counts.probes, m.counts.skipped⟩

/-! ## Changes to sessions -/

@[simp] theorem apart_unlock : m.unlock.apart = m.apart := rfl

@[simp] theorem apart_listen (s : Nat) : (m.listen s).apart = m.apart := by
  unfold listen
  split
  · rfl
  · split <;> rfl

@[simp] theorem apart_unlisten (s : Nat) : (m.unlisten s).apart = m.apart := by
  unfold unlisten
  split
  · split <;> rfl
  · rfl

@[simp] theorem apart_adopt (s : Nat) : (m.adopt s).apart = m.apart := by
  rw [← apart_listen m s]
  rfl

@[simp] theorem apart_abandon (s : Nat) : (m.abandon s).apart = m.apart := by
  unfold abandon
  split
  · rw [← apart_unlisten m s]
    rfl
  · rfl

theorem phase_eq_of_apart {m m' : Monitor} (h : m.apart = m'.apart) : m.phase = m'.phase := by
  have hphase : m.apart.phase = m'.apart.phase := by rw [h]
  exact hphase

theorem isClosed_eq_of_apart {m m' : Monitor} (h : m.apart = m'.apart) :
    m.isClosed = m'.isClosed := by
  rw [isClosed, isClosed, phase_eq_of_apart h]

theorem settings_eq_of_apart {m m' : Monitor} (h : m.apart = m'.apart) :
    m.settings = m'.settings := by
  have hsettings : m.apart.settings = m'.apart.settings := by rw [h]
  exact hsettings

theorem counts_eq_of_apart {m m' : Monitor} (h : m.apart = m'.apart) :
    m.counts = m'.counts := by
  have hcounts : m.apart.counts = m'.apart.counts := by rw [h]
  exact hcounts

theorem outfit_eq_of_apart {m m' : Monitor} (h : m.apart = m'.apart) :
    m.outfit = m'.outfit := by
  have houtfit : m.apart.outfit = m'.apart.outfit := by rw [h]
  exact houtfit

theorem admission_eq_of_apart {m m' : Monitor} (h : m.apart = m'.apart) :
    m.admission = m'.admission := by
  have hadmission : m.apart.admission = m'.apart.admission := by rw [h]
  exact hadmission

/-! ### The lock

Taking the lock first makes no difference to what is done to a session, and a
lock that was free is given back as it was. -/

theorem unlisten_lock (s : Nat) : m.lock.unlisten s = (m.unlisten s).lock := by
  cases hr : m.registered <;> cases hl : m.listener <;>
    simp [unlisten, lock, updateSession, hr, hl]

theorem abandon_lock (s : Nat) : m.lock.abandon s = (m.abandon s).lock := by
  unfold abandon
  rw [unlisten_lock]
  by_cases h : m.slot = some s <;> simp [lock, h]

@[simp] theorem locked_abandon (s : Nat) : (m.abandon s).locked = m.locked := by
  unfold abandon unlisten
  split
  · split
    · split <;> rfl
    · rfl
  · rfl

theorem unlock_lock {m : Monitor} (h : ¬ m.locked) : m.lock.unlock = m := by
  cases m
  simp_all [lock, unlock]

/-! ## Changes to the rest -/

@[simp] theorem holding_enter (p : Phase) : (m.enter p).holding = m.holding := by
  unfold enter
  split <;> rfl

@[simp] theorem holding_admitProbe : m.admitProbe.holding = m.holding := rfl

@[simp] theorem holding_skipProbe : m.skipProbe.holding = m.holding := rfl

@[simp] theorem holding_endProbe : m.endProbe.holding = m.holding := rfl

@[simp] theorem holding_finish : m.finish.holding = m.holding := rfl

@[simp] theorem holding_clearSettings : m.clearSettings.holding = m.holding := rfl

@[simp] theorem holding_forget : m.forget.holding = m.holding := by
  rw [forget, holding_enter]
  rfl

@[simp] theorem holding_markDown (reason : String) : (m.markDown reason).holding = m.holding := by
  rw [markDown, holding_enter]
  split <;> rfl

@[simp] theorem holding_reject (release : String) (fault : Fault) :
    (m.reject release fault).holding = m.holding := by
  unfold reject
  split <;> rfl

@[simp] theorem holding_fitAdapter (release : String) :
    (m.fitAdapter release).holding = m.holding := by
  unfold fitAdapter
  split
  · exact holding_reject ..
  · split
    · rfl
    · split
      · exact holding_reject ..
      · rfl

@[simp] theorem holding_accept (settings : NodeSettings) :
    (m.accept settings).holding = m.holding := by
  rw [accept, holding_enter]
  exact holding_fitAdapter m _

/-! ## How the node is doing -/

@[simp] theorem phase_endProbe : m.endProbe.phase = m.phase := rfl

@[simp] theorem settings_endProbe : m.endProbe.settings = m.settings := rfl

@[simp] theorem counts_endProbe : m.endProbe.counts = m.counts := rfl

@[simp] theorem outfit_endProbe : m.endProbe.outfit = m.outfit := rfl

/-- A watch that is not over goes on to the next phase. -/
theorem phase_enter (p : Phase) : (m.enter p).phase = if m.isClosed then m.phase else p := by
  unfold enter
  split <;> rfl

@[simp] theorem settings_enter (p : Phase) : (m.enter p).settings = m.settings := by
  unfold enter
  split <;> rfl

@[simp] theorem outfit_enter (p : Phase) : (m.enter p).outfit = m.outfit := by
  unfold enter
  split <;> rfl

@[simp] theorem settings_forget : m.forget.settings = none := by
  simp [forget]

theorem phase_forget : m.forget.phase = if m.isClosed then m.phase else .down := by
  rw [forget, phase_enter]
  rfl

@[simp] theorem outfit_forget : m.forget.outfit = m.outfit := by
  rw [forget, outfit_enter]
  rfl

/-- What was reported down is forgotten once. -/
@[simp] theorem forget_forget : m.forget.forget = m.forget := by
  unfold forget enter isClosed
  by_cases h : m.phase = .closed <;> simp [h]

@[simp] theorem settings_markDown (reason : String) : (m.markDown reason).settings = none := by
  simp [markDown]

theorem phase_markDown (reason : String) :
    (m.markDown reason).phase = if m.isClosed then m.phase else .down := by
  rw [markDown, phase_enter]
  split <;> rfl

@[simp] theorem outfit_markDown (reason : String) : (m.markDown reason).outfit = m.outfit := by
  rw [markDown, outfit_enter]
  split <;> rfl

/-! ### Failures -/

@[simp] theorem counts_enter (p : Phase) : (m.enter p).counts = m.counts := by
  unfold enter
  split <;> rfl

@[simp] theorem counts_forget : m.forget.counts = m.counts := by
  rw [forget, counts_enter]

/-- A probe that finds the node down is counted. -/
@[simp] theorem failures_markDown (reason : String) :
    (m.markDown reason).counts.failures = m.counts.failures + 1 := by
  rw [markDown, counts_enter]
  split <;> rfl

/-! ## The adapter -/

@[simp] theorem phase_reject (release : String) (fault : Fault) :
    (m.reject release fault).phase = m.phase := by
  unfold reject
  split <;> rfl

@[simp] theorem outfit_reject (release : String) (fault : Fault) :
    (m.reject release fault).outfit = m.outfit := by
  unfold reject
  split <;> rfl

@[simp] theorem phase_fitAdapter (release : String) :
    (m.fitAdapter release).phase = m.phase := by
  unfold fitAdapter
  split
  · exact phase_reject ..
  · split
    · rfl
    · split
      · exact phase_reject ..
      · rfl

@[simp] theorem failures_fitAdapter (release : String) :
    (m.fitAdapter release).counts.failures = m.counts.failures := by
  have hreject (fault : Fault) : (m.reject release fault).counts = m.counts := by
    unfold reject
    split <;> rfl
  unfold fitAdapter
  split
  · rw [hreject]
  · split
    · rfl
    · split
      · rw [hreject]
      · rfl

@[simp] theorem failures_accept (settings : NodeSettings) :
    (m.accept settings).counts.failures = m.counts.failures := by
  rw [accept, counts_enter]
  exact failures_fitAdapter m _

@[simp] theorem settings_accept (settings : NodeSettings) :
    (m.accept settings).settings = some settings := by
  simp [accept]

theorem phase_accept (settings : NodeSettings) :
    (m.accept settings).phase = if m.isClosed then m.phase else .healthy := by
  rw [accept, phase_enter]
  simp [isClosed]

@[simp] theorem outfit_accept (settings : NodeSettings) :
    (m.accept settings).outfit = (m.fitAdapter settings.releaseVersion).outfit := by
  rw [accept, outfit_enter]
  rfl

/-! ## Probes

What a probe finds out, and what is done about it, lets no probe in and counts
none. -/

@[simp] theorem admission_enter (p : Phase) : (m.enter p).admission = m.admission := by
  unfold enter
  split <;> rfl

@[simp] theorem admission_forget : m.forget.admission = m.admission := by
  rw [forget, admission_enter]
  rfl

@[simp] theorem admission_markDown (reason : String) :
    (m.markDown reason).admission = m.admission := by
  rw [markDown, admission_enter]
  split <;> rfl

@[simp] theorem admission_reject (release : String) (fault : Fault) :
    (m.reject release fault).admission = m.admission := by
  unfold reject
  split <;> rfl

@[simp] theorem admission_fitAdapter (release : String) :
    (m.fitAdapter release).admission = m.admission := by
  unfold fitAdapter
  split
  · exact admission_reject ..
  · split
    · rfl
    · split
      · exact admission_reject ..
      · rfl

@[simp] theorem admission_accept (settings : NodeSettings) :
    (m.accept settings).admission = m.admission := by
  rw [accept, admission_enter]
  exact admission_fitAdapter m _

/-- A probe that is over is not running, and stays counted. -/
theorem admission_endProbe :
    m.endProbe.admission = { m.admission with probing := false } := rfl

end NodeSidecar.Monitor
