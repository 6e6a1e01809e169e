import NodeSidecar.Proofs.Node.History
/-!
# Node — counts that only grow

Whatever happens on a node, its monitor goes on watching the same node, and none of
its counts goes down. Both are said at once (`Monitor.Later`), are kept by every
stretch (`Node.Passage.later`), and so by every move of a run.
-/

namespace NodeSidecar

namespace Counts

/-- None of the counts is above the one it is compared with. -/
structure AtMost (a b : Counts) : Prop where
  probes : a.probes ≤ b.probes
  skipped : a.skipped ≤ b.skipped
  swaps : a.swaps ≤ b.swaps
  failures : a.failures ≤ b.failures

variable {a b c : Counts}

theorem AtMost.refl (a : Counts) : a.AtMost a :=
  ⟨Nat.le_refl _, Nat.le_refl _, Nat.le_refl _, Nat.le_refl _⟩

theorem AtMost.trans (h : a.AtMost b) (h' : b.AtMost c) : a.AtMost c :=
  ⟨Nat.le_trans h.probes h'.probes, Nat.le_trans h.skipped h'.skipped,
    Nat.le_trans h.swaps h'.swaps, Nat.le_trans h.failures h'.failures⟩

end Counts

namespace Monitor

variable {m m' m'' : Monitor}

/-- The monitor of the same node, when it has counted on. -/
structure Later (m m' : Monitor) : Prop where
  id : m'.id = m.id
  counts : m.counts.AtMost m'.counts

theorem Later.trans (h : Later m m') (h' : Later m' m'') : Later m m'' :=
  ⟨h'.id.trans h.id, h.counts.trans h'.counts⟩

theorem later_of_eq (hid : m'.id = m.id) (hcounts : m'.counts = m.counts) : Later m m' :=
  ⟨hid, hcounts ▸ .refl m.counts⟩

theorem Later.refl (m : Monitor) : Later m m :=
  later_of_eq rfl rfl

theorem later_of_apart (h : m'.apart = m.apart) : Later m m' := by
  have hid : m'.apart.id = m.apart.id := by rw [h]
  exact later_of_eq hid (counts_eq_of_apart h)

theorem later_enter (m : Monitor) (p : Phase) : Later m (m.enter p) := by
  refine later_of_eq ?_ (m.counts_enter p)
  unfold enter
  split <;> rfl

theorem later_admitProbe (m : Monitor) : Later m m.admitProbe :=
  ⟨rfl, Nat.le_succ _, Nat.le_refl _, Nat.le_refl _, Nat.le_refl _⟩

theorem later_skipProbe (m : Monitor) : Later m m.skipProbe :=
  ⟨rfl, Nat.le_refl _, Nat.le_succ _, Nat.le_refl _, Nat.le_refl _⟩

theorem later_forget (m : Monitor) : Later m m.forget :=
  (later_of_eq rfl rfl : Later m m.clearSettings).trans (later_enter _ .down)

theorem later_markDown (m : Monitor) (reason : String) : Later m (m.markDown reason) := by
  unfold markDown
  refine Later.trans ?_ (later_enter _ .down)
  split
  · exact ⟨rfl, Nat.le_refl _, Nat.le_refl _, Nat.le_refl _, Nat.le_succ _⟩
  · exact ⟨rfl, Nat.le_refl _, Nat.le_refl _, Nat.le_refl _, Nat.le_succ _⟩

theorem later_reject (m : Monitor) (release : String) (fault : Fault) :
    Later m (m.reject release fault) := by
  unfold reject
  split
  · exact .refl m
  · exact later_of_eq rfl rfl

/-- An adapter that is put to use is counted. -/
theorem later_fitAdapter (m : Monitor) (release : String) : Later m (m.fitAdapter release) := by
  unfold fitAdapter
  split
  · exact m.later_reject release _
  · split
    · exact .refl m
    · split
      · exact m.later_reject release _
      · exact ⟨rfl, Nat.le_refl _, Nat.le_refl _, Nat.le_succ _, Nat.le_refl _⟩

theorem later_accept (m : Monitor) (settings : NodeSettings) : Later m (m.accept settings) := by
  have hstored : Later (m.fitAdapter settings.releaseVersion)
      { m.fitAdapter settings.releaseVersion with settings := some settings, succeeded := true } :=
    later_of_eq rfl rfl
  exact (m.later_fitAdapter _).trans (hstored.trans (later_enter _ .healthy))

theorem Later.endProbe (h : Later m m') : Later m m'.endProbe :=
  ⟨h.id, h.counts⟩

theorem later_without (m : Monitor) (p : Node.Purpose) : Later m (m.without p) := by
  cases p with
  | probe => exact (m.later_markDown _).endProbe
  | session => exact .refl m
  | settings => exact .refl m

theorem later_beginConnect (m : Monitor) : Later m m.beginConnect := by
  have hlock : Later m m.lock := later_of_eq rfl rfl
  unfold beginConnect
  split
  · exact hlock.trans (later_enter _ .connecting)
  · exact hlock

end Monitor

namespace Node

open Monitor (Later later_of_eq later_of_apart)

variable {m m' : Monitor} {p : Progress Call Wait} {a : Option Answer} {w : Option Wait}

/-- **No stretch takes back what was counted.** -/
theorem Passage.later (h : Passage m p a m' w) : Later m m' := by
  have hdiscard : Later m (discard m) := later_of_apart (apart_discard m)
  cases h with
  | probeSkipped => exact m.later_skipProbe
  | probeReady => exact m.later_admitProbe
  | probeSeeks => exact m.later_admitProbe
  | reportedDown => exact m.later_forget
  | heard => exact m.later_forget
  | @late q => exact hdiscard.trans (Monitor.later_without _ q)
  | connects => exact hdiscard.trans (Monitor.later_beginConnect _)
  | @evicts s => exact later_of_apart (m.apart_abandon s)
  | @shuts s => exact later_of_apart (m.apart_abandon s)
  | @unreachable q => exact (later_of_apart m.apart_unlock).trans (Monitor.later_without _ q)
  | @adopts q s => exact later_of_apart (m.apart_adopt s)
  | @accepted s r settings => exact (m.later_accept settings).endProbe
  | rowless => exact (m.later_markDown _).endProbe
  | failed => exact (m.later_markDown _).endProbe
  | cutOff => exact m.later_markDown _
  | _ => exact later_of_eq rfl rfl

variable {run next : Calls}

/-- A move is a stretch of one call, or nothing to the monitor. -/
theorem later_of_apply {move : Move Call Answer} (h : run.apply system move = some next) :
    Later run.monitor next.monitor := by
  have hstretch {id : Nat} {answer : Option Answer}
      (h : (run.stretch? system id answer).map (run.settle id) = some next) :
      Later run.monitor next.monitor := by
    obtain ⟨st, hst, rfl⟩ := Option.map_eq_some_iff.1 h
    rw [Run.monitor, Run.monitor, Run.state_settle]
    unfold Run.stretch? at hst
    split at hst
    · cases hst
      exact (passage_start _ run.state).later
    · exact (passage_resume hst).later
    · cases hst
  cases move with
  | submit c =>
    cases h
    exact .refl _
  | start id => exact hstretch h
  | resume id a => exact hstretch h

/-- **No run takes back what was counted.** -/
theorem later_of_applyAll {moves : List (Move Call Answer)}
    (h : run.applyAll system moves = some next) : Later run.monitor next.monitor :=
  foldlM_induction (P := fun _ next => Later run.monitor next.monitor) h (.refl _)
    fun _ _ _ _ hlater hm => hlater.trans (later_of_apply hm)

end Node

end NodeSidecar
