import Mathlib.Data.List.Perm.Subperm
import NodeSidecar.Proofs.Node.Health
import NodeSidecar.Proofs.Token
/-!
# Node — one probe at a time

A probe that begins while the watch goes on is let in, or is left out because
one that was let in is under way. From being let in until it is over a probe
waits in one of a few ways (`Wait.isProbing`), and the flag of the monitor is a
`Token` for that: it is up just when one call waits so. `Entry` lists what any
stretch does to the flag and to the counts, `ProbeEnd` how a probe comes to its
end. A probe finds the node down at most once, so it is counted as a failure at
most once.
-/

namespace NodeSidecar.Node

variable {m m' : Monitor} {p : Progress Call Wait} {a : Option Answer} {w : Option Wait}

/-! ## Ways to wait -/

/-- A probe that has not had its verdict waits so. -/
def Wait.isTrying : Wait → Bool
  | .monitorLock (.connect .probe) | .connecting .probe | .querying _ => true
  | _ => false

/-- A probe that gives up the session that failed waits so. -/
def Wait.isDiscarding : Wait → Bool
  | .monitorLock (.evict _) | .dropping _ => true
  | _ => false

/-- A probe that was let in waits so. -/
def Wait.isProbing (v : Wait) : Bool :=
  v.isTrying || v.isDiscarding

/-- A call waits as a probe that has not had its verdict. -/
def Trying (w : Option Wait) : Prop :=
  w.any Wait.isTrying = true

/-- A call waits as a probe that was let in. -/
def Probing (w : Option Wait) : Prop :=
  w.any Wait.isProbing = true

theorem not_probing_none : ¬ Probing none :=
  nofun

theorem Probing.of_trying (h : Trying w) : Probing w := by
  cases w with
  | none => cases h
  | some v =>
    have hv : v.isTrying = true := h
    simp [Probing, Wait.isProbing, hv]

theorem not_probing_of_isAside {v : Wait} (hv : v.isAside) : ¬ Probing (some v) := by
  cases v <;> simp_all [Probing, Wait.isAside, Wait.isProbing, Wait.isTrying, Wait.isDiscarding]

theorem not_probing_of_aside (hw : ∀ v, w = some v → v.isAside) : ¬ Probing w := by
  cases w with
  | none => exact not_probing_none
  | some v => exact not_probing_of_isAside (hw v rfl)

/-- Only a probe waits for a session as a probe does. -/
theorem probing_connect_iff {q : Purpose} :
    Probing (some (.monitorLock (.connect q))) ↔ q = .probe := by
  cases q <;> simp [Probing, Wait.isProbing, Wait.isTrying, Wait.isDiscarding]

theorem probing_connecting_iff {q : Purpose} :
    Probing (some (.connecting q)) ↔ q = .probe := by
  cases q <;> simp [Probing, Wait.isProbing, Wait.isTrying, Wait.isDiscarding]

theorem probing_next_iff {q : Purpose} {s : Nat} : Probing (q.next s) ↔ q = .probe := by
  cases q <;>
    simp [Probing, Purpose.next, Wait.isProbing, Wait.isTrying, Wait.isDiscarding]

theorem reads_ne_probe {c : Call} {q : Purpose} (hc : c.reads = some q) : q ≠ .probe := by
  rintro rfl
  cases c <;> cases hc

/-! ## Who is let in -/

/-- What a stretch does to the flag of probes and to their counts. -/
inductive Entry (m m' : Monitor) (p : Progress Call Wait) (w : Option Wait) : Prop
  /-- Nothing. -/
  | leaves : (Probing w ↔ Probing p.wait?) → (p = .fresh .probe → m.isClosed) →
      m'.admission = m.admission → Entry m m' p w
  /-- A probe is left out. -/
  | skips : p = .fresh .probe → ¬ m.isClosed → m.probing → w = none →
      m'.admission = { m.admission with skipped := m.counts.skipped + 1 } → Entry m m' p w
  /-- A probe is let in. -/
  | begins : p = .fresh .probe → ¬ m.isClosed → ¬ m.probing → Trying w →
      m'.admission = { m.admission with probing := true, probes := m.counts.probes + 1 } →
      Entry m m' p w
  /-- A probe is over. -/
  | returns : Probing p.wait? → w = none →
      m'.admission = { m.admission with probing := false } → Entry m m' p w

/-- A call that goes on without a session is over; if it is a probe, the flag
is down then. -/
theorem entry_without {d : Monitor} (he : d.admission = m.admission) {v : Wait} (q : Purpose)
    (hv : Probing (some v) ↔ q = .probe) : Entry m (d.without q) (.waiting v) none := by
  by_cases hq : q = .probe
  · subst hq
    refine .returns (hv.2 rfl) rfl ?_
    rw [← he, ← d.admission_markDown "no session available"]
    rfl
  · have hsame : d.without q = d := by
      cases q with
      | probe => exact absurd rfl hq
      | session => rfl
      | settings => rfl
    rw [hsame]
    exact .leaves (iff_of_false not_probing_none fun h => hq (hv.1 h)) nofun he

/-- A probe that had its verdict and is over. -/
theorem entry_endProbe {v : Wait} (hv : Probing (some v)) (he : m'.admission = m.admission) :
    Entry m m'.endProbe (.waiting v) none := by
  refine .returns hv rfl ?_
  rw [Monitor.admission_endProbe, he]

/-- **What every stretch does to the flag of probes.** -/
theorem Passage.entry (h : Passage m p a m' w) : Entry m m' p w := by
  have hapart {d : Monitor} (hd : d.apart = m.apart) : d.admission = m.admission :=
    Monitor.admission_eq_of_apart hd
  have hdiscard : (discard m).admission = m.admission := hapart (apart_discard m)
  cases h with
  | probeRefused hclosed => exact .leaves Iff.rfl (fun _ => hclosed) rfl
  | probeSkipped hopen hprobing => exact .skips rfl hopen hprobing rfl rfl
  | probeReady hopen hfree => exact .begins rfl hopen hfree rfl rfl
  | probeSeeks hopen hfree => exact .begins rfl hopen hfree rfl rfl
  | readAtOnce hc => exact .leaves Iff.rfl (by rintro ⟨⟩; cases hc) rfl
  | readSeeks hc =>
    have hnot := mt probing_connect_iff.1 (reads_ne_probe hc)
    exact .leaves (iff_of_false hnot not_probing_none) (by rintro ⟨⟩; cases hc) rfl
  | closes => exact .leaves (by simp [Probing, Wait.isProbing, Wait.isTrying,
      Wait.isDiscarding, Progress.wait?]) (by rintro ⟨⟩) rfl
  | reportedDown => exact .leaves Iff.rfl (by rintro ⟨⟩) m.admission_forget
  | heard => exact .leaves Iff.rfl (by rintro ⟨⟩) m.admission_forget
  | @found q s =>
    exact .leaves (probing_next_iff.trans probing_connect_iff.symm) (by rintro ⟨⟩) rfl
  | @late q => exact entry_without hdiscard q probing_connect_iff
  | connects =>
    refine .leaves (probing_connecting_iff.trans probing_connect_iff.symm) (by rintro ⟨⟩) ?_
    rw [Monitor.admission_beginConnect, hdiscard]
  | @evicts s => exact .leaves Iff.rfl (by rintro ⟨⟩) (hapart (m.apart_abandon s))
  | @shuts s => exact .leaves Iff.rfl (by rintro ⟨⟩) (hapart (m.apart_abandon s))
  | @unreachable q =>
    have hunlock : m.unlock.admission = m.admission := rfl
    exact entry_without hunlock q probing_connecting_iff
  | @adopts q s =>
    refine .leaves (probing_next_iff.trans probing_connecting_iff.symm) (by rintro ⟨⟩) ?_
    exact hapart (m.apart_adopt s)
  | ignored => exact entry_endProbe rfl rfl
  | accepted => exact entry_endProbe rfl (m.admission_accept _)
  | rowless => exact entry_endProbe rfl (m.admission_markDown _)
  | failed => exact entry_endProbe rfl (m.admission_markDown _)
  | cutOff => exact .leaves Iff.rfl (by rintro ⟨⟩) (m.admission_markDown _)
  | dropped => exact entry_endProbe rfl rfl
  | provided hw =>
    have hnot := not_probing_of_aside hw
    exact .leaves (iff_of_false hnot not_probing_none) (by rintro ⟨⟩) rfl
  | asideStarts hc hw =>
    have hnot := not_probing_of_aside hw
    exact .leaves (iff_of_false hnot not_probing_none) (by rintro ⟨⟩; cases hc) rfl
  | asideResumes hv hw =>
    have hnot := not_probing_of_aside hw
    exact .leaves (iff_of_false hnot (not_probing_of_isAside hv)) (by rintro ⟨⟩) rfl
  | _ => exact .leaves Iff.rfl (by rintro ⟨⟩) rfl

/-! ## How a probe ends -/

/-- **How a probe that waits comes to its end**, by what it is answered. -/
inductive ProbeEnd (m : Monitor) : Wait → Answer → Prop
  /-- The watch is over by the time it may ask for a session. -/
  | late : m.usable = none → m.isClosed → ProbeEnd m (.monitorLock (.connect .probe)) .granted
  /-- There is no session to be had. -/
  | unreachable : ProbeEnd m (.connecting .probe) (.session none)
  /-- The watch is over by the time its query is answered. -/
  | ignored {s : Nat} {r : Except Fault (List Wire.Row)} : m.isClosed →
      ProbeEnd m (.querying s) (.rows r)
  /-- It succeeds. -/
  | succeeded {s : Nat} {r : Except Fault (List Wire.Row)} {settings : NodeSettings} :
      ¬ m.isClosed → r.bind NodeSettings.ofRows = .ok (some settings) →
      ProbeEnd m (.querying s) (.rows r)
  /-- It is answered with no row. -/
  | rowless {s : Nat} {r : Except Fault (List Wire.Row)} :
      ¬ m.isClosed → r.bind NodeSettings.ofRows = .ok none → ProbeEnd m (.querying s) (.rows r)
  /-- Its query fails on a session that goes on. -/
  | failed {s : Nat} {r : Except Fault (List Wire.Row)} {fault : Fault} :
      ¬ m.isClosed → r.bind NodeSettings.ofRows = .error fault → ¬ fault.isConnectivity →
      ProbeEnd m (.querying s) (.rows r)
  /-- The session on which its query failed is closed. -/
  | dropped {s : Nat} : ProbeEnd m (.dropping s) .closed

/-- **These are all the ends of a probe**: at any other answer it goes on. -/
theorem Passage.next_eq_none_iff {v : Wait} {b : Answer}
    (h : Passage m (.waiting v) (some b) m' w) (hv : Probing (some v)) :
    w = none ↔ ProbeEnd m v b := by
  cases h with
  | @found q s _ hs =>
    obtain rfl : q = .probe := probing_connect_iff.1 hv
    refine iff_of_false nofun fun hend => ?_
    cases hend with
    | late hnone =>
      rw [hs] at hnone
      cases hnone
  | late _ hnone hclosed =>
    obtain rfl := probing_connect_iff.1 hv
    exact iff_of_true rfl (.late hnone hclosed)
  | connects _ _ hopen =>
    refine iff_of_false nofun fun hend => ?_
    cases hend with
    | late _ hclosed => exact hopen hclosed
  | evicts => exact iff_of_false nofun nofun
  | unreachable =>
    obtain rfl := probing_connecting_iff.1 hv
    exact iff_of_true rfl .unreachable
  | adopts =>
    obtain rfl := probing_connecting_iff.1 hv
    exact iff_of_false nofun nofun
  | ignored hclosed => exact iff_of_true rfl (.ignored hclosed)
  | accepted hopen hrow => exact iff_of_true rfl (.succeeded hopen hrow)
  | rowless hopen hrow => exact iff_of_true rfl (.rowless hopen hrow)
  | failed hopen hrow hconn => exact iff_of_true rfl (.failed hopen hrow hconn)
  | cutOff hopen hrow hconn =>
    refine iff_of_false nofun fun hend => ?_
    cases hend with
    | ignored hclosed => exact hopen hclosed
    | succeeded _ hrow' => exact absurd (hrow.symm.trans hrow') nofun
    | rowless _ hrow' => exact absurd (hrow.symm.trans hrow') nofun
    | failed _ hrow' hconn' =>
      cases hrow.symm.trans hrow'
      exact hconn' hconn
  | dropped => exact iff_of_true rfl .dropped
  | asideResumes haside => exact absurd hv (not_probing_of_isAside haside)
  | shuts => cases hv
  | shutsNone => cases hv
  | cleared => cases hv
  | provided => cases hv

/-! ## Failures -/

/-- A probe finds the node down while it has not had its verdict. -/
theorem Passes.trying_of_fails {t : Moment} {id : Nat} (h : Passes t id p a)
    (hf : fails t = true) : Trying p.wait? := by
  unfold fails at hf
  split at hf
  · rename_i heq
    obtain ⟨rfl, -⟩ := h.eq_of_cause heq
    rfl
  · rename_i heq
    obtain ⟨rfl, -⟩ := h.eq_of_cause heq
    rfl
  · rename_i heq
    obtain ⟨rfl, -⟩ := h.eq_of_cause heq
    rfl
  · cases hf

/-- **What had its verdict gets no other**: a probe that found the node down,
or one that gives up its session, does not try again. -/
theorem Passage.not_trying (h : Passage m p a m' w) {t : Moment} (hc : t.cause = some (p, a))
    (hm : t.before.monitor = m) (hp : p ≠ .fresh .probe) (hv : Trying p.wait? → fails t = true) :
    ¬ Trying w := by
  have hnext {q : Purpose} {s : Nat} : Trying (q.next s) → q = .probe :=
    fun h => probing_next_iff.1 (.of_trying h)
  cases h with
  | probeReady => exact absurd rfl hp
  | probeSeeks => exact absurd rfl hp
  | readSeeks hc' => exact fun h => reads_ne_probe hc' (probing_connect_iff.1 (.of_trying h))
  | @found q s _ hs =>
    intro h
    obtain rfl := hnext h
    simpa [fails, hc, hm, hs] using hv rfl
  | @connects q _ _ hopen =>
    intro h
    obtain rfl := probing_connecting_iff.1 (.of_trying h)
    simpa [fails, hc, hm, hopen] using hv rfl
  | @adopts q s =>
    intro h
    obtain rfl := hnext h
    simpa [fails, hc] using hv rfl
  | provided hw => exact fun h => not_probing_of_aside hw (.of_trying h)
  | asideStarts _ hw => exact fun h => not_probing_of_aside hw (.of_trying h)
  | asideResumes _ hw => exact fun h => not_probing_of_aside hw (.of_trying h)
  | _ => rintro ⟨⟩

/-! ## What a history says of probes -/

/-- A probe begins in a move, and finds that the watch goes on. -/
def findsOpen (t : Moment) : Bool :=
  match t.cause with
  | some (.fresh .probe, _) => !t.before.monitor.isClosed
  | _ => false

/-- A probe is let in in a move. -/
def admits (t : Moment) : Bool :=
  findsOpen t && !t.before.monitor.probing

/-- A probe is left out in a move. -/
def skips (t : Moment) : Bool :=
  findsOpen t && t.before.monitor.probing

/-- The probes that were let in, by their ids. -/
def admitted (past : List Moment) : List Nat :=
  past.filterMap fun t => if admits t then t.caller else none

/-- The probes that found the node down, by their ids. -/
def failed (past : List Moment) : List Nat :=
  past.filterMap fun t => if fails t then t.caller else none

/-- The probe with this id was let in and is not over. -/
def UnderWay (past : List Moment) (run : Calls) (i : Nat) : Prop :=
  i ∈ admitted past ∧ run.progress i ≠ none

theorem exists_of_mem_admitted {past : List Moment} {i : Nat} (h : i ∈ admitted past) :
    ∃ t ∈ past, admits t = true ∧ t.caller = some i := by
  obtain ⟨t, ht, hi⟩ := List.mem_filterMap.1 h
  split at hi
  · exact ⟨t, ht, ‹_›, hi⟩
  · cases hi

/-- A move that lets a probe in adds it at the end. -/
theorem Passes.admitted_concat {past : List Moment} {t : Moment} {id : Nat}
    (h : Passes t id p a) :
    admitted (past ++ [t]) = if admits t then admitted past ++ [id] else admitted past := by
  by_cases ha : admits t = true <;> simp [admitted, ha, h.caller]

/-- So does a move in which a probe finds the node down. -/
theorem Passes.failed_concat {past : List Moment} {t : Moment} {id : Nat}
    (h : Passes t id p a) :
    failed (past ++ [t]) = if fails t then failed past ++ [id] else failed past := by
  by_cases hf : fails t = true <;> simp [failed, hf, h.caller]

theorem Passes.findsOpen_iff {t : Moment} {id : Nat} (h : Passes t id p a) :
    findsOpen t = true ↔ p = .fresh .probe ∧ ¬ t.before.monitor.isClosed := by
  unfold findsOpen
  rw [h.cause]
  split
  · rename_i heq
    cases heq
    simp
  · rename_i hno
    refine iff_of_false nofun ?_
    rintro ⟨rfl, -⟩
    exact hno _ rfl

/-- **Who is let in and who is left out** is what the flag says, and what is
counted. -/
theorem Passes.admission {t : Moment} {id : Nat} (h : Passes t id p a) :
    t.after.monitor.counts.probes =
        t.before.monitor.counts.probes + (if admits t then 1 else 0) ∧
      t.after.monitor.counts.skipped =
        t.before.monitor.counts.skipped + if skips t then 1 else 0 := by
  have hcounts {d : Monitor.Admission} (he : t.after.monitor.admission = d) :
      t.after.monitor.counts.probes = d.probes ∧ t.after.monitor.counts.skipped = d.skipped :=
    ⟨congrArg Monitor.Admission.probes he, congrArg Monitor.Admission.skipped he⟩
  have hquiet (hf : findsOpen t = false) : admits t = false ∧ skips t = false := by
    simp [admits, skips, hf]
  rcases h.passage.entry with ⟨-, hclosed, he⟩ | ⟨hp, hopen, hprobing, -, he⟩ |
    ⟨hp, hopen, hfree, -, he⟩ | ⟨hp, -, he⟩
  · have hf : findsOpen t = false := by
      rw [Bool.eq_false_iff, ne_eq, h.findsOpen_iff]
      exact fun ⟨hp, hopen⟩ => hopen (hclosed hp)
    obtain ⟨ha, hs⟩ := hquiet hf
    simpa [ha, hs, Monitor.admission] using hcounts he
  · have hf : findsOpen t = true := h.findsOpen_iff.2 ⟨hp, hopen⟩
    simpa [admits, skips, hf, hprobing, Monitor.admission] using hcounts he
  · have hf : findsOpen t = true := h.findsOpen_iff.2 ⟨hp, hopen⟩
    simpa [admits, skips, hf, hfree, Monitor.admission] using hcounts he
  · have hf : findsOpen t = false := by
      rw [Bool.eq_false_iff, ne_eq, h.findsOpen_iff]
      rintro ⟨rfl, -⟩
      exact not_probing_none hp
    obtain ⟨ha, hs⟩ := hquiet hf
    simpa [ha, hs, Monitor.admission] using hcounts he

/-! ## The invariant -/

/-- **What holds of probes after every history.** -/
structure SingleFlight (past : List Moment) (run : Calls) : Prop where
  /-- One call at a time is a probe that was let in, and the flag is up
  meanwhile. -/
  token : Token Probing (run.monitor.probing = true) run.waiting
  /-- A probe that was let in waits as one until it is over. -/
  probing_iff : ∀ i, Probing (run.waiting i) ↔ i ∈ admitted past ∧ run.waiting i ≠ none
  /-- No probe is let in twice. -/
  nodup : (admitted past).Nodup
  /-- No probe fails twice. -/
  failed_nodup : (failed past).Nodup
  /-- Only a probe that was let in fails. -/
  failed_subset : failed past ⊆ admitted past
  /-- A probe that failed has had its verdict. -/
  not_trying : ∀ i ∈ failed past, ¬ Trying (run.waiting i)
  probes : run.monitor.counts.probes = (admitted past).length
  skipped : run.monitor.counts.skipped = past.countP skips
  failures : run.monitor.counts.failures = (failed past).length

theorem singleFlight_idle (id : Nat) (catalog : Catalog) :
    SingleFlight [] (Run.idle (Node.fresh id catalog)) where
  token := Token.init nofun not_probing_none
  probing_iff _ := iff_of_false not_probing_none nofun
  nodup := .nil
  failed_nodup := .nil
  failed_subset := nofun
  not_trying := nofun
  probes := rfl
  skipped := rfl
  failures := rfl

theorem SingleFlight.quiet {past : List Moment} {t : Moment} (hh : SingleFlight past t.before)
    (h : Quiet t) : SingleFlight (past ++ [t]) t.after := by
  have hadmits : findsOpen t = false := by simp [findsOpen, h.cause]
  have hfails : fails t = false := by simp [fails, h.cause]
  have hadmitted : admitted (past ++ [t]) = admitted past := by
    simp [admitted, admits, hadmits]
  have hfailed : failed (past ++ [t]) = failed past := by simp [failed, hfails]
  have hskips : (past ++ [t]).countP skips = past.countP skips := by
    simp [skips, hadmits]
  obtain ⟨htoken, hprobing, hnodup, hfnodup, hsubset, htrying, hprobes, hskipped, hfailures⟩ := hh
  refine ⟨?_, ?_, ?_, ?_, ?_, ?_, ?_, ?_, ?_⟩
  all_goals simpa only [h.monitor, h.waiting, hadmitted, hfailed, hskips]

/-- The flag goes with the probe that holds it. -/
theorem Passes.token {t : Moment} {id : Nat} (h : Passes t id p a)
    (ht : Token Probing (t.before.monitor.probing = true) t.before.waiting) :
    Token Probing (t.after.monitor.probing = true) t.after.waiting := by
  have hwaits : t.before.waiting id = p.wait? := Run.waiting_of_progress h.progress
  have hprobing {d : Monitor.Admission} (he : t.after.monitor.admission = d) :
      t.after.monitor.probing = d.probing := congrArg Monitor.Admission.probing he
  rw [h.waiting]
  -- A probe that is left out held no flag before and holds none now.
  rcases h.passage.entry with ⟨hw, -, he⟩ | ⟨rfl, -, -, hw, he⟩ | ⟨-, -, hfree, hw, he⟩ |
    ⟨hp, hw, he⟩
  · refine ht.keep (hwaits ▸ hw) ?_
    rw [hprobing he]
    rfl
  · refine ht.keep ?_ ?_
    · rw [hwaits, hw]
      rfl
    · rw [hprobing he]
      rfl
  · exact ht.take hfree (.of_trying hw) (hprobing he)
  · refine ht.release (hwaits ▸ hp) (hw ▸ not_probing_none) ?_
    rw [hprobing he]
    exact nofun

theorem Passes.fresh_of_admits {t : Moment} {id : Nat} (h : Passes t id p a)
    (ha : admits t = true) : p = .fresh .probe := by
  simp only [admits, Bool.and_eq_true] at ha
  exact (h.findsOpen_iff.1 ha.1).1

/-- A probe that was let in waits as one until it is over. -/
theorem SingleFlight.probing_iff_passes {past : List Moment} {t : Moment} {id : Nat}
    (hh : SingleFlight past t.before) (hbegun : ∀ i ∈ admitted past, t.before.Begun i)
    (h : Passes t id p a) (i : Nat) :
    Probing (t.after.waiting i) ↔
      i ∈ admitted (past ++ [t]) ∧ t.after.waiting i ≠ none := by
  have hadmitted : admitted (past ++ [t]) = _ := h.admitted_concat
  by_cases hid : i = id
  · subst hid
    have hwaits : t.before.waiting i = p.wait? := Run.waiting_of_progress h.progress
    have hbefore := hh.probing_iff i
    rw [h.waiting_self]
    rcases h.passage.entry with ⟨hw, hclosed, -⟩ | ⟨-, -, -, hw, -⟩ | ⟨hp, hopen, hfree, hw, -⟩ |
      ⟨-, hw, -⟩
    -- The call goes on as it was: it is no probe that is let in now.
    · have ha : admits t = false := by
        rw [Bool.eq_false_iff]
        intro ha
        have hfinds : findsOpen t = true := by
          simp only [admits, Bool.and_eq_true] at ha
          exact ha.1
        exact (h.findsOpen_iff.1 hfinds).2 (hclosed (h.fresh_of_admits ha))
      rw [hadmitted, if_neg (by simp [ha])]
      refine ⟨fun hprobing => ?_, fun ⟨hmem, hne⟩ => ?_⟩
      · have hin : i ∈ admitted past := (hbefore.1 (hwaits ▸ hw.1 hprobing)).1
        exact ⟨hin, fun hnone => not_probing_none (hnone ▸ hprobing)⟩
      · have hwait : t.before.waiting i ≠ none := by
          cases p with
          | fresh c => exact absurd h.progress ((hbegun i hmem).2 c)
          | waiting v => simp [hwaits, Progress.wait?]
        exact hw.2 (hwaits ▸ hbefore.2 ⟨hmem, hwait⟩)
    · simp [hw, not_probing_none]
    · have ha : admits t = true := by
        simp [admits, h.findsOpen_iff.2 ⟨hp, hopen⟩, hfree]
      have hprobing : Probing (t.next system) := .of_trying hw
      refine iff_of_true hprobing ⟨?_, fun hnone => not_probing_none (hnone ▸ hprobing)⟩
      simp [hadmitted, ha]
    · simp [hw, not_probing_none]
  · rw [h.waiting_of_ne hid, hh.probing_iff, hadmitted]
    split <;> simp [hid]

/-- **A move keeps it**, if what was let in has begun. -/
theorem SingleFlight.passes {past : List Moment} {t : Moment} {id : Nat}
    (hh : SingleFlight past t.before) (hbegun : ∀ i ∈ admitted past, t.before.Begun i)
    (h : Passes t id p a) : SingleFlight (past ++ [t]) t.after := by
  have hprobing := hh.probing_iff_passes hbegun h
  obtain ⟨htoken, hbefore, hnodup, hfnodup, hsubset, htrying, hprobes, hskipped, hfailures⟩ := hh
  have hwaits : t.before.waiting id = p.wait? := Run.waiting_of_progress h.progress
  have hadmitted : admitted (past ++ [t]) = _ := h.admitted_concat
  have hfailed : failed (past ++ [t]) = _ := h.failed_concat
  obtain ⟨hcprobes, hcskipped⟩ := h.admission
  -- A probe fails while it tries, so it was let in before and has not failed yet.
  have hfails (hf : fails t = true) : id ∈ admitted past ∧ id ∉ failed past := by
    have htry : Trying (t.before.waiting id) := hwaits ▸ h.trying_of_fails hf
    exact ⟨((hbefore id).1 (.of_trying htry)).1, fun hmem => htrying id hmem htry⟩
  have hgrows : admitted past ⊆ admitted (past ++ [t]) := by
    rw [hadmitted]
    split <;> simp
  refine ⟨h.token htoken, hprobing, ?_, ?_, ?_, fun i hi => ?_, ?_, ?_, ?_⟩
  · rw [hadmitted]
    split
    · rename_i ha
      have hnew : id ∉ admitted past := fun hmem =>
        (hbegun id hmem).2 _ (h.fresh_of_admits ha ▸ h.progress)
      simpa [List.nodup_append, hnodup] using fun i hi (hid : i = id) => hnew (hid ▸ hi)
    · exact hnodup
  · rw [hfailed]
    split
    · rename_i hf
      simpa [List.nodup_append, hfnodup] using fun i hi (hid : i = id) => (hfails hf).2 (hid ▸ hi)
    · exact hfnodup
  · rw [hfailed]
    split
    · rename_i hf
      refine List.append_subset.2 ⟨List.Subset.trans hsubset hgrows, ?_⟩
      simpa using hgrows (hfails hf).1
    · exact List.Subset.trans hsubset hgrows
  -- A probe that failed before does not try again, and one that fails now gives up.
  · by_cases hid : i = id
    · subst hid
      have hmem : i ∈ admitted past := by
        rw [hfailed] at hi
        split at hi
        · exact (hfails ‹_›).1
        · exact hsubset hi
      rw [h.waiting_self]
      refine h.passage.not_trying h.cause rfl ?_ fun htry => ?_
      · rintro rfl
        exact (hbegun i hmem).2 _ h.progress
      · by_contra hf
        rw [hfailed, if_neg hf] at hi
        exact htrying i hi (hwaits ▸ htry)
    · rw [h.waiting_of_ne hid]
      refine htrying i ?_
      rw [hfailed] at hi
      split at hi
      · simpa [hid] using hi
      · exact hi
  · rw [hcprobes, hprobes, hadmitted]
    split <;> simp
  · rw [hcskipped, hskipped, List.countP_append, List.countP_singleton]
  · rw [h.passage.failures h.cause rfl, hfailures, hfailed]
    split <;> simp

/-- **Every history lets one probe in at a time.** -/
theorem singleFlight {id : Nat} {catalog : Catalog} {past : List Moment} {run : Calls}
    (h : History id catalog past run) : SingleFlight past run := by
  induction h with
  | refl => exact singleFlight_idle id catalog
  | @move past run next m hx hm ih =>
    have hbounded : run.Bounded := hx.bounded (Run.bounded_idle _)
    rcases quiet_or_passes hbounded hm with hq | ⟨i, p, a, hp⟩
    · exact SingleFlight.quiet (t := ⟨run, m, next⟩) ih hq
    · refine SingleFlight.passes (t := ⟨run, m, next⟩) ih (fun j hj => ?_) hp
      obtain ⟨t, ht, -, hcaller⟩ := exists_of_mem_admitted hj
      exact hx.begun (Run.bounded_idle _) ht hcaller

/-- A probe that was let in and is not over waits as one. -/
theorem underWay_iff {id : Nat} {catalog : Catalog} {past : List Moment} {run : Calls}
    (h : History id catalog past run) (i : Nat) :
    UnderWay past run i ↔ Probing (run.waiting i) := by
  rw [(singleFlight h).probing_iff, UnderWay]
  refine and_congr_right fun hmem => not_congr ⟨Run.waiting_eq_none_of_progress, fun hnone => ?_⟩
  obtain ⟨t, ht, -, hcaller⟩ := exists_of_mem_admitted hmem
  exact (h.begun (Run.bounded_idle _) ht hcaller).progress_eq_none hnone

/-! ## Single flight -/

/-- A probe is let in in a move: it is counted, and under way from then on. -/
structure LetIn (earlier : List Moment) (t : Moment) : Prop where
  probes : t.after.monitor.counts.probes = t.before.monitor.counts.probes + 1
  skipped : t.after.monitor.counts.skipped = t.before.monitor.counts.skipped
  underWay : ∀ i, t.caller = some i → UnderWay (earlier ++ [t]) t.after i

/-- A probe is left out in a move: it is counted, and that is all. It is over at
once, so it asks for no session and begins no query. -/
structure LeftOut (t : Moment) : Prop where
  state : t.after.state =
    { t.before.state with
      monitor :=
        { t.before.monitor with
          counts :=
            { t.before.monitor.counts with
              skipped := t.before.monitor.counts.skipped + 1 } } }
  waiting : t.after.waiting = t.before.waiting
  finished : ∀ i, t.caller = some i → t.after.progress i = none

theorem startProbe_of_probing {n : Node} (hopen : ¬ n.monitor.isClosed) (hp : n.monitor.probing) :
    n.startProbe = (n.onMonitor .skipProbe).ends .finished := by
  simp [startProbe, hopen, hp]

theorem leftOut_of_skips {t : Moment} (hb : t.before.Bounded)
    (hm : t.before.apply system t.move = some t.after) (hs : skips t = true) : LeftOut t := by
  simp only [skips, Bool.and_eq_true] at hs
  rcases Transition.submitted_or_ran hm with ⟨c, hc, -⟩ | ⟨id, p, a, st, hr⟩
  · simp [findsOpen, Transition.cause, hc] at hs
  have hran : t.Ran system id p a st := hr
  have hp : p = .fresh .probe ∧ ¬ t.before.monitor.isClosed := by
    have hfinds := hs.1
    unfold findsOpen at hfinds
    rw [hran.cause] at hfinds
    split at hfinds
    · rename_i heq
      cases heq
      exact ⟨rfl, by simpa using hfinds⟩
    · cases hfinds
  obtain ⟨rfl, hopen⟩ := hp
  have hst : st = (t.before.state.onMonitor .skipProbe).ends .finished := by
    rw [← startProbe_of_probing hopen hs.2]
    rcases System.proceed_eq_some_iff.1 hran.proceed with ⟨c, hc, -, rfl⟩ | ⟨v, b, hv, -⟩
    · cases hc
      rfl
    · cases hv
  subst hst
  have hnext : t.next system = none := hran.next_eq
  have hbefore : t.before.waiting id = none := Run.waiting_of_progress hran.progress
  refine ⟨hran.state, ?_, fun i hi => ?_⟩
  · rw [hran.waiting hb, hnext, ← hbefore, Function.update_eq_self]
  · obtain rfl : id = i := Option.some.inj (hran.caller.symm.trans hi)
    rw [hran.progress_self hb, hnext]
    rfl

/-- A move in which a probe finds the watch going on, and the flag down. -/
theorem letIn_of_admits {id : Nat} {catalog : Catalog} {earlier : List Moment} {t : Moment}
    (h : History id catalog earlier t.before)
    (hm : t.before.apply system t.move = some t.after) (ha : admits t = true) :
    LetIn earlier t := by
  have hskips : skips t = false := by
    simp only [admits, Bool.and_eq_true, Bool.not_eq_true'] at ha
    simp [skips, ha.2]
  rcases quiet_or_passes (h.bounded (Run.bounded_idle _)) hm with hq | ⟨i, p, a, hp⟩
  · simp [admits, findsOpen, hq.cause] at ha
  have hpass : Passes t i p a := hp
  obtain ⟨hprobes, hskipped⟩ := hpass.admission
  refine ⟨by simpa [ha] using hprobes, by simpa [hskips] using hskipped, fun j hj => ?_⟩
  obtain rfl : i = j := Option.some.inj (hpass.caller.symm.trans hj)
  rw [underWay_iff (h.move hm)]
  rcases hpass.passage.entry with ⟨-, hclosed, -⟩ | ⟨-, -, hprobing, -⟩ | ⟨-, -, -, hw, -⟩ |
    ⟨hprobing, -⟩
  · simp only [admits, Bool.and_eq_true] at ha
    have hfinds := hpass.findsOpen_iff.1 ha.1
    exact absurd (hclosed hfinds.1) hfinds.2
  · simp [admits, hprobing] at ha
  · have hself : t.after.waiting i = t.next system := hpass.waiting_self
    exact hself ▸ .of_trying hw
  · rw [hpass.fresh_of_admits ha] at hprobing
    exact absurd hprobing not_probing_none

/-- A move of a probe that is under way. -/
theorem goes_on_of_underWay {id : Nat} {catalog : Catalog} {earlier : List Moment} {t : Moment}
    (h : History id catalog earlier t.before)
    (hm : t.before.apply system t.move = some t.after) {i : Nat} (hi : i ∈ admitted earlier)
    (hcaller : t.caller = some i) :
    ∃ v b, t.cause = some (.waiting v, some b) ∧
      (t.after.progress i = none ↔ ProbeEnd t.before.monitor v b) ∧
      (t.after.progress i = none → t.after.monitor.probing = false) := by
  have hbounded : t.before.Bounded := h.bounded (Run.bounded_idle _)
  obtain ⟨t', ht', -, hcaller'⟩ := exists_of_mem_admitted hi
  have hbegun : t.before.Begun i := h.begun (Run.bounded_idle _) ht' hcaller'
  rcases Transition.submitted_or_ran hm with ⟨c, hc, -⟩ | ⟨j, p, a, st, hr⟩
  · simp [Transition.caller, hc] at hcaller
  have hran : t.Ran system j p a st := hr
  obtain rfl : j = i := Option.some.inj (hran.caller.symm.trans hcaller)
  rcases System.proceed_eq_some_iff.1 hran.proceed with ⟨c, rfl, -, -⟩ | ⟨v, b, rfl, rfl, -⟩
  · exact absurd hran.progress (hbegun.2 c)
  have hpassage := passage_of_ran hran
  have hprobing : Probing (some v) := by
    have hwaits : t.before.waiting j = some v := Run.waiting_of_progress hran.progress
    rw [← hwaits, ← underWay_iff h]
    exact ⟨hi, by simp [hran.progress]⟩
  have hnone : t.after.progress j = none ↔ t.next system = none := by
    rw [hran.progress_self hbounded, Option.map_eq_none_iff]
  refine ⟨v, b, hran.cause, hnone.trans (hpassage.next_eq_none_iff hprobing), fun hover => ?_⟩
  have hnext := hnone.1 hover
  rcases hpassage.entry with ⟨hw, -⟩ | ⟨hp, -⟩ | ⟨hp, -⟩ | ⟨-, -, he⟩
  · rw [hnext] at hw
    exact absurd (hw.2 hprobing) not_probing_none
  · cases hp
  · cases hp
  · exact congrArg Monitor.Admission.probing he

/-- **One probe at a time, and each is accounted for**, after every history. The
flag is up just when exactly one probe that was let in is not over; no two are
under way at once, and only one under way has a query. A probe that finds the
watch going on is let in if none is under way and left out if one is, and
nothing else is counted as either. A probe that was let in ends as `ProbeEnd`
lists, and the flag is down then. Each failure that is counted is another probe
that was let in, so there are no more failures than probes. -/
theorem probes_are_single_flight {id : Nat} {catalog : Catalog} {past : List Moment}
    {run : Calls} (h : History id catalog past run) :
    (run.monitor.probing = true ↔ ∃! i, UnderWay past run i) ∧
    (∀ i j, UnderWay past run i → UnderWay past run j → i = j) ∧
    (∀ i s, run.waiting i = some (.querying s) → UnderWay past run i) ∧
    (∀ earlier t later, past = earlier ++ t :: later → findsOpen t = true →
      ((¬ ∃ i, UnderWay earlier t.before i) ∧ LetIn earlier t) ∨
        ((∃ i, UnderWay earlier t.before i) ∧ LeftOut t)) ∧
    (∀ t ∈ past, findsOpen t = false →
      t.after.monitor.counts.probes = t.before.monitor.counts.probes ∧
      t.after.monitor.counts.skipped = t.before.monitor.counts.skipped) ∧
    (∀ earlier t later, past = earlier ++ t :: later → ∀ i ∈ admitted earlier,
      t.caller = some i → ∃ v b, t.cause = some (.waiting v, some b) ∧
        (t.after.progress i = none ↔ ProbeEnd t.before.monitor v b) ∧
        (t.after.progress i = none → t.after.monitor.probing = false)) ∧
    (admitted past).Nodup ∧
    run.monitor.counts.probes = (admitted past).length ∧
    run.monitor.counts.skipped = past.countP skips ∧
    (failed past).Nodup ∧
    failed past ⊆ admitted past ∧
    run.monitor.counts.failures = (failed past).length ∧
    run.monitor.counts.failures ≤ run.monitor.counts.probes := by
  obtain ⟨htoken, -, hnodup, hfnodup, hsubset, -, hprobes, hskipped, hfailures⟩ := singleFlight h
  refine ⟨?_, fun i j hi hj => ?_, fun i s hi => ?_, ?_, fun t ht hf => ?_, ?_, hnodup, hprobes,
    hskipped, hfnodup, hsubset, hfailures, ?_⟩
  · simp only [underWay_iff h]
    exact htoken.up_iff_existsUnique
  · rw [underWay_iff h] at hi hj
    exact htoken.unique i j hi hj
  · rw [underWay_iff h, hi]
    rfl
  · rintro earlier t later rfl hfinds
    obtain ⟨hearlier, hm, -⟩ := h.of_append_cons
    have hflag : t.before.monitor.probing = true ↔ ∃ i, UnderWay earlier t.before i := by
      simp only [underWay_iff hearlier]
      exact (singleFlight hearlier).token.up_iff
    by_cases hprobing : t.before.monitor.probing = true
    · have hskips : skips t = true := by simp [skips, hfinds, hprobing]
      exact .inr ⟨hflag.1 hprobing,
        leftOut_of_skips (hearlier.bounded (Run.bounded_idle _)) hm hskips⟩
    · have hadmits : admits t = true := by simp [admits, hfinds, hprobing]
      exact .inl ⟨mt hflag.2 hprobing, letIn_of_admits hearlier hm hadmits⟩
  · rcases quiet_or_passes_of_mem h ht with hq | ⟨i, p, a, hp⟩
    · simp [hq.monitor]
    · simpa [admits, skips, hf] using hp.admission
  · rintro earlier t later rfl i hi hcaller
    obtain ⟨hearlier, hm, -⟩ := h.of_append_cons
    exact goes_on_of_underWay hearlier hm hi hcaller
  · rw [hfailures, hprobes]
    exact (List.subperm_of_subset hfnodup hsubset).length_le

/-- Two probes are made at once, and the first one finds no session. -/
def probesAtOnce : List (Move Call Answer) :=
  [.submit .probe, .start 0, .submit .probe, .start 1, .resume 0 .granted,
    .resume 0 (.session none)]

/-- Of two probes at once one is let in, and the flag is down once it has
failed. -/
theorem second_probe_left_out : ∃ past run, History 1 .standard past run ∧
    admitted past = [0] ∧ failed past = [0] ∧ run.monitor.probing = false ∧
    run.monitor.counts.probes = 1 ∧ run.monitor.counts.skipped = 1 ∧
    run.monitor.counts.failures = 1 := by
  have hmoves : (Run.idle (Node.fresh 1 .standard)).applyAll system probesAtOnce = some _ := rfl
  have hpast := execution_of_applyAll hmoves
  obtain ⟨-, -, -, -, -, -, -, hprobes, hskipped, -, -, hfailures, -⟩ :=
    probes_are_single_flight hpast
  exact ⟨_, _, hpast, rfl, rfl, rfl, hprobes, hskipped, hfailures⟩

end NodeSidecar.Node
