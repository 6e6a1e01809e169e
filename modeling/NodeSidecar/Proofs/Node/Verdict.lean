import NodeSidecar.Proofs.Node.Teardown
import NodeSidecar.Proofs.Wire.ResultSet
/-!
# Node — what the answer to a probe's query says

A frame that answers the query of a probe either reports the settings of the
node (`Wire.Frame.Reports`) or finds it down; there is nothing in between, and no
frame makes the monitor give up its session.
-/

namespace NodeSidecar

namespace Wire

variable {row : Row} {column text r p : String} {frame : Frame} {fault : Fault}

/-- The first column of this name is there, and its cell is the octets of the
text. -/
def Row.Spells (row : Row) (column text : String) : Prop :=
  ∃ before after, row.cells = before ++ (column, some (Text.encodeUtf8 text.toList)) :: after ∧
    ∀ c ∈ before, c.1 ≠ column

/-- The frame holds rows, and the first one spells a release and a
partitioner. -/
def Frame.Reports (frame : Frame) (r p : String) : Prop :=
  frame.header.opcode = .result ∧ ∃ row rows, parseRows frame.body = .ok (row :: rows) ∧
    row.Spells "release_version" r ∧ row.Spells "partitioner" p

theorem Row.text?_eq_ok_some_iff : row.text? column = .ok (some text) ↔ row.Spells column text := by
  have hfind (c : String × Option Text.Octets) : row.cells.find? (·.1 = column) = some c ↔
      c.1 = column ∧ ∃ before after, row.cells = before ++ c :: after ∧
        ∀ c ∈ before, c.1 ≠ column := by
    simp [List.find?_eq_some_iff_append]
  have hspells : row.Spells column text ↔ row.cells.find? (·.1 = column) =
      some (column, some (Text.encodeUtf8 text.toList)) := by
    rw [hfind]
    simp [Row.Spells]
  rw [hspells, Row.text?]
  split
  · rename_i hnone
    simp [hnone]
  · rename_i name hnull
    simp [hnull]
  · rename_i name octets hcell
    have hname : name = column := ((hfind _).1 hcell).1
    simp only [hcell, Option.some.injEq, Prod.mk.injEq, hname, true_and,
      ← Text.decodeUtf8_eq_ok_iff]
    rcases Text.decodeUtf8 octets with flaw | cs
    · simp
    · simp only [Except.ok.injEq, Option.some.injEq]
      constructor
      · rintro rfl
        simp
      · rintro rfl
        simp

/-- What is wrong with a row has to do with the protocol. -/
theorem Row.isConnectivity_of_text? (h : row.text? column = .error fault) :
    fault.isConnectivity = false := by
  unfold Row.text? at h
  split at h
  · cases h
  · cases h
  · split at h
    · cases h
    · cases h
      rfl

/-- **No frame says that the node could not be reached.** -/
theorem Frame.isConnectivity_of_rows (h : frame.rows = .error fault) :
    fault.isConnectivity = false := by
  unfold Frame.rows at h
  split at h
  · cases hrows : parseRows frame.body with
    | error flaw =>
      rw [hrows] at h
      cases h
      rfl
    | ok rows =>
      rw [hrows] at h
      cases h
  · split at h
    · cases h
      rfl
    · cases h
      rfl
  · cases h
    rfl

end Wire

namespace NodeSettings

variable {row : Wire.Row} {rows : List Wire.Row} {column text r p : String} {fault : Fault}

theorem required_eq_ok_iff : required row column = .ok text ↔ row.Spells column text := by
  rw [← Wire.Row.text?_eq_ok_some_iff, required]
  split
  · rename_i h
    simp [h]
  · rename_i h
    simp [h]
  · rename_i h
    simp [h]

theorem isConnectivity_of_required (h : required row column = .error fault) :
    fault.isConnectivity = false := by
  unfold required at h
  split at h
  · cases h
  · cases h
    rfl
  · rename_i hrow
    cases h
    exact Wire.Row.isConnectivity_of_text? hrow

/-- **Settings are read from a first row that spells both**, and from no other. -/
theorem ofRows_eq_ok_some_iff : ofRows rows = .ok (some ⟨r, p⟩) ↔
    ∃ row rest, rows = row :: rest ∧ row.Spells "release_version" r ∧
      row.Spells "partitioner" p := by
  cases rows with
  | nil => simp [ofRows]
  | cons row rest =>
    simp only [← required_eq_ok_iff, ofRows, List.cons.injEq]
    constructor
    · intro h
      split at h
      · cases h
      · rename_i release hrelease
        split at h
        · cases h
        · rename_i partitioner hpartitioner
          obtain ⟨rfl, rfl⟩ : release = r ∧ partitioner = p := by simpa using h
          exact ⟨row, rest, ⟨rfl, rfl⟩, hrelease, hpartitioner⟩
    · rintro ⟨row, rest, ⟨rfl, rfl⟩, hrelease, hpartitioner⟩
      rw [hrelease, hpartitioner]

theorem isConnectivity_of_ofRows (h : ofRows rows = .error fault) :
    fault.isConnectivity = false := by
  unfold ofRows at h
  split at h
  · cases h
  · split at h
    · rename_i hrow
      cases h
      exact isConnectivity_of_required hrow
    · split at h
      · rename_i hrow
        cases h
        exact isConnectivity_of_required hrow
      · cases h

end NodeSettings

namespace Wire

variable {r p : String} {frame : Frame} {fault : Fault}

/-- **A frame is read as settings just when it reports them.** -/
theorem Frame.reports_iff :
    frame.rows.bind NodeSettings.ofRows = .ok (some ⟨r, p⟩) ↔ frame.Reports r p := by
  by_cases hopcode : frame.header.opcode = .result
  · have hrows : frame.rows = (parseRows frame.body).mapError Flaw.fault := by
      rw [Frame.rows, hopcode]
    rw [hrows, Frame.Reports]
    cases hparse : parseRows frame.body with
    | error flaw => simp [Except.mapError, Except.bind]
    | ok rows => simp [Except.mapError, Except.bind, NodeSettings.ofRows_eq_ok_some_iff, hopcode]
  · refine iff_of_false (fun h => ?_) fun h => hopcode h.1
    obtain ⟨fault, hfault⟩ : ∃ fault, frame.rows = .error fault := by
      unfold Frame.rows
      split
      · rename_i hresult
        exact absurd hresult hopcode
      · split
        · exact ⟨_, rfl⟩
        · exact ⟨_, rfl⟩
      · exact ⟨_, rfl⟩
    rw [hfault] at h
    cases h

theorem Frame.isConnectivity_of_settings (h : frame.rows.bind NodeSettings.ofRows = .error fault) :
    fault.isConnectivity = false := by
  cases hrows : frame.rows with
  | error fault' =>
    rw [hrows] at h
    cases h
    exact isConnectivity_of_rows hrows
  | ok rows =>
    rw [hrows] at h
    exact NodeSettings.isConnectivity_of_ofRows h

end Wire

namespace Node

variable {m m' : Monitor} {p : Progress Call Wait} {a : Option Answer} {w : Option Wait}
variable {id : Nat} {catalog : Catalog} {past : List Moment} {run : Calls} {s : Nat}

/-! ## The session of a query -/

/-- A query begins on the session in use. -/
theorem Passage.slot_of_querying (h : Passage m p a m' w) (hw : w = some (.querying s)) :
    m'.slot = some s := by
  have husable {v : Nat} (hv : m.usable = some v) : m.slot = some v := by
    simp only [Monitor.usable, Option.filter_eq_some_iff] at hv
    exact hv.1
  cases h with
  | @probeReady v _ _ hv =>
    obtain rfl : v = s := by simpa using hw
    exact husable hv
  | @found q v _ hv =>
    obtain rfl : v = s := eq_of_next hw
    exact husable hv
  | @adopts q v =>
    obtain rfl : v = s := eq_of_next hw
    rfl
  | provided haside => cases haside _ hw
  | asideStarts _ haside => cases haside _ hw
  | asideResumes _ haside => cases haside _ hw
  | _ => cases hw

/-- **A session that is queried is in use**, or it is over. -/
theorem slot_or_over_of_querying (h : History id catalog past run) {i : Nat}
    (hi : run.waiting i = some (.querying s)) :
    run.monitor.slot = some s ∨ Monitor.Over run.monitor s := by
  suffices ∀ i, run.waiting i = some (.querying s) →
      run.monitor.slot = some s ∨ Monitor.Over run.monitor s from this i hi
  refine h.induction (I := fun _ run => ∀ i, run.waiting i = some (.querying s) →
    run.monitor.slot = some s ∨ Monitor.Over run.monitor s) (Run.bounded_idle _) nofun
    (fun past t _ ih hq => ?_) fun past t j p a st hx ih hr i hi => ?_
  · have hmonitor : t.after.monitor = t.before.monitor := congrArg Node.monitor hq.state
    rw [hq.waiting, hmonitor]
    exact ih
  · have hp := passes_of_ran (hx.bounded (Run.bounded_idle _)) hr
    by_cases hij : i = j
    · subst hij
      exact .inl (hp.passage.slot_of_querying (hp.waiting_self.symm.trans hi))
    · rw [hp.waiting_of_ne hij] at hi
      have hheld := held hx
      rcases ih i hi with hslot | hover
      · refine hp.passage.slot_or_over hheld.listening hheld.guarded.slot_none ?_ hslot
        rintro q rfl
        exact hheld.guarded.locked_iff.2 ⟨j, connects_waiting_iff.2 ⟨q, hp.progress⟩⟩
      · exact .inr (hp.passage.grows.over hover)

/-! ## The verdict -/

/-- **A query that is answered ends the probe**, if the node was reached: it is
healthy if the answer is complete, and down otherwise. -/
theorem Passage.verdict {r : Except Fault (List Wire.Row)}
    (h : Passage m (.waiting (.querying s)) (some (.rows r)) m' w) (hopen : ¬ m.isClosed)
    (hreached : ∀ fault, r.bind NodeSettings.ofRows = .error fault → fault.isConnectivity = false) :
    w = none ∧ ((∃ settings, r.bind NodeSettings.ofRows = .ok (some settings) ∧
        m' = (m.accept settings).endProbe) ∨
      (∀ settings, r.bind NodeSettings.ofRows ≠ .ok (some settings)) ∧
        ∃ reason, m' = (m.markDown reason).endProbe) := by
  cases h with
  | ignored hclosed => exact absurd hclosed hopen
  | accepted _ hrow => exact ⟨rfl, .inl ⟨_, hrow, rfl⟩⟩
  | rowless _ hrow => exact ⟨rfl, .inr ⟨fun st hst => absurd (hrow.symm.trans hst) nofun, _, rfl⟩⟩
  | failed _ hrow => exact ⟨rfl, .inr ⟨fun st hst => absurd (hrow.symm.trans hst) nofun, _, rfl⟩⟩
  | cutOff _ hrow hconn =>
    rw [hreached _ hrow] at hconn
    cases hconn
  | asideResumes hv => cases hv

/-- **Whatever a frame says, it tears nothing down.** In any history let the
query of the probe `call` on the session `s` be answered with a frame of any kind
and any body while the watch goes on. The probe is over then. The node is
healthy, and its settings are remembered, just when the frame reports them;
otherwise it is down, nothing is remembered, and the adapter is the one it was.
All sessions, the one in use and the listener are what they were, so `s`, if it
was not lost before, is open, in use and listened on. No frame is read as a
fault of want of a connection. -/
theorem answer_tears_nothing_down {call : Nat} (h : History id catalog past run)
    (hcall : run.waiting call = some (.querying s)) (hopen : run.monitor.isClosed = false)
    (frame : Wire.Frame) :
    (∃ next, run.apply system (.resume call (.rows frame.rows)) = some next ∧
      next.progress call = none ∧
      (∀ r p, next.monitor.phase = .healthy ∧ next.monitor.settings = some ⟨r, p⟩ ↔
        frame.Reports r p) ∧
      ((∀ r p, ¬ frame.Reports r p) → next.monitor.phase = .down ∧
        next.monitor.settings = none ∧ next.monitor.outfit = run.monitor.outfit) ∧
      next.monitor.holding = run.monitor.holding ∧
      (run.monitor.isOpen s = true → next.monitor.isOpen s = true ∧
        next.monitor.slot = some s ∧ ∃ i q, next.monitor.listener = some i ∧
          next.monitor.sessions[s]? = some q ∧ q.listeners.entries = [(i, monitorListener)])) ∧
    ∀ fault, frame.rows = .error fault → fault.isConnectivity = false := by
  refine ⟨?_, fun fault => Wire.Frame.isConnectivity_of_rows⟩
  have hb : run.Bounded := h.bounded (Run.bounded_idle _)
  have hresume : system.resume (.querying s) (.rows frame.rows) run.state =
      some (run.state.probed s frame.rows) := rfl
  obtain ⟨next, hnext, hstate, hprogress⟩ := Run.exists_resume hb hcall hresume
  have hnot : ¬ run.monitor.isClosed := by simp [hopen]
  obtain ⟨hover, hverdict⟩ := (passage_probed run.state s frame.rows).verdict hnot
    fun fault => Wire.Frame.isConnectivity_of_settings
  have hmonitor : next.monitor = (run.state.probed s frame.rows).state.monitor :=
    congrArg Node.monitor hstate
  rw [hover] at hprogress
  rw [← hmonitor] at hverdict
  have hholding : next.monitor.holding = run.monitor.holding := by
    rcases hverdict with ⟨settings, -, hnow⟩ | ⟨-, reason, hnow⟩
    · rw [hnow, Monitor.holding_endProbe, Monitor.holding_accept]
    · rw [hnow, Monitor.holding_endProbe, Monitor.holding_markDown]
  refine ⟨next, hnext, hprogress, fun r p => ?_, fun hno => ?_, hholding, fun hs => ?_⟩
  · rw [← Wire.Frame.reports_iff]
    rcases hverdict with ⟨settings, hrow, hnow⟩ | ⟨hno, reason, hnow⟩
    · rw [hnow, Monitor.phase_endProbe, Monitor.settings_endProbe, Monitor.phase_accept,
        Monitor.settings_accept, if_neg hnot, hrow]
      simp
    · refine iff_of_false ?_ (hno ⟨r, p⟩)
      rw [hnow, Monitor.phase_endProbe, Monitor.phase_markDown, if_neg hnot]
      exact fun hhealthy => absurd hhealthy.1 nofun
  · rcases hverdict with ⟨settings, hrow, hnow⟩ | ⟨-, reason, hnow⟩
    · exact absurd (Wire.Frame.reports_iff.1 hrow) (hno _ _)
    · rw [hnow, Monitor.phase_endProbe, Monitor.phase_markDown, if_neg hnot,
        Monitor.settings_endProbe, Monitor.settings_markDown, Monitor.outfit_endProbe,
        Monitor.outfit_markDown]
      exact ⟨rfl, rfl, rfl⟩
  · have hslot : run.monitor.slot = some s :=
      (slot_or_over_of_querying h hcall).resolve_right fun hgone => hgone.ne_of_isOpen hs rfl
    have hsessions : next.monitor.sessions = run.monitor.sessions :=
      congrArg Monitor.Holding.sessions hholding
    have hlistener : next.monitor.listener = run.monitor.listener :=
      congrArg Monitor.Holding.listener hholding
    obtain ⟨-, hlistens⟩ := (held h).listening.of_some s hslot
    refine ⟨?_, slot_of_holding hholding hslot, ?_⟩
    · rwa [Monitor.isOpen, hsessions]
    · rwa [hlistener, hsessions]

/-- What a node says of itself: its release, and how it spreads rows. -/
def localRow : Wire.ResultSet where
  spare := 0
  paging := none
  table := some ⟨"system", "local"⟩
  columns := [⟨none, "release_version", .plain 13⟩, ⟨none, "partitioner", .plain 13⟩]
  rows := [[.octets (Text.encodeUtf8 "4.0.0".toList), .octets (Text.encodeUtf8 "Murmur3".toList)]]

/-- A response frame on the first stream. -/
def response (opcode : Wire.Opcode) (body : Text.Octets) : Wire.Frame :=
  ⟨⟨0x84, 0, 0, opcode, body.length⟩, body⟩

/-- A row that says both things finds a node up, and an error without a code
finds it down and leaves its session alone. -/
theorem broken_error_tears_nothing_down : ∃ past run, History 1 .standard past run ∧
    run.waiting 0 = some (.querying 0) ∧
    (∃ next, run.apply system (.resume 0 (.rows (response .result localRow.encode).rows)) =
      some next ∧ next.monitor.phase = .healthy ∧
      next.monitor.settings = some ⟨"4.0.0", "Murmur3"⟩) ∧
    ∃ next, run.apply system (.resume 0 (.rows (response .error [7]).rows)) = some next ∧
      next.monitor.phase = .down ∧ next.monitor.slot = some 0 ∧ next.monitor.isOpen 0 = true := by
  obtain ⟨run, hrun, hcall, hopen, hsession⟩ : ∃ run,
      (Run.idle (Node.fresh 1 .standard)).applyAll system queryUnderWay = some run ∧
      run.waiting 0 = some (.querying 0) ∧ run.monitor.isClosed = false ∧
      run.monitor.isOpen 0 = true :=
    ⟨_, rfl, rfl, rfl, rfl⟩
  have hpast := execution_of_applyAll hrun
  have hreports : (response .result localRow.encode).Reports "4.0.0" "Murmur3" := by
    refine ⟨rfl, ⟨[("release_version", some (Text.encodeUtf8 "4.0.0".toList)),
      ("partitioner", some (Text.encodeUtf8 "Murmur3".toList))]⟩, [], by decide +kernel,
      ⟨[], _, rfl, nofun⟩, ⟨[_], [], rfl, by simp⟩⟩
  have hsilent (r p : String) : ¬ (response .error [7]).Reports r p := fun h => absurd h.1 nofun
  obtain ⟨⟨up, hup, -, hhealthy, -⟩, -⟩ :=
    answer_tears_nothing_down hpast hcall hopen (response .result localRow.encode)
  obtain ⟨⟨down, hdown, -, -, hverdict, -, hkept⟩, -⟩ :=
    answer_tears_nothing_down hpast hcall hopen (response .error [7])
  obtain ⟨hphase, hsettings⟩ := (hhealthy "4.0.0" "Murmur3").2 hreports
  obtain ⟨hisOpen, hslot, -⟩ := hkept hsession
  exact ⟨_, run, hpast, hcall, ⟨up, hup, hphase, hsettings⟩, down, hdown, (hverdict hsilent).1,
    hslot, hisOpen⟩

end Node

end NodeSidecar
