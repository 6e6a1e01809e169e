import Mathlib.Data.List.Forall2
import NodeSidecar.Proofs.Fleet.Exposition
import NodeSidecar.Proofs.Fleet.Independence
import NodeSidecar.Proofs.Service.Snapshots
/-!
# Fleet — what is exposed

The samples are kept beside the fleet and taken anew at each scrape. Between
scrapes the monitors count on, so an exposed count is at most the monitor's
(`Exposure.Sound`); raising it to the monitor's is then the same as copying it
(`refresh_eq`), and a scrape exposes the fleet as it is. What the text of the samples
shows follows from what the samples are.
-/

namespace NodeSidecar

/-- What is to be exposed about a monitor. -/
def Monitor.sample (m : Monitor) : Sample :=
  ⟨m.id, m.isUp, m.counts⟩

/-- The monitors of all nodes. -/
def Fleet.monitors (f : Fleet) : List Monitor :=
  f.nodes.map (·.state.monitor)

namespace Metrics

variable {metrics done rest : Metrics} {monitors : List Monitor} {m : Monitor} {s : Sample}

/-- The sample is of the node that the monitor watches, and exposes no more than the
monitor has counted. -/
structure Behind (s : Sample) (m : Monitor) : Prop where
  id : s.id = m.id
  counts : s.counts.AtMost m.counts

theorem behind_sample (m : Monitor) : Behind m.sample m :=
  ⟨rfl, .refl m.counts⟩

/-- Raised to higher counts, counts are those. -/
theorem raise_of_atMost {a b : Counts} (h : a.AtMost b) : raise a b = b := by
  rw [raise, Nat.max_eq_right h.probes, Nat.max_eq_right h.skipped, Nat.max_eq_right h.swaps,
    Nat.max_eq_right h.failures]

/-- A node that was not sampled yet comes last. -/
theorem take_of_new (h : ∀ s ∈ metrics, s.id ≠ m.id) :
    Metrics.take metrics m = metrics ++ [m.sample] := by
  have hnone : metrics.find? (·.id = m.id) = none := by simpa using h
  rw [Metrics.take, hnone]
  rfl

/-- The sample of a node is replaced by a new one, and no other is touched. -/
theorem take_of_behind (hdone : ∀ s ∈ done, s.id ≠ m.id) (hs : Behind s m)
    (hrest : ∀ s ∈ rest, s.id ≠ m.id) :
    Metrics.take (done ++ s :: rest) m = done ++ m.sample :: rest := by
  have hother {samples : Metrics} (h : ∀ s ∈ samples, s.id ≠ m.id) :
      samples.map (fun s => if s.id = m.id then ⟨s.id, m.isUp, raise s.counts m.counts⟩ else s) =
        samples :=
    (List.map_congr_left fun s hs => if_neg (h s hs)).trans (List.map_id' samples)
  have hnew : (if s.id = m.id then ⟨s.id, m.isUp, raise s.counts m.counts⟩ else s) = m.sample := by
    rw [if_pos hs.id, hs.id, raise_of_atMost hs.counts]
    rfl
  rw [Metrics.take]
  split
  · rename_i hnone
    exact absurd hs.id (by simpa using List.find?_eq_none.1 hnone s (by simp))
  · rw [List.map_append, List.map_cons, hother hdone, hother hrest, hnew]

theorem ids_of_behind (h : List.Forall₂ Behind metrics monitors) :
    metrics.map (·.id) = monitors.map (·.id) := by
  induction h with
  | nil => rfl
  | cons hs _ ih => rw [List.map_cons, List.map_cons, hs.id, ih]

/-- **A scrape exposes what the monitors say**, and nothing else. -/
theorem refresh_eq (h : metrics = [] ∨ List.Forall₂ Behind metrics monitors)
    (hn : (monitors.map (·.id)).Nodup) :
    metrics.refresh monitors = monitors.map Monitor.sample := by
  -- The monitors in `done` have been taken in, those in `todo` have not.
  have hfrom (done todo : List Monitor) (old : Metrics) (hn : ((done ++ todo).map (·.id)).Nodup)
      (h : old = [] ∨ List.Forall₂ Behind old todo) :
      todo.foldl Metrics.take (done.map Monitor.sample ++ old) =
        (done ++ todo).map Monitor.sample := by
    induction todo generalizing done old with
    | nil =>
      obtain rfl : old = [] := h.elim id List.forall₂_nil_right_iff.1
      simp
    | cons m todo ih =>
      have hids := hn
      rw [List.map_append, List.map_cons, List.nodup_append, List.nodup_cons] at hids
      obtain ⟨-, ⟨hm, -⟩, hapart⟩ := hids
      have hdone : ∀ s ∈ done.map Monitor.sample, s.id ≠ m.id := by
        intro s hs
        obtain ⟨m', hm', rfl⟩ := List.mem_map.1 hs
        exact hapart m'.id (List.mem_map_of_mem hm') m.id List.mem_cons_self
      obtain ⟨rest, htake, hrest⟩ : ∃ rest, Metrics.take (done.map Monitor.sample ++ old) m =
          (done ++ [m]).map Monitor.sample ++ rest ∧
          (rest = [] ∨ List.Forall₂ Behind rest todo) := by
        rcases h with rfl | h
        · exact ⟨[], by simp [take_of_new hdone], .inl rfl⟩
        · obtain ⟨s, rest, hs, hrest, rfl⟩ := List.forall₂_cons_right_iff.1 h
          have hlater : ∀ s ∈ rest, s.id ≠ m.id := by
            intro s hs heq
            rw [← ids_of_behind hrest] at hm
            exact hm (heq ▸ List.mem_map_of_mem hs)
          exact ⟨rest, by simp [take_of_behind hdone hs hlater], .inr hrest⟩
      have hlist : done ++ m :: todo = (done ++ [m]) ++ todo := by simp
      rw [hlist] at hn ⊢
      rw [List.foldl_cons, htake]
      exact ih (done ++ [m]) rest hn hrest
  exact hfrom [] monitors metrics hn h

end Metrics

/-! ## A fleet and what is exposed about it -/

/-- A fleet and the samples of it. -/
structure Exposure where
  /-- The fleet. -/
  fleet : Fleet
  /-- The samples. -/
  metrics : Metrics

namespace Exposure

/-- What can happen. -/
inductive Move where
  /-- Something happens in the fleet. -/
  | activity (m : Fleet.Move)
  /-- What is exposed is asked for. -/
  | scrape

/-- A fleet of which nothing was exposed yet. -/
def start (f : Fleet) : Exposure :=
  ⟨f, []⟩

/-- What is exposed is asked for: the samples are taken anew. -/
def scrape (e : Exposure) : Exposure :=
  { e with metrics := e.metrics.refresh e.fleet.monitors }

/-- What is after a move, if the move can be made. -/
def apply (e : Exposure) : Move → Option Exposure
  | .activity m => (e.fleet.apply m).map fun fleet => { e with fleet := fleet }
  | .scrape => some e.scrape

/-- What is after moves made one after the other, if all of them can be. -/
def applyAll (e : Exposure) (moves : List Move) : Option Exposure :=
  moves.foldlM apply e

variable {e e' next : Exposure} {moves : List Move} {m : Move} {f g : Fleet}

/-! ## Activity -/

theorem length_nodes_of_apply {m : Fleet.Move} (h : f.apply m = some g) :
    g.nodes.length = f.nodes.length := by
  cases m with
  | node i m =>
    obtain ⟨before, after, -, -, rfl⟩ := Fleet.apply_node_eq_some_iff.1 h
    exact List.length_set
  | check =>
    cases h
    exact List.length_map _
  | startTimer period =>
    cases h
    rfl
  | stopTimer =>
    cases h
    rfl
  | pass millis =>
    cases h
    rw [Fleet.nodes_pass, List.length_map]

/-- **Whatever happens in a fleet, its monitors go on watching the same nodes**, and
take back nothing that they counted. -/
theorem later_of_apply {m : Fleet.Move} (h : f.apply m = some g) :
    List.Forall₂ Monitor.Later f.monitors g.monitors := by
  refine List.forall₂_iff_get.2 ⟨?_, fun i hi hi' => ?_⟩
  · simp only [Fleet.monitors, List.length_map, length_nodes_of_apply h]
  · simp only [Fleet.monitors, List.length_map] at hi
    obtain ⟨calls, hcalls, hmoves⟩ := Fleet.apply_on h (List.getElem?_eq_getElem hi)
    obtain ⟨hlt, rfl⟩ := List.getElem?_eq_some_iff.1 hcalls
    simpa [Fleet.monitors] using Node.later_of_applyAll hmoves

theorem ids_of_later {monitors monitors' : List Monitor}
    (h : List.Forall₂ Monitor.Later monitors monitors') :
    monitors'.map (·.id) = monitors.map (·.id) := by
  induction h with
  | nil => rfl
  | cons hm _ ih => rw [List.map_cons, List.map_cons, hm.id, ih]

theorem behind_of_later {metrics : Metrics} {monitors monitors' : List Monitor}
    (h : List.Forall₂ Metrics.Behind metrics monitors)
    (hlater : List.Forall₂ Monitor.Later monitors monitors') :
    List.Forall₂ Metrics.Behind metrics monitors' := by
  induction hlater generalizing metrics with
  | nil => exact h
  | cons hm _ ih =>
    obtain ⟨s, rest, hs, hrest, rfl⟩ := List.forall₂_cons_right_iff.1 h
    exact .cons ⟨hs.id.trans hm.id.symm, hs.counts.trans hm.counts⟩ (ih hrest)

/-! ## Scrapes -/

/-- No node is watched twice, and nothing is exposed that its monitor has not
counted. -/
structure Sound (e : Exposure) : Prop where
  nodup : (e.fleet.monitors.map (·.id)).Nodup
  behind : e.metrics = [] ∨ List.Forall₂ Metrics.Behind e.metrics e.fleet.monitors

/-- What is exposed later is of the same nodes, and no count has gone down. -/
structure Follows (e e' : Exposure) : Prop where
  ids : e'.fleet.monitors.map (·.id) = e.fleet.monitors.map (·.id)
  counts : ∀ s ∈ e.metrics, ∃ s' ∈ e'.metrics, s'.id = s.id ∧ s.counts.AtMost s'.counts

theorem Follows.refl (e : Exposure) : Follows e e :=
  ⟨rfl, fun s hs => ⟨s, hs, rfl, .refl s.counts⟩⟩

theorem Follows.trans {e'' : Exposure} (h : Follows e e') (h' : Follows e' e'') :
    Follows e e'' where
  ids := h'.ids.trans h.ids
  counts s hs := by
    obtain ⟨s', hs', hid, hcounts⟩ := h.counts s hs
    obtain ⟨s'', hs'', hid', hcounts'⟩ := h'.counts s' hs'
    exact ⟨s'', hs'', hid'.trans hid, hcounts.trans hcounts'⟩

/-- **A scrape exposes the fleet as it is.** -/
theorem Sound.metrics_scrape (h : Sound e) :
    e.scrape.metrics = e.fleet.monitors.map Monitor.sample :=
  Metrics.refresh_eq h.behind h.nodup

theorem Sound.scrape (h : Sound e) : Sound e.scrape := by
  refine ⟨h.nodup, .inr ?_⟩
  rw [h.metrics_scrape]
  exact List.forall₂_map_left_iff.2 (List.forall₂_same.2 fun m _ => Metrics.behind_sample m)

/-- No node has two samples. -/
theorem Sound.nodup_metrics (h : Sound e) : (e.metrics.map (·.id)).Nodup := by
  rcases h.behind with hnone | hbehind
  · rw [hnone]
    exact List.nodup_nil
  · rw [Metrics.ids_of_behind hbehind]
    exact h.nodup

/-- The text shows of a node what is told of its sample, if it has one. -/
theorem Sound.shows_iff (h : Sound e) {index : Nat} {monitor : Monitor}
    (hm : e.fleet.monitors[index]? = some monitor) (name : String) (value : Nat) :
    Metrics.Shows e.metrics.text name monitor.id value ↔
      ∃ s ∈ e.metrics[index]?, (name, value) ∈ Metrics.shown s.up s.counts := by
  obtain ⟨hlt, rfl⟩ := List.getElem?_eq_some_iff.1 hm
  rcases h.behind with hnone | hbehind
  · simp [Metrics.shows_text_iff, hnone]
  · have hi : index < e.metrics.length := hbehind.length_eq ▸ hlt
    have hid : e.metrics[index].id = e.fleet.monitors[index].id := (hbehind.get hi hlt).id
    rw [← hid, Metrics.shows_iff_of_mem h.nodup_metrics (List.getElem_mem hi)]
    simp [hi]

/-- Asking again changes nothing. -/
theorem Sound.scrape_scrape (h : Sound e) : e.scrape.scrape = e.scrape := by
  have hmetrics : e.scrape.scrape.metrics = e.scrape.metrics := by
    rw [h.scrape.metrics_scrape, h.metrics_scrape]
    rfl
  exact congrArg (Exposure.mk e.fleet) hmetrics

theorem Sound.follows_scrape (h : Sound e) : Follows e e.scrape := by
  refine ⟨rfl, fun s hs => ?_⟩
  rw [h.metrics_scrape]
  rcases h.behind with hnone | hbehind
  · rw [hnone] at hs
    cases hs
  · obtain ⟨i, hi, rfl⟩ := List.getElem_of_mem hs
    have hlt : i < e.fleet.monitors.length := hbehind.length_eq ▸ hi
    have hsample := hbehind.get hi hlt
    exact ⟨_, List.mem_map_of_mem (List.getElem_mem hlt), hsample.id.symm, hsample.counts⟩

/-- **Soundness is kept by every move**, and what is exposed never goes back. -/
theorem Sound.apply (h : Sound e) (hm : e.apply m = some next) : Sound next ∧ Follows e next := by
  cases m with
  | activity m =>
    obtain ⟨fleet, hfleet, rfl⟩ := Option.map_eq_some_iff.1 hm
    have hlater := later_of_apply hfleet
    have hids := ids_of_later hlater
    refine ⟨⟨?_, h.behind.imp id fun hbehind => behind_of_later hbehind hlater⟩, hids,
      (Follows.refl e).counts⟩
    simp only [hids]
    exact h.nodup
  | scrape =>
    cases hm
    exact ⟨h.scrape, h.follows_scrape⟩

theorem Sound.applyAll (h : Sound e) (hm : e.applyAll moves = some e') :
    Sound e' ∧ Follows e e' := by
  refine foldlM_induction (P := fun _ last => Sound last ∧ Follows e last) hm ⟨h, .refl e⟩ ?_
  rintro made mid m next ⟨hsound, hfollows⟩ hnext
  obtain ⟨hlast, hlater⟩ := hsound.apply hnext
  exact ⟨hlast, hfollows.trans hlater⟩

/-! ## One node among others -/

variable {index : Nat} {moves' : List Move}

/-- The move is a scrape, or one on the node with this index or on the clock. -/
def Move.concerns (index : Nat) : Move → Bool
  | .activity m => m.concerns index
  | .scrape => true

/-- The node with this index is the same, and so is its sample. -/
structure Agree (index : Nat) (e e' : Exposure) : Prop where
  fleet : Fleet.Alike index e.fleet e'.fleet
  sample : e.metrics[index]? = e'.metrics[index]?

/-- A scrape takes the sample of a node from that node. -/
theorem Sound.getElem?_scrape (h : Sound e) (index : Nat) :
    e.scrape.metrics[index]? = e.fleet.nodes[index]?.map (·.state.monitor.sample) := by
  rw [h.metrics_scrape, Fleet.monitors, List.map_map, List.getElem?_map]
  rfl

theorem Agree.scrape (h : Agree index e e') (he : Sound e) (he' : Sound e') :
    Agree index e.scrape e'.scrape :=
  ⟨h.fleet, by rw [he.getElem?_scrape, he'.getElem?_scrape, h.fleet.node]⟩

/-- **Moves that do not concern a node can be left out**, and its sample is the
same. -/
theorem Agree.applyAll (h : Agree index e e') (he : Sound e) (he' : Sound e') {last : Exposure}
    (hlast : e.applyAll moves = some last) :
    ∃ last', e'.applyAll (moves.filter (·.concerns index)) = some last' ∧
      Agree index last last' := by
  induction moves generalizing e e' with
  | nil =>
    cases hlast
    exact ⟨e', rfl, h⟩
  | cons m moves ih =>
    obtain ⟨next, hnext, hrest⟩ := foldlM_cons_eq_some_iff.1 hlast
    have hsound := (he.apply hnext).1
    -- Where the move is made on both sides, the others follow.
    have hboth {next' : Exposure} (hm : m.concerns index = true)
        (hnext' : e'.apply m = some next') (hagree : Agree index next next') :
        ∃ last', e'.applyAll ((m :: moves).filter (·.concerns index)) = some last' ∧
          Agree index last last' := by
      obtain ⟨last', hlast', hagree'⟩ := ih hagree hsound (he'.apply hnext').1 hrest
      rw [List.filter_cons_of_pos hm]
      exact ⟨last', foldlM_cons_eq_some_iff.2 ⟨next', hnext', hlast'⟩, hagree'⟩
    cases m with
    | scrape =>
      cases hnext
      exact hboth rfl rfl (h.scrape he he')
    | activity m =>
      obtain ⟨fleet, hfleet, rfl⟩ := Option.map_eq_some_iff.1 hnext
      rcases hm : m.concerns index with - | -
      · rw [List.filter_cons_of_neg (by simp [Move.concerns, hm])]
        have hagree : Agree index ⟨fleet, e.metrics⟩ e' :=
          ⟨(Fleet.alike_of_elsewhere hfleet hm).symm.trans h.fleet, h.sample⟩
        exact ih hagree hsound he' hrest
      · obtain ⟨fleet', hfleet', halike⟩ := h.fleet.apply hm hfleet
        have hnext' : e'.apply (.activity m) = some ⟨fleet', e'.metrics⟩ := by
          rw [Exposure.apply, hfleet']
          rfl
        exact hboth hm hnext' ⟨halike, h.sample⟩

/-! ## From the start -/

variable {parts parts' : List (Managed × Catalog)} {roster roster' : Roster}

theorem monitors_fleetOf (parts : List (Managed × Catalog)) :
    (Service.fleetOf parts).monitors = parts.map fun part => .fresh part.1.id part.2 := by
  simp only [Service.fleetOf, Fleet.fresh, Fleet.monitors, List.map_map]
  rfl

theorem ids_fleetOf (parts : List (Managed × Catalog)) :
    (Service.fleetOf parts).monitors.map (·.id) = parts.map (·.1.id) := by
  rw [monitors_fleetOf, List.map_map]
  rfl

theorem sound_start (hroster : Roster.ofList (parts.map (·.1)) = .ok roster) :
    Sound (start (Service.fleetOf parts)) := by
  refine ⟨?_, .inl rfl⟩
  have hnodup := Roster.nodup_of_ofList hroster
  rw [List.map_map] at hnodup
  rw [start, ids_fleetOf]
  exact hnodup

/-- A node is watched by a monitor of its own, whatever was done. -/
theorem exists_monitor (hroster : Roster.ofList (parts.map (·.1)) = .ok roster)
    (h : (start (Service.fleetOf parts)).applyAll moves = some e) {m : Managed}
    {catalog : Catalog} (hpart : parts[index]? = some (m, catalog)) :
    ∃ monitor, e.fleet.monitors[index]? = some monitor ∧ monitor.id = m.id := by
  have hid : (e.fleet.monitors.map (·.id))[index]? = some m.id := by
    rw [((sound_start hroster).applyAll h).2.ids.trans (ids_fleetOf parts), List.getElem?_map,
      hpart, Option.map_some]
  rw [List.getElem?_map] at hid
  exact Option.map_eq_some_iff.1 hid

/-- **Scrapes expose what the monitors say.** After any moves in a fleet and any
scrapes among them, take one more scrape. Each node has a sample, which tells whether
the monitor holds settings, and the counts of the monitor; and the text shows of the
node just that: in `instance_up` one if there are settings and zero if not, and in each
of the four counters the count of its name. These five rows of every node are in the
text once, and no other row is. No counter ever goes down, neither in the samples nor
in the text, and a scrape right after another changes nothing. What is exposed of a
node depends on what was done on that node, on the clock and when it was scraped, and
not on the other nodes. -/
theorem scrapes_expose_monitors (hroster : Roster.ofList (parts.map (·.1)) = .ok roster)
    (h : (start (Service.fleetOf parts)).applyAll moves = some e) :
    (e.scrape.metrics.map (·.id) = parts.map (·.1.id) ∧
      ∀ (index : Nat) m catalog, parts[index]? = some (m, catalog) → ∃ monitor,
        e.fleet.monitors[index]? = some monitor ∧ monitor.id = m.id ∧
        e.scrape.metrics[index]? = some ⟨m.id, monitor.settings.isSome, monitor.counts⟩ ∧
        ∀ name value, Metrics.Shows e.scrape.metrics.text name m.id value ↔
          (name, value) ∈ Metrics.shown monitor.settings.isSome monitor.counts) ∧
    (Metrics.rowsOf e.scrape.metrics.text).Perm (e.fleet.monitors.flatMap fun monitor =>
      (Metrics.shown monitor.settings.isSome monitor.counts).map fun p =>
        Metrics.line p.1 monitor.id p.2) ∧
    (∀ more e', e.applyAll more = some e' →
      (∀ s ∈ e.metrics, ∃ s' ∈ e'.metrics, s'.id = s.id ∧ s.counts.AtMost s'.counts) ∧
      ∀ name id value, name ≠ "instance_up" → Metrics.Shows e.metrics.text name id value →
        ∃ value', value ≤ value' ∧ ∀ v, Metrics.Shows e'.metrics.text name id v ↔ v = value') ∧
    e.scrape.scrape = e.scrape ∧
    ∀ parts' roster' moves' e', Roster.ofList (parts'.map (·.1)) = .ok roster' →
      (start (Service.fleetOf parts')).applyAll moves' = some e' →
      ∀ index, parts[index]? = parts'[index]? →
        moves.filter (·.concerns index) = moves'.filter (·.concerns index) →
        e.metrics[index]? = e'.metrics[index]? ∧
        ∀ m catalog, parts[index]? = some (m, catalog) → ∀ name value,
          Metrics.Shows e.metrics.text name m.id value ↔
            Metrics.Shows e'.metrics.text name m.id value := by
  have hstart := sound_start hroster
  obtain ⟨hsound, hfollows⟩ := hstart.applyAll h
  have hsampled : e.scrape.metrics.map (·.id) = parts.map (·.1.id) := by
    rw [hsound.metrics_scrape, ← hfollows.ids.trans (ids_fleetOf parts), List.map_map]
    rfl
  refine ⟨⟨hsampled, fun index m catalog hpart => ?_⟩, ?_,
    fun more e' hmore => ⟨(hsound.applyAll hmore).2.counts, ?_⟩, hsound.scrape_scrape,
    fun parts' roster' moves' e' hroster' h' index hpart hmoves => ?_⟩
  · obtain ⟨monitor, hmonitor, hid⟩ := exists_monitor hroster h hpart
    have hsample : e.scrape.metrics[index]? =
        some ⟨m.id, monitor.settings.isSome, monitor.counts⟩ := by
      rw [hsound.metrics_scrape, List.getElem?_map, hmonitor, ← hid]
      rfl
    refine ⟨monitor, hmonitor, hid, hsample, fun name value => ?_⟩
    rw [← hid, hsound.scrape.shows_iff hmonitor, hsample]
    simp
  · have hrows := Metrics.perm_rowsOf_text e.scrape.metrics
    rw [hsound.metrics_scrape] at hrows ⊢
    rw [List.flatMap_map] at hrows
    exact hrows
  · intro name id value hname hshown
    obtain ⟨hsound', hfollows'⟩ := hsound.applyAll hmore
    obtain ⟨s, hs, rfl, hp⟩ := Metrics.shows_text_iff.1 hshown
    obtain ⟨s', hs', hid, hcounts⟩ := hfollows'.counts s hs
    obtain ⟨value', hle, hvalue⟩ := Metrics.exists_shown_of_atMost hcounts hp hname
    refine ⟨value', hle, fun v => ?_⟩
    rw [← hid, Metrics.shows_iff_of_mem hsound'.nodup_metrics hs', hvalue]
  · -- Without the moves elsewhere, both runs are one.
    have hstart' := sound_start hroster'
    have hagree : Agree index (start (Service.fleetOf parts)) (start (Service.fleetOf parts')) := by
      refine ⟨⟨?_, rfl⟩, rfl⟩
      simp only [start, Service.fleetOf, Fleet.fresh, List.getElem?_map, hpart]
    obtain ⟨alone, halone, hsame⟩ := hagree.applyAll hstart hstart' h
    obtain ⟨alone', halone', hsame'⟩ :=
      (Agree.mk (.refl index _) rfl : Agree index _ _).applyAll hstart' hstart' h'
    obtain rfl : alone = alone' := by
      rw [hmoves] at halone
      exact Option.some.inj (halone.symm.trans halone')
    have hsample := hsame.sample.trans hsame'.sample.symm
    refine ⟨hsample, fun m catalog hpart' name value => ?_⟩
    obtain ⟨monitor, hmonitor, hid⟩ := exists_monitor hroster h hpart'
    obtain ⟨monitor', hmonitor', hid'⟩ := exists_monitor hroster' h' (hpart.symm.trans hpart')
    have hshown := hsound.shows_iff hmonitor name value
    have hshown' := (hstart'.applyAll h').1.shows_iff hmonitor' name value
    rw [hid] at hshown
    rw [hid'] at hshown'
    rw [hshown, hshown', hsample]

/-! ## Two nodes -/

/-- Two nodes, the second one with this id. -/
def twoNodes (id : Nat) : List (Managed × Catalog) :=
  [(Service.soleNode, .standard), ({ Service.soleNode with id := id }, .standard)]

/-- The first node is probed and found up, and scraped; then probes of both nodes are
submitted twice. -/
def probedUnevenly : List Move :=
  Service.probedOnce.map .activity ++ [.scrape, .activity .check, .activity .check]

/-- On the second node one probe begins, and another is left out. -/
def overlapping : List Move :=
  [.activity (.node 1 (.start 0)), .activity (.node 1 (.start 1))]

/-- A node that is up beside one that is probed twice at once: the next scrape tells
both apart, and the first node is exposed as it is beside any other. -/
theorem uneven_nodes_exposed : ∃ roster roster' e e',
    Roster.ofList ((twoNodes 2).map (·.1)) = .ok roster ∧
    Roster.ofList ((twoNodes 3).map (·.1)) = .ok roster' ∧
    (start (Service.fleetOf (twoNodes 2))).applyAll (probedUnevenly ++ overlapping) = some e ∧
    (start (Service.fleetOf (twoNodes 3))).applyAll probedUnevenly = some e' ∧
    e.metrics = [⟨1, true, ⟨1, 0, 1, 0⟩⟩, ⟨2, false, ⟨0, 0, 0, 0⟩⟩] ∧
    e.scrape.metrics[0]? = some ⟨1, true, ⟨1, 0, 1, 0⟩⟩ ∧
    e.scrape.metrics[1]? = some ⟨2, false, ⟨1, 1, 0, 0⟩⟩ ∧
    "cassandra_sidecar_instance_up\x7binstance=\"1\"\x7d 1" ∈
      Metrics.rowsOf e.scrape.metrics.text ∧
    "cassandra_sidecar_probes_skipped_total\x7binstance=\"2\"\x7d 1" ∈
      Metrics.rowsOf e.scrape.metrics.text ∧
    (Metrics.rowsOf e.scrape.metrics.text).length = 10 ∧
    e.scrape.scrape = e.scrape ∧ e.metrics[0]? = e'.metrics[0]? := by
  obtain ⟨roster, hroster⟩ : ∃ roster, Roster.ofList ((twoNodes 2).map (·.1)) = .ok roster :=
    ⟨_, rfl⟩
  obtain ⟨roster', hroster'⟩ : ∃ roster, Roster.ofList ((twoNodes 3).map (·.1)) = .ok roster :=
    ⟨_, rfl⟩
  obtain ⟨e', he'⟩ : ∃ e', (start (Service.fleetOf (twoNodes 3))).applyAll probedUnevenly =
      some e' := ⟨_, rfl⟩
  obtain ⟨e, he, hmetrics, m, m', hmonitors, hup, hcounts, hup', hcounts'⟩ :
      ∃ e, (start (Service.fleetOf (twoNodes 2))).applyAll (probedUnevenly ++ overlapping) =
        some e ∧ e.metrics = [⟨1, true, ⟨1, 0, 1, 0⟩⟩, ⟨2, false, ⟨0, 0, 0, 0⟩⟩] ∧
      ∃ m m', e.fleet.monitors = [m, m'] ∧
        m.settings.isSome = true ∧ m.counts = ⟨1, 0, 1, 0⟩ ∧
        m'.settings.isSome = false ∧ m'.counts = ⟨1, 1, 0, 0⟩ :=
    ⟨_, rfl, rfl, _, _, rfl, rfl, rfl, rfl, rfl⟩
  obtain ⟨⟨-, hsamples⟩, hrows, -, hagain, hapart⟩ := scrapes_expose_monitors hroster he
  obtain ⟨monitor, hmonitor, -, hfirst, hfirstShown⟩ := hsamples 0 _ _ rfl
  obtain rfl : m = monitor := by
    rw [hmonitors] at hmonitor
    exact Option.some.inj hmonitor
  obtain ⟨monitor', hmonitor', -, hsecond, hsecondShown⟩ := hsamples 1 _ _ rfl
  obtain rfl : m' = monitor' := by
    rw [hmonitors] at hmonitor'
    exact Option.some.inj hmonitor'
  rw [hup, hcounts] at hfirst hfirstShown
  rw [hup', hcounts'] at hsecond hsecondShown
  have hlength : (Metrics.rowsOf e.scrape.metrics.text).length = 10 := by
    rw [hrows.length_eq, hmonitors]
    rfl
  have hupRow := (hfirstShown "instance_up" 1).2 (by decide)
  have hskippedRow := (hsecondShown "probes_skipped_total" 1).2 (by decide)
  exact ⟨roster, roster', e, e', hroster, hroster', he, he', hmetrics, hfirst, hsecond,
    hupRow, hskippedRow, hlength, hagain, (hapart _ _ _ _ hroster' he' 0 rfl rfl).1⟩

end Exposure

end NodeSidecar
