import Mathlib.Data.List.Destutter
import NodeSidecar.Proofs.Node.Health
/-!
# Node — the adapter follows the reported release

Of the releases that probes report, those that spell a version which a factory
serves are supported. The adapter in use is the one for the last of them, and
the adapters built are as many as there are supported versions in a row once
equal neighbours are collapsed (`Fitted`).
-/

namespace NodeSidecar

/-! ## Collapsing equal neighbours -/

theorem destutter'_concat {α : Type} [DecidableEq α] (b : α) (l : List α) (a : α) :
    (l ++ [a]).destutter' (· ≠ ·) b =
      if (b :: l).getLast? = some a then l.destutter' (· ≠ ·) b
      else l.destutter' (· ≠ ·) b ++ [a] := by
  induction l generalizing b with
  | nil => by_cases h : b = a <;> simp [h]
  | cons c l ih =>
    rw [List.cons_append, List.getLast?_cons_cons]
    by_cases h : b = c
    · subst h
      rw [List.destutter'_cons_neg _ (by simp), List.destutter'_cons_neg _ (by simp), ih b]
    · rw [List.destutter'_cons_pos _ h, List.destutter'_cons_pos _ h, ih c]
      split <;> simp

/-- **One more element at the end** of a list whose equal neighbours are
collapsed goes on, unless the list ended in it. -/
theorem destutter_concat {α : Type} [DecidableEq α] (l : List α) (a : α) :
    (l ++ [a]).destutter (· ≠ ·) =
      if l.getLast? = some a then l.destutter (· ≠ ·) else l.destutter (· ≠ ·) ++ [a] := by
  cases l with
  | nil => simp
  | cons b l => exact destutter'_concat b l a

namespace Node

variable {m m' : Monitor} {p : Progress Call Wait} {a : Option Answer} {w : Option Wait}

/-! ## What is supported -/

/-- The settings that the probes of a history stored, in order. -/
def stored (past : List Moment) : List NodeSettings :=
  past.filterMap stores

/-- The version that a release text spells, if it spells one that a factory
serves. -/
def served? (catalog : Catalog) (release : String) : Option Version :=
  match Version.parse release with
  | .error _ => none
  | .ok version =>
    match catalog.resolve version with
    | .error _ => none
    | .ok _ => some version

/-- The supported versions that the probes of a history reported, in order. -/
def supported (catalog : Catalog) (past : List Moment) : List Version :=
  (stored past).filterMap fun settings => served? catalog settings.releaseVersion

/-- **The adapter fits the supported versions** that were reported: it is for
the last of them, and one was built for each that differs from the one before
it. -/
structure Fitted (catalog : Catalog) (versions : List Version) (m : Monitor) : Prop where
  same : m.catalog = catalog
  version : m.version = versions.getLast?
  factory : ∀ a, m.adapter = some a → catalog.resolve a.version = .ok a.factory ∧
    m.built.head? = some a.factory ∧ a.serial = m.built.count a.factory
  built : m.built.reverse.map .ok = (versions.destutter (· ≠ ·)).map catalog.resolve
  swaps : m.counts.swaps = m.built.length

namespace Fitted

variable {catalog : Catalog} {versions : List Version}

theorem of_outfit (h : Fitted catalog versions m) (he : m'.outfit = m.outfit) :
    Fitted catalog versions m' := by
  have hcatalog : m'.catalog = m.catalog := congrArg Monitor.Outfit.catalog he
  have hadapter : m'.adapter = m.adapter := congrArg Monitor.Outfit.adapter he
  have hbuilt : m'.built = m.built := congrArg Monitor.Outfit.built he
  have hswaps : m'.counts.swaps = m.counts.swaps := congrArg Monitor.Outfit.swaps he
  have hversion : m'.version = m.version := by rw [Monitor.version, hadapter, Monitor.version]
  exact ⟨hcatalog.trans h.same, hversion.trans h.version, hbuilt ▸ hadapter ▸ h.factory,
    hbuilt ▸ h.built, hswaps ▸ hbuilt ▸ h.swaps⟩

/-- A factory that serves another version than the last builds one more. -/
theorem install (h : Fitted catalog versions m) {v : Version} {f : Factory}
    (hv : m.version ≠ some v) (hf : catalog.resolve v = .ok f) :
    Fitted catalog (versions ++ [v]) (m.install v f) where
  same := h.same
  version := by simp [Monitor.install, Monitor.version]
  factory a ha := by
    obtain rfl : (⟨v, f, m.built.count f + 1⟩ : Adapter) = a := Option.some.inj ha
    exact ⟨hf, rfl, (List.count_cons_self).symm⟩
  built := by
    have hlast : versions.getLast? ≠ some v := h.version ▸ hv
    rw [destutter_concat, if_neg hlast, List.map_append, ← h.built]
    simp [Monitor.install, hf]
  swaps := by simp [Monitor.install, h.swaps]

/-- The version that the adapter is for comes once more. -/
theorem again (h : Fitted catalog versions m) {v : Version} (hv : m.version = some v) :
    Fitted catalog (versions ++ [v]) m where
  same := h.same
  version := by simp [hv]
  factory := h.factory
  built := by
    have hlast : versions.getLast? = some v := h.version ▸ hv
    rw [destutter_concat, if_pos hlast]
    exact h.built
  swaps := h.swaps

/-- The version that the adapter is for is served. -/
theorem resolve_version (h : Fitted catalog versions m) {v : Version}
    (hv : m.version = some v) : ∃ f, catalog.resolve v = .ok f := by
  obtain ⟨a, ha, rfl⟩ := Option.map_eq_some_iff.1 hv
  exact ⟨a.factory, (h.factory a ha).1⟩

/-- **A report keeps the adapter fitted.** -/
theorem fitAdapter (h : Fitted catalog versions m) (release : String) :
    Fitted catalog (versions ++ (served? catalog release).toList) (m.fitAdapter release) := by
  have hrejected (fault : Fault) : Fitted catalog (versions ++ []) (m.reject release fault) := by
    rw [List.append_nil]
    exact h.of_outfit (m.outfit_reject release fault)
  -- `served?` takes the steps that the monitor takes, but for its early return when the
  -- version is the one in use; that one is served as well, or it would not be in use.
  unfold Monitor.fitAdapter served?
  rw [h.same]
  rcases Version.parse release with fault | v
  · exact hrejected fault
  · by_cases hv : m.version = some v
    · obtain ⟨f, hf⟩ := h.resolve_version hv
      simpa [hf, hv] using h.again hv
    · rcases hf : catalog.resolve v with fault | f
      · simpa [hf, hv] using hrejected fault
      · simpa [hf, hv] using h.install hv hf

/-- A report that is not supported, or of the version that the adapter is for,
leaves the adapter as it is. -/
theorem outfit_fitAdapter (h : Fitted catalog versions m) {release : String}
    (hr : served? catalog release = none ∨ served? catalog release = m.version) :
    (m.fitAdapter release).outfit = m.outfit := by
  unfold Monitor.fitAdapter
  unfold served? at hr
  split
  · exact m.outfit_reject _ _
  · rename_i v hparse
    split
    · rfl
    · rename_i hv
      rw [h.same]
      split
      · exact m.outfit_reject _ _
      · rename_i f hf
        simp only [hparse, hf] at hr
        exact absurd (hr.resolve_left nofun).symm hv

end Fitted

/-! ## What a move does to the adapter -/

/-- **Only a probe that succeeds touches the adapter.** -/
theorem Passage.outfit (h : Passage m p a m' w) : m'.outfit = m.outfit ∨
    ∃ settings, ¬ m.isClosed ∧ CompleteRow p a settings := by
  have hdiscard : (discard m).outfit = m.outfit :=
    Monitor.outfit_eq_of_apart (apart_discard m)
  cases h with
  | @accepted s r settings hopen hrow => exact .inr ⟨settings, hopen, s, r, rfl, rfl, hrow⟩
  | late => exact .inl (by simp [hdiscard])
  | connects => exact .inl (by simp [hdiscard])
  | @evicts s => exact .inl (Monitor.outfit_eq_of_apart (m.apart_abandon s))
  | @shuts s => exact .inl (Monitor.outfit_eq_of_apart (m.apart_abandon s))
  | @adopts q s => exact .inl (Monitor.outfit_eq_of_apart (m.apart_adopt s))
  | @unreachable q => exact .inl (m.unlock.outfit_without q)
  | rowless => exact .inl (m.outfit_markDown _)
  | failed => exact .inl (m.outfit_markDown _)
  | cutOff => exact .inl (m.outfit_markDown _)
  | heard => exact .inl m.outfit_forget
  | reportedDown => exact .inl m.outfit_forget
  | _ => exact .inl rfl

theorem Passes.outfit_of_not_stores {t : Moment} {id : Nat} (h : Passes t id p a)
    (hs : stores t = none) : t.after.monitor.outfit = t.before.monitor.outfit := by
  rcases h.passage.outfit with he | ⟨settings, hopen, hrow⟩
  · exact he
  · rw [h.stores_of_completeRow hopen hrow] at hs
    cases hs

theorem Passes.outfit_of_stores {t : Moment} {id : Nat} {settings : NodeSettings}
    (h : Passes t id p a) (hs : stores t = some settings) :
    t.after.monitor.outfit = (t.before.monitor.fitAdapter settings.releaseVersion).outfit := by
  rw [(h.accepts_of_stores hs).2, Monitor.outfit_endProbe, Monitor.outfit_accept]

/-! ## The invariant -/

/-- What holds of the adapter and of what is remembered after every history. -/
structure Following (catalog : Catalog) (past : List Moment) (run : Calls) : Prop where
  fitted : Fitted catalog (supported catalog past) run.monitor
  remembered : ∀ settings, run.monitor.settings = some settings →
    (stored past).getLast? = some settings

theorem stored_concat_of_none {past : List Moment} {t : Moment} (hs : stores t = none) :
    stored (past ++ [t]) = stored past := by
  simp [stored, hs]

theorem stored_concat_of_some {past : List Moment} {t : Moment} {settings : NodeSettings}
    (hs : stores t = some settings) : stored (past ++ [t]) = stored past ++ [settings] := by
  simp [stored, hs]

theorem Following.passes {catalog : Catalog} {past : List Moment} {t : Moment} {id : Nat}
    (hh : Following catalog past t.before) (h : Passes t id p a) :
    Following catalog (past ++ [t]) t.after := by
  rcases hs : stores t with - | st
  · have hsame : stored (past ++ [t]) = stored past := stored_concat_of_none hs
    refine ⟨?_, fun settings hsettings => ?_⟩
    · rw [supported, hsame]
      exact hh.fitted.of_outfit (h.outfit_of_not_stores hs)
    · rw [hsame]
      rcases h.settings_of_not_stores hs with heq | hnone
      · exact hh.remembered settings (heq ▸ hsettings)
      · rw [hnone] at hsettings
        cases hsettings
  · have hmore : stored (past ++ [t]) = stored past ++ [st] := stored_concat_of_some hs
    obtain ⟨-, hafter⟩ := h.accepts_of_stores hs
    refine ⟨?_, fun settings hsettings => ?_⟩
    · have hsupported : supported catalog (past ++ [t]) =
          supported catalog past ++ (served? catalog st.releaseVersion).toList := by
        rw [supported, hmore, List.filterMap_append]
        rcases hserved : served? catalog st.releaseVersion with - | v <;>
          simp [supported, hserved]
      rw [hsupported]
      exact (hh.fitted.fitAdapter st.releaseVersion).of_outfit (h.outfit_of_stores hs)
    · rw [hafter, Monitor.settings_endProbe, Monitor.settings_accept] at hsettings
      rw [hmore, ← hsettings, List.getLast?_concat]

theorem Following.quiet {catalog : Catalog} {past : List Moment} {t : Moment}
    (hh : Following catalog past t.before) (h : Quiet t) :
    Following catalog (past ++ [t]) t.after := by
  have hs : stores t = none := by simp [stores, h.cause]
  have hsame : stored (past ++ [t]) = stored past := stored_concat_of_none hs
  obtain ⟨hfitted, hremembered⟩ := hh
  refine ⟨?_, ?_⟩
  · rw [supported, hsame, h.monitor]
    exact hfitted
  · rw [hsame, h.monitor]
    exact hremembered

theorem fitted_fresh (id : Nat) (catalog : Catalog) :
    Fitted catalog [] (Monitor.fresh id catalog) where
  same := rfl
  version := rfl
  factory := nofun
  built := rfl
  swaps := rfl

/-- **Every history keeps the adapter fitted.** -/
theorem following {id : Nat} {catalog : Catalog} {past : List Moment} {run : Calls}
    (h : History id catalog past run) : Following catalog past run := by
  refine history_induction h (Run.bounded_idle _) ?_ (fun _ _ hh hq => hh.quiet hq)
    fun _ _ _ _ _ hh hp => hh.passes hp
  exact ⟨fitted_fresh id catalog, nofun⟩

/-- A move after which the adapter need not be another one leaves it as it
is. -/
theorem outfit_of_mem {id : Nat} {catalog : Catalog} {past : List Moment} {run : Calls}
    {t : Moment} (h : History id catalog past run) (ht : t ∈ past)
    (hs : ∀ settings, stores t = some settings →
      served? catalog settings.releaseVersion = none ∨
        served? catalog settings.releaseVersion = t.before.monitor.version) :
    t.after.monitor.outfit = t.before.monitor.outfit := by
  obtain ⟨earlier, hearlier, -⟩ := h.of_mem ht
  rcases quiet_or_passes_of_mem h ht with hq | ⟨i, p, a, hp⟩
  · rw [hq.monitor]
  · rcases hstores : stores t with - | settings
    · exact hp.outfit_of_not_stores hstores
    · rw [hp.outfit_of_stores hstores]
      exact (following hearlier).fitted.outfit_fitAdapter (hs settings hstores)

/-- **The adapter follows the reported release**, after every history: it is for
the last supported version that a probe reported and comes from the factory
that serves it; one was built for each supported version that differs from the
one before it, by the factory that serves that one. No move changes it but a
probe that reports another supported version. What is remembered is what the
last successful probe reported, supported or not. -/
theorem adapter_follows_reports {id : Nat} {catalog : Catalog} {past : List Moment}
    {run : Calls} (h : History id catalog past run) :
    run.monitor.version = (supported catalog past).getLast? ∧
    (∀ a, run.monitor.adapter = some a → catalog.resolve a.version = .ok a.factory ∧
      run.monitor.built.head? = some a.factory ∧
      a.serial = run.monitor.built.count a.factory) ∧
    run.monitor.built.reverse.map .ok =
      ((supported catalog past).destutter (· ≠ ·)).map catalog.resolve ∧
    run.monitor.built.length = ((supported catalog past).destutter (· ≠ ·)).length ∧
    run.monitor.counts.swaps = run.monitor.built.length ∧
    (∀ t ∈ past, (∀ settings, stores t = some settings →
        served? catalog settings.releaseVersion = none ∨
          served? catalog settings.releaseVersion = t.before.monitor.version) →
      t.after.monitor.adapter = t.before.monitor.adapter ∧
        t.after.monitor.built = t.before.monitor.built) ∧
    (∀ t ∈ past, ∀ settings, stores t = some settings →
      t.after.monitor.settings = some settings) ∧
    ∀ settings, run.monitor.settings = some settings →
      (stored past).getLast? = some settings := by
  obtain ⟨⟨-, hversion, hfactory, hbuilt, hswaps⟩, hremembered⟩ := following h
  refine ⟨hversion, hfactory, hbuilt, ?_, hswaps, fun t ht hs => ?_, fun t ht settings hs => ?_,
    hremembered⟩
  · simpa using congrArg List.length hbuilt
  · have houtfit := outfit_of_mem h ht hs
    exact ⟨congrArg Monitor.Outfit.adapter houtfit, congrArg Monitor.Outfit.built houtfit⟩
  · rcases quiet_or_passes_of_mem h ht with hq | ⟨i, p, a, hp⟩
    · simp [stores, hq.cause] at hs
    · rw [(hp.accepts_of_stores hs).2, Monitor.settings_endProbe, Monitor.settings_accept]

/-- A second probe is answered with one row. -/
def secondProbe (row : Wire.Row) : List (Move Call Answer) :=
  [.submit .probe, .start 2, .resume 2 (.rows (.ok [row]))]

/-- A node that goes on to report a release which no factory serves keeps its
adapter. -/
theorem adapter_kept_on_unsupported_release : ∃ past run, History 1 .standard past run ∧
    stored past = [⟨"4.0", "Murmur3"⟩, ⟨"3.11.2", "Murmur3"⟩] ∧
    run.monitor.version = some (.release 4 0 0) ∧ run.monitor.counts.swaps = 1 := by
  have hmoves : (Run.idle (Node.fresh 1 .standard)).applyAll system
    (firstProbe (.ofTexts [("release_version", "4.0"), ("partitioner", "Murmur3")]) ++
      secondProbe (.ofTexts [("release_version", "3.11.2"), ("partitioner", "Murmur3")])) =
      some _ := rfl
  have hpast := execution_of_applyAll hmoves
  obtain ⟨hversion, -, -, hlength, hswaps, -⟩ := adapter_follows_reports hpast
  refine ⟨_, _, hpast, rfl, hversion.trans ?_, hswaps.trans (hlength.trans ?_)⟩
  · rfl
  · rfl

end Node

end NodeSidecar
