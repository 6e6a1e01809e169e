import NodeSidecar.Proofs.Node.Adapters
/-!
# Node — releases that cannot be served

A probe that reports a malformed release, or one that no factory serves, leaves
the adapter alone, and the monitor may warn of the release. It remembers no
more than the last release it turned down. From one install of an adapter to
the next its warnings are therefore the releases that it turned down with
equal neighbours collapsed: a release is warned of when the one before it was
another one, be it for the first time or not.
-/

namespace NodeSidecar

/-! ## Collapsing equal neighbours -/

/-- **What stands in one row is kept once** when equal neighbours are
collapsed. -/
theorem count_destutter_of_row {α : Type} [DecidableEq α] [BEq α] [LawfulBEq α]
    {l pre post : List α} {a : α} {n : Nat}
    (hl : l = pre ++ List.replicate (n + 1) a ++ post) (hpre : a ∉ pre) (hpost : a ∉ post) :
    (l.destutter (· ≠ ·)).count a = 1 := by
  subst hl
  have hrow : ((pre ++ List.replicate (n + 1) a).destutter (· ≠ ·)).count a = 1 := by
    induction n with
    | zero =>
      have hlast : pre.getLast? ≠ some a := fun h => hpre (List.mem_of_getLast? h)
      have hnone : a ∉ pre.destutter (· ≠ ·) := fun h => hpre ((pre.destutter_sublist _).mem h)
      rw [List.replicate_one, destutter_concat, if_neg hlast, List.count_append,
        List.count_eq_zero_of_not_mem hnone, List.count_singleton_self]
    | succ n ih =>
      have hlast : (pre ++ List.replicate (n + 1) a).getLast? = some a := by
        rw [List.replicate_succ', ← List.append_assoc, List.getLast?_concat]
      rw [List.replicate_succ', ← List.append_assoc, destutter_concat, if_pos hlast]
      exact ih
  -- What comes after the row adds other elements only.
  induction post using List.reverseRecOn with
  | nil => simpa using hrow
  | append_singleton post b ih =>
    obtain ⟨hmem, hne⟩ : a ∉ post ∧ a ≠ b := by simpa using hpost
    rw [← List.append_assoc, destutter_concat]
    split
    · exact ih hmem
    · rw [List.count_append, ih hmem, List.count_singleton, if_neg (by simpa using hne.symm)]

/-! ## What a monitor has of releases that cannot be served -/

/-- The release that a warning turns down, and why. -/
def Warning.rejection? : Warning → Option (String × Fault)
  | .rejected release fault => some (release, fault)
  | .down _ => none

namespace Monitor

variable (m : Monitor)

/-- The releases that the monitor warned it cannot serve, and why, in the order
of the warnings. -/
def reported : List (String × Fault) :=
  m.warnings.reverse.filterMap Warning.rejection?

/-- What a monitor has of releases that cannot be served. -/
structure Refusals where
  /-- The one that was last turned down, since an adapter was installed. -/
  remembered : Option String
  /-- Those that it warned of. -/
  reported : List (String × Fault)

/-- What the monitor has of releases that cannot be served. -/
def refusals : Refusals :=
  ⟨m.rejected, m.reported⟩

/-- One more release is turned down; it is warned of unless it is the one that
is remembered. -/
def Refusals.add (r : Refusals) (x : String × Fault) : Refusals :=
  if r.remembered = some x.1 then r else ⟨some x.1, r.reported ++ [x]⟩

theorem refusals_eq_of_apart {m m' : Monitor} (h : m.apart = m'.apart) :
    m.refusals = m'.refusals := by
  have hrefusals : m.apart.refusals = m'.apart.refusals := by rw [h]
  exact hrefusals

@[simp] theorem refusals_endProbe : m.endProbe.refusals = m.refusals := rfl

@[simp] theorem refusals_enter (p : Phase) : (m.enter p).refusals = m.refusals := by
  unfold enter
  split <;> rfl

@[simp] theorem refusals_forget : m.forget.refusals = m.refusals := by
  rw [forget, refusals_enter]
  rfl

/-- That a node is down is another kind of warning. -/
@[simp] theorem refusals_markDown (reason : String) :
    (m.markDown reason).refusals = m.refusals := by
  rw [markDown, refusals_enter]
  split
  · simp [refusals, reported, warn, Warning.rejection?]
  · rfl

@[simp] theorem refusals_without (p : Node.Purpose) : (m.without p).refusals = m.refusals := by
  cases p with
  | probe => exact m.refusals_markDown _
  | session => rfl
  | settings => rfl

@[simp] theorem refusals_beginConnect : m.beginConnect.refusals = m.refusals := by
  unfold beginConnect
  split
  · exact m.lock.refusals_enter .connecting
  · rfl

@[simp] theorem refusals_accept (settings : NodeSettings) :
    (m.accept settings).refusals = (m.fitAdapter settings.releaseVersion).refusals := by
  rw [accept, refusals_enter]
  rfl

/-- **A release that is turned down** is taken in. -/
theorem refusals_reject (release : String) (fault : Fault) :
    (m.reject release fault).refusals = m.refusals.add (release, fault) := by
  by_cases h : m.rejected = some release
  · simp [reject, Refusals.add, refusals, h]
  · simp [reject, Refusals.add, refusals, h, reported, warn, Warning.rejection?]

end Monitor

namespace Node

open Monitor (Refusals)

variable {m m' : Monitor} {p : Progress Call Wait} {a : Option Answer} {w : Option Wait}
variable {id : Nat} {catalog : Catalog} {t : Moment}

/-! ## What cannot be served -/

/-- Why a release text cannot be served, if it cannot. -/
def unserved? (catalog : Catalog) (release : String) : Option Fault :=
  match Version.parse release with
  | .error fault => some fault
  | .ok version =>
    match catalog.resolve version with
    | .error fault => some fault
    | .ok _ => none

/-- The release that a probe reports in a move and that cannot be served, and
why. -/
def refuses (catalog : Catalog) (t : Moment) : Option (String × Fault) :=
  (stores t).bind fun settings =>
    (unserved? catalog settings.releaseVersion).map (settings.releaseVersion, ·)

/-- The releases that the probes of a history reported and that cannot be
served, in order. -/
def refused (catalog : Catalog) (past : List Moment) : List (String × Fault) :=
  past.filterMap (refuses catalog)

/-- An adapter is put to use in a move. -/
def installs (t : Moment) : Bool :=
  t.after.monitor.counts.swaps ≠ t.before.monitor.counts.swaps

theorem refuses_of_stores {settings : NodeSettings} (hs : stores t = some settings) :
    refuses catalog t =
      (unserved? catalog settings.releaseVersion).map (settings.releaseVersion, ·) := by
  rw [refuses, hs, Option.bind_some]

theorem unserved?_of_mem_refused {past : List Moment} {x : String × Fault}
    (hx : x ∈ refused catalog past) : unserved? catalog x.1 = some x.2 := by
  obtain ⟨t, -, ht⟩ := List.mem_filterMap.1 hx
  obtain ⟨settings, -, hmap⟩ := Option.bind_eq_some_iff.1 ht
  obtain ⟨fault, hfault, rfl⟩ := Option.map_eq_some_iff.1 hmap
  exact hfault

/-- A release is turned down for one reason. -/
theorem eq_of_mem_refused {past past' : List Moment} {x y : String × Fault}
    (hx : x ∈ refused catalog past) (hy : y ∈ refused catalog past') (h : x.1 = y.1) : x = y := by
  have hfault := unserved?_of_mem_refused hx
  rw [h, unserved?_of_mem_refused hy] at hfault
  exact Prod.ext h (Option.some.inj hfault).symm

theorem refused_concat (past : List Moment) (t : Moment) :
    refused catalog (past ++ [t]) = refused catalog past ++ (refuses catalog t).toList := by
  rw [refused, List.filterMap_append, ← refused]
  rcases h : refuses catalog t with - | x <;> simp [h]

/-- **A release that cannot be served** is turned down. -/
theorem Fitted.fitAdapter_of_unserved {versions : List Version} (h : Fitted catalog versions m)
    {release : String} {fault : Fault} (hu : unserved? catalog release = some fault) :
    m.fitAdapter release = m.reject release fault := by
  unfold Monitor.fitAdapter
  unfold unserved? at hu
  rw [h.same]
  rcases hparse : Version.parse release with parseFault | v
  · simp only [hparse, Option.some.injEq] at hu
    simp only [hu]
  · rcases hf : catalog.resolve v with resolveFault | f
    -- The version in use is served, so the monitor does not return early.
    · have hv : m.version ≠ some v := by
        intro hv
        obtain ⟨f, hok⟩ := h.resolve_version hv
        rw [hf] at hok
        cases hok
      simp only [hparse, hf, Option.some.injEq] at hu
      simp only [if_neg hv, hf, hu]
    · simp [hparse, hf] at hu

/-- A release that can be served is the one in use, or gets an adapter. -/
theorem fitAdapter_of_served {release : String} (hu : unserved? m.catalog release = none) :
    m.fitAdapter release = m ∨ ∃ v f, m.fitAdapter release = m.install v f := by
  unfold Monitor.fitAdapter
  unfold unserved? at hu
  rcases hparse : Version.parse release with fault | v
  · simp [hparse] at hu
  · rcases hf : m.catalog.resolve v with fault | f
    · simp [hparse, hf] at hu
    · by_cases hv : m.version = some v
      · exact .inl (by simp only [if_pos hv])
      · exact .inr ⟨v, f, by simp only [if_neg hv, hf]⟩

/-! ## What a move does -/

/-- **Only a probe that succeeds turns releases down.** -/
theorem Passage.refusals (h : Passage m p a m' w) : m'.refusals = m.refusals ∨
    ∃ settings, ¬ m.isClosed ∧ CompleteRow p a settings := by
  have hdiscard : (discard m).refusals = m.refusals :=
    Monitor.refusals_eq_of_apart (apart_discard m)
  cases h with
  | @accepted s r settings hopen hrow => exact .inr ⟨settings, hopen, s, r, rfl, rfl, hrow⟩
  | late => exact .inl (by simp [hdiscard])
  | connects => exact .inl (by simp [hdiscard])
  | @evicts s => exact .inl (Monitor.refusals_eq_of_apart (m.apart_abandon s))
  | @shuts s => exact .inl (Monitor.refusals_eq_of_apart (m.apart_abandon s))
  | @adopts q s => exact .inl (Monitor.refusals_eq_of_apart (m.apart_adopt s))
  | @unreachable q => exact .inl (m.unlock.refusals_without q)
  | rowless => exact .inl (m.refusals_markDown _)
  | failed => exact .inl (m.refusals_markDown _)
  | cutOff => exact .inl (m.refusals_markDown _)
  | heard => exact .inl m.refusals_forget
  | reportedDown => exact .inl m.refusals_forget
  | _ => exact .inl rfl

theorem Passes.refusals_of_not_stores (h : Passes t id p a) (hs : stores t = none) :
    t.after.monitor.refusals = t.before.monitor.refusals := by
  rcases h.passage.refusals with he | ⟨settings, hopen, hrow⟩
  · exact he
  · rw [h.stores_of_completeRow hopen hrow] at hs
    cases hs

theorem Passes.refusals_of_stores {settings : NodeSettings} (h : Passes t id p a)
    (hs : stores t = some settings) : t.after.monitor.refusals =
      (t.before.monitor.fitAdapter settings.releaseVersion).refusals := by
  rw [(h.accepts_of_stores hs).2, Monitor.refusals_endProbe, Monitor.refusals_accept]

theorem installs_of_outfit (h : t.after.monitor.outfit = t.before.monitor.outfit) :
    installs t = false := by
  have hswaps : t.after.monitor.counts.swaps = t.before.monitor.counts.swaps :=
    congrArg Monitor.Outfit.swaps h
  simp [installs, hswaps]

/-- **What a move does to what the monitor has of releases that cannot be
served.** -/
inductive Turning (catalog : Catalog) (t : Moment) : Prop
  /-- Nothing. -/
  | nothing : refuses catalog t = none → installs t = false →
      t.after.monitor.refusals = t.before.monitor.refusals → Turning catalog t
  /-- A release is turned down. -/
  | down (x : String × Fault) : refuses catalog t = some x → installs t = false →
      t.after.monitor.refusals = t.before.monitor.refusals.add x → Turning catalog t
  /-- An adapter is installed. -/
  | installed : refuses catalog t = none → installs t = true →
      t.after.monitor.refusals = ⟨none, t.before.monitor.reported⟩ → Turning catalog t

theorem Passes.turning {versions : List Version} (h : Passes t id p a)
    (hfit : Fitted catalog versions t.before.monitor) : Turning catalog t := by
  rcases hs : stores t with - | settings
  · exact .nothing (by simp [refuses, hs]) (installs_of_outfit (h.outfit_of_not_stores hs))
      (h.refusals_of_not_stores hs)
  · have hrefuses : refuses catalog t = _ := refuses_of_stores hs
    have houtfit := h.outfit_of_stores hs
    have hafter := h.refusals_of_stores hs
    rcases hu : unserved? catalog settings.releaseVersion with - | fault
    · rw [hu, Option.map_none] at hrefuses
      rcases fitAdapter_of_served (hfit.same.symm ▸ hu) with hsame | ⟨v, f, hinstall⟩
      · rw [hsame] at houtfit hafter
        exact .nothing hrefuses (installs_of_outfit houtfit) hafter
      · rw [hinstall] at houtfit hafter
        have hswaps : t.after.monitor.counts.swaps = t.before.monitor.counts.swaps + 1 :=
          congrArg Monitor.Outfit.swaps houtfit
        exact .installed hrefuses (by simp [installs, hswaps]) hafter
    · rw [hu, Option.map_some] at hrefuses
      rw [hfit.fitAdapter_of_unserved hu] at houtfit hafter
      rw [Monitor.outfit_reject] at houtfit
      rw [Monitor.refusals_reject] at hafter
      exact .down _ hrefuses (installs_of_outfit houtfit) hafter

/-- **Every move of a history turns a release down, installs an adapter, or does
neither.** -/
theorem turning {past : List Moment} (h : History id catalog past t.before)
    (hm : t.before.apply system t.move = some t.after) : Turning catalog t := by
  rcases quiet_or_passes (h.bounded (Run.bounded_idle _)) hm with hq | ⟨i, p, a, hp⟩
  · have hs : stores t = none := by simp [stores, hq.cause]
    exact .nothing (by simp [refuses, hs]) (installs_of_outfit (by rw [hq.monitor]))
      (by rw [hq.monitor])
  · exact hp.turning (following h).fitted

/-! ## From one install to the next -/

/-- What a monitor that remembered nothing has of releases that cannot be
served, when these were turned down since. -/
def Refusals.since (reported refused : List (String × Fault)) : Refusals :=
  ⟨refused.getLast?.map (·.1), reported ++ refused.destutter (· ≠ ·)⟩

theorem Refusals.add_since {reported refused : List (String × Fault)} {x : String × Fault}
    (hx : ∀ y ∈ refused, y.1 = x.1 → y = x) :
    (since reported refused).add x = since reported (refused ++ [x]) := by
  -- The text alone is remembered, but it stands for one reason.
  have hlast : refused.getLast?.map (·.1) = some x.1 ↔ refused.getLast? = some x := by
    constructor
    · intro h
      obtain ⟨y, hy, hyx⟩ := Option.map_eq_some_iff.1 h
      rw [hy, hx y (List.mem_of_getLast? hy) hyx]
    · intro h
      rw [h, Option.map_some]
  simp only [Monitor.Refusals.add, since, hlast, destutter_concat, List.getLast?_concat,
    Option.map_some]
  split
  · rename_i h
    rw [h, Option.map_some]
  · rw [List.append_assoc]

/-- A history that is at its beginning, or has just installed an adapter,
remembers no release. -/
theorem rejected_eq_none {past : List Moment} {run : Calls} (h : History id catalog past run)
    (hlast : ∀ t ∈ past.getLast?, installs t = true) : run.monitor.rejected = none := by
  cases h with
  | refl => rfl
  | @move past before _ c hx hm =>
    have hinstalls : installs ⟨before, c, run⟩ = true := hlast _ (by simp)
    cases turning (t := ⟨before, c, run⟩) hx hm with
    | nothing _ hnot => simp [hnot] at hinstalls
    | down _ _ hnot => simp [hnot] at hinstalls
    | installed _ _ hafter => exact congrArg Refusals.remembered hafter

/-- **From one install to the next** the monitor warns of the releases that it
turns down, but not of one that it turned down just before. -/
theorem refusals_since {earlier later : List Moment} {mid run : Calls}
    (h : History id catalog earlier mid) (hlater : Execution system mid later run)
    (hlast : ∀ t ∈ earlier.getLast?, installs t = true)
    (hnone : ∀ t ∈ later, installs t = false) :
    run.monitor.refusals = Refusals.since mid.monitor.reported (refused catalog later) := by
  induction hlater with
  | refl =>
    rw [Monitor.refusals, rejected_eq_none h hlast]
    simp [Refusals.since, refused]
  | @move past before next c hx hm ih =>
    have hbefore := ih fun t ht => hnone t (List.mem_append_left _ ht)
    have hnot : installs ⟨before, c, next⟩ = false := hnone _ (by simp)
    rw [refused_concat]
    cases turning (t := ⟨before, c, next⟩) (h.trans hx) hm with
    | nothing hr _ hafter =>
      rw [hr, Option.toList_none, List.append_nil, ← hbefore]
      exact hafter
    | down x hr _ hafter =>
      have hmem : x ∈ refused catalog [⟨before, c, next⟩] := by simp [refused, hr]
      rw [hr, Option.toList_some, ← Refusals.add_since fun y hy => eq_of_mem_refused hy hmem,
        ← hbefore]
      exact hafter
    | installed _ hinstalls => simp [hnot] at hinstalls

/-- A probe that reports what cannot be served adds it to the warnings, unless
it is what was turned down last. -/
theorem reported_of_refuses {earlier before after : List Moment} {mid run : Calls}
    {x : String × Fault} (h : History id catalog earlier mid)
    (hlater : Execution system mid (before ++ t :: after) run)
    (hlast : ∀ t ∈ earlier.getLast?, installs t = true)
    (hnone : ∀ t' ∈ before ++ t :: after, installs t' = false)
    (hx : refuses catalog t = some x) :
    t.after.monitor.reported = t.before.monitor.reported ++
      if (refused catalog before).getLast? = some x then [] else [x] := by
  obtain ⟨hbefore, hm, -⟩ := hlater.of_append_cons
  have hafter : Execution system mid (before ++ [t]) t.after := hbefore.move hm
  have hnone' (t' : Moment) (ht' : t' ∈ before ++ [t]) : installs t' = false := by
    refine hnone t' ?_
    rw [List.append_cons]
    exact List.mem_append_left _ ht'
  have h1 : t.before.monitor.reported = _ := congrArg Refusals.reported
    (refusals_since h hbefore hlast fun t' ht' => hnone' t' (List.mem_append_left _ ht'))
  have h2 : t.after.monitor.reported = _ := congrArg Refusals.reported
    (refusals_since h hafter hlast hnone')
  rw [h1, h2, refused_concat, hx, Option.toList_some]
  simp only [Refusals.since, destutter_concat]
  split <;> simp

/-- **A release that cannot be served is warned of, unless it is the one that
was turned down just before.** Take a history that is at its beginning or has
just installed an adapter, and let it go on until the next install. The
warnings it adds are the releases that it turned down with equal neighbours
collapsed. So the first probe to report a release warns of it, and one that
reports it again, with no other release turned down in between, does not. A
release that was turned down in one row of probes is warned of once, whatever
supported releases and failures came in between. -/
theorem rejections_follow_reports {earlier later : List Moment} {mid run : Calls}
    (h : History id catalog earlier mid) (hlater : Execution system mid later run)
    (hlast : ∀ t ∈ earlier.getLast?, installs t = true)
    (hnone : ∀ t ∈ later, installs t = false) :
    run.monitor.reported = mid.monitor.reported ++ (refused catalog later).destutter (· ≠ ·) ∧
    (∀ before t after x, later = before ++ t :: after → refuses catalog t = some x →
      t.after.monitor.reported = t.before.monitor.reported ++
        if (refused catalog before).getLast? = some x then [] else [x]) ∧
    (∀ t ∈ earlier ++ later, refuses catalog t = none →
      t.after.monitor.reported = t.before.monitor.reported) ∧
    ∀ before after x n, refused catalog later = before ++ List.replicate (n + 1) x ++ after →
      x ∉ before → x ∉ after → ((refused catalog later).destutter (· ≠ ·)).count x = 1 := by
  refine ⟨congrArg Refusals.reported (refusals_since h hlater hlast hnone), ?_, ?_, ?_⟩
  · rintro before t after x rfl hx
    exact reported_of_refuses h hlater hlast hnone hx
  · intro t ht hrefuses
    obtain ⟨before, hbefore, hm⟩ := (h.trans hlater).of_mem ht
    cases turning hbefore hm with
    | nothing _ _ hafter => exact congrArg Refusals.reported hafter
    | down x hx => simp [hrefuses] at hx
    | installed _ _ hafter => exact congrArg Refusals.reported hafter
  · intro before after x n hrow hbefore hafter
    exact count_destutter_of_row hrow hbefore hafter

/-- What a node says that runs a release. -/
def running (release : String) : Wire.Row :=
  .ofTexts [("release_version", release), ("partitioner", "Murmur3")]

/-- A release that is served, and then twice one that is not, with a failure in
between. -/
def downgraded : List (Move Call Answer) :=
  secondProbe (running "3.11.4") ++
    [.submit .probe, .start 3, .resume 3 (.rows (.error (.queryFailed 0 "overloaded"))),
      .submit .probe, .start 4, .resume 4 (.rows (.ok [running "3.11.4"]))]

/-- A node that goes back to an old release is reported once. -/
theorem downgrade_reported_once : ∃ (mid run : Calls) (earlier later : List Moment),
    History 1 .standard earlier mid ∧ Execution system mid later run ∧
    refused .standard later = List.replicate 2 ("3.11.4", .unsupportedVersion "3.11.4") ∧
    run.monitor.reported = [("3.11.4", .unsupportedVersion "3.11.4")] := by
  obtain ⟨mid, hmid, run, hrun, hlast, hnone, hrefused, hreported⟩ : ∃ mid,
      (Run.idle (Node.fresh 1 .standard)).applyAll system (firstProbe (running "4.0.0")) =
        some mid ∧ ∃ run, mid.applyAll system downgraded = some run ∧
      ((Run.idle (Node.fresh 1 .standard)).transitions system
        (firstProbe (running "4.0.0"))).getLast?.all installs = true ∧
      (mid.transitions system downgraded).any installs = false ∧
      refused .standard (mid.transitions system downgraded) =
        List.replicate 2 ("3.11.4", .unsupportedVersion "3.11.4") ∧
      mid.monitor.reported = [] :=
    ⟨_, rfl, _, rfl, rfl, rfl, rfl, rfl⟩
  have hpast := execution_of_applyAll hmid
  have hlater := execution_of_applyAll hrun
  obtain ⟨hadded, -⟩ := rejections_follow_reports hpast hlater
    (by simpa [Option.all_eq_true] using hlast) (by simpa using hnone)
  refine ⟨mid, run, _, _, hpast, hlater, hrefused, ?_⟩
  rw [hadded, hreported, hrefused]
  rfl

/-- A node that reports two releases in turn, neither of which is served. -/
def alternating : List (Move Call Answer) :=
  firstProbe (running "3.11.4") ++ secondProbe (running "garbage") ++
    [.submit .probe, .start 3, .resume 3 (.rows (.ok [running "3.11.4"]))]

/-- **A release is not always warned of once**, even if no adapter is installed
at all: one that comes back after another one is warned of again. -/
theorem alternating_releases_reported_again : ¬ ∀ (past : List Moment) (run : Calls),
    History 1 .standard past run → (∀ t ∈ past, installs t = false) →
    ∀ x ∈ refused .standard past, run.monitor.reported.count x = 1 := by
  intro hclaim
  obtain ⟨run, hrun, hnone, hrefused, hreported⟩ : ∃ run,
      (Run.idle (Node.fresh 1 .standard)).applyAll system alternating = some run ∧
      ((Run.idle (Node.fresh 1 .standard)).transitions system alternating).any installs = false ∧
      ("3.11.4", .unsupportedVersion "3.11.4") ∈ refused .standard
        ((Run.idle (Node.fresh 1 .standard)).transitions system alternating) ∧
      run.monitor.reported = [("3.11.4", .unsupportedVersion "3.11.4"),
        ("garbage", .malformedVersion "garbage"), ("3.11.4", .unsupportedVersion "3.11.4")] :=
    ⟨_, rfl, rfl, .head _, rfl⟩
  have hone := hclaim _ run (execution_of_applyAll hrun) (by simpa using hnone) _ hrefused
  rw [hreported] at hone
  simp at hone

end Node

end NodeSidecar
