import Mathlib.Data.List.Nodup
import NodeSidecar.Catalog
import NodeSidecar.Proofs.Version.Order
/-!
# Catalog — which factory serves a release

Factories make a catalog just when there is one and no two of their minimums have
the same three numbers; the catalog holds them from the lowest minimum to the
highest (`ofFactories_eq_ok_iff`). There is one such order only, so it does not
matter in which they were added. The last factory whose minimum is not above a
release is then the one with the highest such minimum (`resolve_eq_ok_iff`).
-/

namespace NodeSidecar

namespace Version

variable {a b c : Version}

/-- The three numbers of a version. -/
def numbers (v : Version) : Nat × Nat × Nat :=
  (v.major, v.minor, v.patch)

/-- By their three numbers `a` is not above `b`. Qualifiers play no part. -/
def NotAbove (a b : Version) : Prop :=
  a.major < b.major ∨ a.major = b.major ∧
    (a.minor < b.minor ∨ a.minor = b.minor ∧ a.patch ≤ b.patch)

instance : Decidable (NotAbove a b) :=
  inferInstanceAs (Decidable (_ ∨ _))

/-- **The order of releases** compares the three numbers, the major one first. -/
theorem isLE_compareRelease_iff : (compareRelease a b).isLE = true ↔ a.NotAbove b := by
  simp only [compareRelease, Ordering.isLE_then_iff_or, Nat.compare_eq_lt, Nat.compare_eq_eq,
    Nat.isLE_compare, NotAbove]

theorem isEq_compareRelease_iff : (compareRelease a b).isEq = true ↔ a.numbers = b.numbers := by
  simp only [Ordering.isEq_iff_eq_eq, compareRelease_eq_eq_iff, numbers, Prod.mk.injEq]

theorem NotAbove.refl (a : Version) : a.NotAbove a :=
  .inr ⟨rfl, .inr ⟨rfl, Nat.le_refl _⟩⟩

theorem NotAbove.trans (hab : a.NotAbove b) (hbc : b.NotAbove c) : a.NotAbove c := by
  unfold NotAbove at *
  omega

theorem NotAbove.total (a b : Version) : a.NotAbove b ∨ b.NotAbove a := by
  unfold NotAbove
  omega

theorem NotAbove.antisymm (hab : a.NotAbove b) (hba : b.NotAbove a) : a.numbers = b.numbers := by
  simp only [numbers, Prod.mk.injEq]
  unfold NotAbove at *
  omega

theorem NotAbove.of_numbers (h : a.numbers = b.numbers) : a.NotAbove b := by
  simp only [numbers, Prod.mk.injEq] at h
  unfold NotAbove
  omega

end Version

namespace Catalog

variable {factories others : List Factory} {c : Catalog} {v w : Version} {f g : Factory}

/-! ## Sorting -/

/-- The factories go from the lowest minimum to the highest. -/
def Ascending (factories : List Factory) : Prop :=
  factories.Pairwise fun f g => f.minimum.NotAbove g.minimum

/-- No two minimums have the same three numbers. -/
def Distinct (factories : List Factory) : Prop :=
  (factories.map (·.minimum.numbers)).Nodup

theorem ascending_sortFactories (factories : List Factory) :
    Ascending (sortFactories factories) := by
  refine (List.pairwise_mergeSort (fun f g h hfg hgh => ?_) (fun f g => ?_) factories).imp
    Version.isLE_compareRelease_iff.1
  · rw [Version.isLE_compareRelease_iff] at *
    exact hfg.trans hgh
  · rw [Bool.or_eq_true, Version.isLE_compareRelease_iff, Version.isLE_compareRelease_iff]
    exact Version.NotAbove.total _ _

theorem sortFactories_perm (factories : List Factory) : (sortFactories factories).Perm factories :=
  List.mergeSort_perm factories _

theorem Distinct.perm (h : Distinct factories) (hperm : factories.Perm others) :
    Distinct others :=
  (hperm.map _).nodup_iff.1 h

/-- Of factories with distinct minimums, two that are not above each other are one. -/
theorem Distinct.eq (h : Distinct factories) (hf : f ∈ factories) (hg : g ∈ factories)
    (hfg : f.minimum.NotAbove g.minimum) (hgf : g.minimum.NotAbove f.minimum) : f = g :=
  List.inj_on_of_nodup_map h hf hg (hfg.antisymm hgf)

/-- **Factories with distinct minimums ascend in one order only.** -/
theorem Ascending.eq_of_perm (h : Ascending factories) (h' : Ascending others)
    (hdistinct : Distinct factories) (hperm : factories.Perm others) : factories = others :=
  List.Perm.eq_of_pairwise
    (fun _ _ hf hg hfg hgf => hdistinct.eq hf (hperm.mem_iff.2 hg) hfg hgf) h h' hperm

/-- In ascending order factories that share a minimum are neighbours. -/
theorem sharedMinimum?_eq_none_iff (h : Ascending factories) :
    sharedMinimum? factories = none ↔ Distinct factories := by
  induction factories with
  | nil => simp [sharedMinimum?, Distinct]
  | cons f rest ih =>
    cases rest with
    | nil => simp [sharedMinimum?, Distinct]
    | cons g rest =>
      obtain ⟨hf, hrest⟩ := List.pairwise_cons.1 h
      rw [sharedMinimum?]
      split
      · rename_i hshared
        rw [Version.isEq_compareRelease_iff] at hshared
        exact iff_of_false nofun fun hno => by simp [Distinct, hshared] at hno
      · rename_i hne
        rw [Version.isEq_compareRelease_iff] at hne
        have hfresh : f.minimum.numbers ∉ (g :: rest).map (·.minimum.numbers) := by
          intro hmem
          obtain ⟨x, hx, hnumbers⟩ := List.mem_map.1 hmem
          -- What has the numbers of `f` is not above `f`, so neither is `g`, which is not above it.
          have hgx : g.minimum.NotAbove x.minimum := by
            rcases List.mem_cons.1 hx with rfl | hx
            · exact .refl _
            · exact (List.pairwise_cons.1 hrest).1 x hx
          exact hne ((hf g List.mem_cons_self).antisymm (hgx.trans (.of_numbers hnumbers)))
        have hcons : Distinct (f :: g :: rest) ↔ Distinct (g :: rest) :=
          List.nodup_cons.trans (and_iff_right hfresh)
        rw [ih hrest, hcons]

/-! ## Making a catalog -/

/-- **Factories make a catalog** just when there is one and their minimums are
distinct; it holds them in ascending order. -/
theorem ofFactories_eq_ok_iff : ofFactories factories = .ok c ↔
    (factories ≠ [] ∧ Distinct factories) ∧ c.factories.Perm factories ∧ Ascending c.factories := by
  have hascending := ascending_sortFactories factories
  have hperm := sortFactories_perm factories
  have hdistinct : Distinct (sortFactories factories) ↔ Distinct factories :=
    ⟨fun h => h.perm hperm, fun h => h.perm hperm.symm⟩
  unfold ofFactories
  split
  · rename_i hempty
    exact iff_of_false nofun fun h => h.1.1 (List.isEmpty_iff.1 hempty)
  · rename_i hempty
    have hne : factories ≠ [] := fun h => hempty (List.isEmpty_iff.2 h)
    dsimp only
    split
    · rename_i f g hshared
      refine iff_of_false nofun fun h => ?_
      rw [(sharedMinimum?_eq_none_iff hascending).2 (hdistinct.2 h.1.2)] at hshared
      cases hshared
    · rename_i hnone
      have hno : Distinct (sortFactories factories) :=
        (sharedMinimum?_eq_none_iff hascending).1 hnone
      constructor
      · intro h
        obtain rfl := Except.ok.inj h
        exact ⟨⟨hne, hdistinct.1 hno⟩, hperm, hascending⟩
      · rintro ⟨-, hperm', hascending'⟩
        obtain ⟨sorted⟩ := c
        rw [hascending.eq_of_perm hascending' hno (hperm.trans hperm'.symm)]

theorem exists_ofFactories_iff :
    (∃ c, ofFactories factories = .ok c) ↔ factories ≠ [] ∧ Distinct factories := by
  constructor
  · rintro ⟨c, hc⟩
    exact (ofFactories_eq_ok_iff.1 hc).1
  · intro h
    exact ⟨⟨sortFactories factories⟩, ofFactories_eq_ok_iff.2
      ⟨h, sortFactories_perm factories, ascending_sortFactories factories⟩⟩

/-- Factories that make no catalog are a configuration that cannot be used. -/
theorem configuration_of_ofFactories {fault : Fault} (h : ofFactories factories = .error fault) :
    ∃ detail, fault = .configuration detail := by
  unfold ofFactories at h
  split at h
  · exact ⟨_, (Except.error.inj h).symm⟩
  · dsimp only at h
    split at h
    · exact ⟨_, (Except.error.inj h).symm⟩
    · cases h

/-- **The order in which factories are added does not matter.** -/
theorem ofFactories_perm (hperm : factories.Perm others) :
    ofFactories factories = .ok c ↔ ofFactories others = .ok c := by
  have hne : factories ≠ [] ↔ others ≠ [] := by
    rw [← List.length_pos_iff, ← List.length_pos_iff, hperm.length_eq]
  have hdistinct : Distinct factories ↔ Distinct others :=
    ⟨fun h => h.perm hperm, fun h => h.perm hperm.symm⟩
  have hholds : c.factories.Perm factories ↔ c.factories.Perm others :=
    ⟨fun h => h.trans hperm, fun h => h.trans hperm.symm⟩
  rw [ofFactories_eq_ok_iff, ofFactories_eq_ok_iff, hne, hdistinct, hholds]

/-! ## Serving a release -/

/-- **The factory `f` serves the release `v`**: it has the highest minimum of those
that are not above it. -/
structure Serves (factories : List Factory) (v : Version) (f : Factory) : Prop where
  mem : f ∈ factories
  notAbove : f.minimum.NotAbove v
  highest : ∀ g ∈ factories, g.minimum.NotAbove v → g.minimum.NotAbove f.minimum

/-- One factory at most serves a release. -/
theorem Serves.eq (h : Serves factories v f) (h' : Serves factories v g)
    (hdistinct : Distinct factories) : f = g :=
  hdistinct.eq h.mem h'.mem (h'.highest f h.mem h.notAbove) (h.highest g h'.mem h'.notAbove)

theorem Serves.perm (h : Serves factories v f) (hperm : factories.Perm others) :
    Serves others v f :=
  ⟨hperm.mem_iff.1 h.mem, h.notAbove, fun g hg => h.highest g (hperm.mem_iff.2 hg)⟩

/-- The last of ascending factories that is not above a release serves it. -/
theorem serves_of_resolve (hascending : Ascending c.factories) (h : c.resolve v = .ok f) :
    Serves c.factories v f := by
  unfold resolve at h
  split at h
  · rename_i f' hfind
    obtain rfl := Except.ok.inj h
    obtain ⟨hle, before, behind, hsplit, hbefore⟩ := List.find?_eq_some_iff_append.1 hfind
    have hmem {g : Factory} : g ∈ c.factories ↔ g ∈ before ++ f' :: behind := by
      rw [← hsplit, List.mem_reverse]
    have hbehind : ∀ g ∈ behind, g.minimum.NotAbove f'.minimum := by
      have hdescending := List.pairwise_reverse.2 hascending
      rw [hsplit] at hdescending
      exact (List.pairwise_cons.1 (List.pairwise_append.1 hdescending).2.1).1
    refine ⟨hmem.2 (by simp), Version.isLE_compareRelease_iff.1 hle, fun g hg hv => ?_⟩
    rcases List.mem_append.1 (hmem.1 hg) with hg | hg
    · have hno := hbefore g hg
      rw [Version.isLE_compareRelease_iff.2 hv] at hno
      cases hno
    · rcases List.mem_cons.1 hg with rfl | hg
      · exact .refl _
      · exact hbehind g hg
  · cases h

theorem resolve_eq_error_iff {fault : Fault} : c.resolve v = .error fault ↔
    fault = .unsupportedVersion v.display ∧ ∀ f ∈ c.factories, ¬ f.minimum.NotAbove v := by
  unfold resolve
  split
  · rename_i f hfind
    refine iff_of_false nofun fun h => h.2 f ?_ ?_
    · exact List.mem_reverse.1 (List.mem_of_find?_eq_some hfind)
    · have hle := List.find?_some hfind
      exact Version.isLE_compareRelease_iff.1 hle
  · rename_i hnone
    have hall : ∀ f ∈ c.factories, ¬ f.minimum.NotAbove v := fun f hf hv =>
      List.find?_eq_none.1 hnone f (List.mem_reverse.2 hf) (Version.isLE_compareRelease_iff.2 hv)
    rw [Except.error.injEq, eq_comm]
    exact (and_iff_left hall).symm

/-- **A catalog serves a release with the factory that has the highest minimum.** -/
theorem resolve_eq_ok_iff (hascending : Ascending c.factories) (hdistinct : Distinct c.factories) :
    c.resolve v = .ok f ↔ Serves c.factories v f := by
  refine ⟨serves_of_resolve hascending, fun h => ?_⟩
  rcases hresolve : c.resolve v with fault | g
  · exact absurd h.notAbove ((resolve_eq_error_iff.1 hresolve).2 f h.mem)
  · rw [(serves_of_resolve hascending hresolve).eq h hdistinct]

/-- **The factory with the highest minimum not above a release serves it.** Factories
make a catalog just when there is one and no two minimums have the same three
numbers, and in every order they make the same one. It serves a release with the one
factory whose minimum is the highest that is not above it by the three numbers, and
refuses it as unsupported just when every minimum is above it. A release that is not
below another one is served too, and not by a lower minimum. -/
theorem highest_minimum_serves (factories : List Factory) :
    ((∃ c, ofFactories factories = .ok c) ↔
      factories ≠ [] ∧ (factories.map (·.minimum.numbers)).Nodup) ∧
    (∀ fault, ofFactories factories = .error fault → ∃ detail, fault = .configuration detail) ∧
    (∀ others, factories.Perm others → ∀ c,
      ofFactories factories = .ok c ↔ ofFactories others = .ok c) ∧
    ∀ c, ofFactories factories = .ok c → ∀ v,
      (∀ f, c.resolve v = .ok f ↔ Serves factories v f) ∧
      (∀ f g, Serves factories v f → Serves factories v g → f = g) ∧
      (∀ fault, c.resolve v = .error fault ↔
        fault = .unsupportedVersion v.display ∧ ∀ f ∈ factories, ¬ f.minimum.NotAbove v) ∧
      ∀ w f, v.NotAbove w → c.resolve v = .ok f →
        ∃ g, c.resolve w = .ok g ∧ f.minimum.NotAbove g.minimum := by
  refine ⟨exists_ofFactories_iff, fun _ => configuration_of_ofFactories,
    fun others hperm c => ofFactories_perm hperm, fun c hc v => ?_⟩
  obtain ⟨⟨-, hdistinct⟩, hperm, hascending⟩ := ofFactories_eq_ok_iff.1 hc
  have hresolve {v : Version} {f : Factory} : c.resolve v = .ok f ↔ Serves factories v f := by
    rw [resolve_eq_ok_iff hascending (hdistinct.perm hperm.symm)]
    exact ⟨fun h => h.perm hperm, fun h => h.perm hperm.symm⟩
  refine ⟨fun f => hresolve, fun f g hf hg => hf.eq hg hdistinct, fun fault => ?_,
    fun w f hvw hf => ?_⟩
  · simp only [resolve_eq_error_iff, hperm.mem_iff]
  · have hserves := hresolve.1 hf
    have hw : f.minimum.NotAbove w := hserves.notAbove.trans hvw
    rcases hg : c.resolve w with fault | g
    · exact absurd hw ((resolve_eq_error_iff.1 hg).2 f (hperm.mem_iff.2 hserves.mem))
    · exact ⟨g, rfl, (hresolve.1 hg).highest f hserves.mem hw⟩

/-- A factory for 4.1, whose minimum is said with a qualifier. -/
def factory41 : Factory :=
  ⟨"cassandra-4.1", ⟨4, 1, 0, some "beta1"⟩⟩

/-- Added in the one order or the other, 4.0 and 4.1 share the releases out between
them: an alpha of 4.1 goes to the factory for 4.1, the last repair of 4.0 to that for
4.0, and 3.11 to none. -/
theorem two_factories_share_releases : ∃ c : Catalog,
    ofFactories [factory41, factory40] = .ok c ∧ ofFactories [factory40, factory41] = .ok c ∧
    c.resolve ⟨4, 1, 0, some "alpha1"⟩ = .ok factory41 ∧
    c.resolve (.release 4 0 99) = .ok factory40 ∧
    c.resolve (.release 3 11 4) = .error (.unsupportedVersion "3.11.4") ∧
    ∃ g, c.resolve (.release 5 0 2) = .ok g ∧ factory41.minimum.NotAbove g.minimum := by
  obtain ⟨hmake, -, hperm, hserve⟩ := highest_minimum_serves [factory41, factory40]
  obtain ⟨c, hc⟩ := hmake.2 (by decide)
  have h41 : c.resolve ⟨4, 1, 0, some "alpha1"⟩ = .ok factory41 :=
    ((hserve c hc _).1 _).2 ⟨by decide, by decide, by decide⟩
  refine ⟨c, hc, (hperm _ (List.Perm.swap _ _ _) c).1 hc, h41, ?_, ?_, ?_⟩
  · exact ((hserve c hc _).1 _).2 ⟨by decide, by decide, by decide⟩
  · exact ((hserve c hc _).2.2.1 _).2 ⟨rfl, by decide⟩
  · exact (hserve c hc _).2.2.2 _ _ (by decide) h41

end Catalog

end NodeSidecar
