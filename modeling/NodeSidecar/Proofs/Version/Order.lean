import NodeSidecar.Version.Order
import NodeSidecar.Version.Parse
/-!
# Version — the order is linear

The order of versions is linear: `linearly_ordered`. It is put together from the
orders of texts, of runs and of lists of runs, each of which turns round with
what it compares and is transitive. Two runs may be level without being equal,
and so may two lists of runs, so it takes the last step, which compares
qualifiers as texts, to tell all versions apart.
-/

namespace NodeSidecar.Version

open Std

section General

variable {α β : Type}

/-- A transitive order of keys orders whatever has the keys. -/
theorem transCmp_key (cmp : β → β → Ordering) [h : TransCmp cmp] (key : α → β) :
    TransCmp fun a b => cmp (key a) (key b) where
  eq_swap := h.eq_swap
  isLE_trans := h.isLE_trans

/-- An order of lists that goes by their first items, and then by the rest, is the
lexicographic one. -/
theorem eq_compareLex {f : List α → List α → Ordering} {cmp : α → α → Ordering}
    (hnil : f [] [] = .eq) (hshort : ∀ b bs, f [] (b :: bs) = .lt)
    (hlong : ∀ a as, f (a :: as) [] = .gt)
    (hcons : ∀ a as b bs, f (a :: as) (b :: bs) = (cmp a b).then (f as bs)) :
    f = List.compareLex cmp := by
  funext as bs
  induction as generalizing bs with
  | nil =>
    cases bs with
    | nil => exact hnil
    | cons b bs => exact hshort b bs
  | cons a as ih =>
    cases bs with
    | nil => exact hlong a as
    | cons b bs => rw [hcons, ih, List.compareLex_cons_cons]

end General

/-! ## Texts -/

theorem compareText_eq : compareText = List.compareLex (compareOn Char.toNat) :=
  eq_compareLex rfl (fun _ _ => rfl) (fun _ _ => rfl) fun _ _ _ _ => rfl

instance transCmp_compareText : TransCmp compareText :=
  compareText_eq ▸ inferInstance

instance lawfulEqCmp_compareOn_toNat : LawfulEqCmp (compareOn Char.toNat) where
  eq_of_compare h := Char.toNat_inj.1 (LawfulEqCmp.eq_of_compare h)

/-- Only equal texts are level. -/
instance lawfulEqCmp_compareText : LawfulEqCmp compareText :=
  compareText_eq ▸ inferInstance

/-! ## Runs -/

instance transCmp_compareDigits : TransCmp compareDigits :=
  have := transCmp_key compareText significant
  inferInstanceAs (TransCmp (compareLex (compareOn fun run => (significant run).length)
    fun a b => compareText (significant a) (significant b)))

/-- Runs are compared as numbers or as texts, or are of different kinds. -/
instance transCmp_compareRun : TransCmp compareRun where
  eq_swap {a b} := by
    unfold compareRun
    generalize a.all Char.isDigit = x, b.all Char.isDigit = y
    cases x <;> cases y
    case false.false => exact transCmp_compareText.eq_swap
    case true.true => exact transCmp_compareDigits.eq_swap
    case false.true | true.false => rfl
  isLE_trans {a b c} hab hbc := by
    unfold compareRun at *
    generalize a.all Char.isDigit = x, b.all Char.isDigit = y, c.all Char.isDigit = z at *
    -- A run that is not above a number is a number, and none above a text is one.
    cases x <;> cases y <;> cases z
    case false.false.false => exact transCmp_compareText.isLE_trans hab hbc
    case true.true.true => exact transCmp_compareDigits.isLE_trans hab hbc
    case true.true.false | true.false.false => rfl
    case false.true.true | false.true.false => cases hab
    case false.false.true | true.false.true => cases hbc

theorem compareRuns_eq : compareRuns = List.compareLex compareRun :=
  eq_compareLex rfl (fun _ _ => rfl) (fun _ _ => rfl) fun _ _ _ _ => rfl

instance transCmp_compareRuns : TransCmp compareRuns :=
  compareRuns_eq ▸ inferInstance

/-! ## Qualifiers -/

instance transCmp_compareQualifier : TransCmp compareQualifier :=
  have := transCmp_key compareRuns fun q : String => runs q.toList
  have := transCmp_key compareText String.toList
  inferInstanceAs (TransCmp (compareLex (fun a b : String => compareRuns (runs a.toList)
    (runs b.toList)) fun a b => compareText a.toList b.toList))

/-- Qualifiers whose runs are level are told apart as texts. -/
instance lawfulEqCmp_compareQualifier : LawfulEqCmp compareQualifier where
  compare_self := ReflCmp.compare_self
  eq_of_compare h := by
    obtain ⟨-, htext⟩ := Ordering.then_eq_eq.1 h
    exact String.toList_inj.1 (LawfulEqCmp.eq_of_compare htext)

instance transCmp_comparePreRelease : TransCmp comparePreRelease where
  eq_swap {a b} := by
    cases a <;> cases b
    case some.some => exact transCmp_compareQualifier.eq_swap
    case none.none | none.some | some.none => rfl
  isLE_trans {a b c} hab hbc := by
    cases a <;> cases b <;> cases c
    case some.some.some => exact transCmp_compareQualifier.isLE_trans hab hbc
    case none.none.none | some.none.none | some.some.none => rfl
    case none.some.none | none.some.some => cases hab
    case none.none.some | some.none.some => cases hbc

instance lawfulEqCmp_comparePreRelease : LawfulEqCmp comparePreRelease where
  compare_self := ReflCmp.compare_self
  eq_of_compare {a b} h := by
    cases a <;> cases b
    case none.none => rfl
    case some.some => exact congrArg some (lawfulEqCmp_compareQualifier.eq_of_compare h)
    case none.some | some.none => cases h

/-! ## Versions -/

instance transCmp_compareRelease : TransCmp compareRelease :=
  inferInstanceAs (TransCmp (compareLex (compareOn Version.major)
    (compareLex (compareOn Version.minor) (compareOn Version.patch))))

/-- Versions are level by their numbers just when they have the same three. -/
theorem compareRelease_eq_eq_iff {a b : Version} : compareRelease a b = .eq ↔
    a.major = b.major ∧ a.minor = b.minor ∧ a.patch = b.patch := by
  simp only [compareRelease, Ordering.then_eq_eq, LawfulEqCmp.compare_eq_iff_eq]

instance transCmp_order : TransCmp order :=
  have := transCmp_key comparePreRelease Version.qualifier
  inferInstanceAs (TransCmp (compareLex compareRelease
    fun a b => comparePreRelease a.qualifier b.qualifier))

instance lawfulEqCmp_order : LawfulEqCmp order where
  compare_self := ReflCmp.compare_self
  eq_of_compare {a b} h := by
    obtain ⟨hrelease, hqualifier⟩ := Ordering.then_eq_eq.1 h
    obtain ⟨hmajor, hminor, hpatch⟩ := compareRelease_eq_eq_iff.1 hrelease
    cases a
    cases b
    simp only [Version.mk.injEq]
    exact ⟨hmajor, hminor, hpatch, LawfulEqCmp.eq_of_compare hqualifier⟩

/-- The three numbers decide where they differ. -/
theorem order_of_compareRelease_ne {a b : Version} (h : compareRelease a b ≠ .eq) :
    order a b = compareRelease a b := by
  unfold order
  cases hrelease : compareRelease a b with
  | eq => exact absurd hrelease h
  | lt => rfl
  | gt => rfl

/-- **Versions are linearly ordered.** The order turns round with the versions; it
is transitive, also where it is strict; only equal versions are level, so that
`rc1` and `rc01` are not; any two versions can be compared; and versions whose
three numbers differ are ordered as these are. -/
theorem linearly_ordered (a b c : Version) :
    order a b = (order b a).swap ∧
    ((order a b).isLE → (order b c).isLE → (order a c).isLE) ∧
    (∀ o, order a b = o → order b c = o → order a c = o) ∧
    (order a b = .eq ↔ a = b) ∧
    order? a b = some (order a b) ∧
    (compareRelease a b ≠ .eq → order a b = compareRelease a b) := by
  refine ⟨OrientedCmp.eq_swap, TransCmp.isLE_trans, fun o hab hbc => ?_,
    LawfulEqCmp.compare_eq_iff_eq, rfl, order_of_compareRelease_ne⟩
  cases o with
  | lt => exact TransCmp.lt_trans hab hbc
  | eq => exact TransCmp.eq_trans hab hbc
  | gt => exact TransCmp.gt_trans hab hbc

/-- Candidates for a release come in order: `rc01` before `rc1`, which is the same
number, and `rc1` before `rc10`. -/
theorem candidates_in_order : ∃ a b c d : Version,
    parse "4.0-rc01" = .ok a ∧ parse "4.0-rc1" = .ok b ∧ parse " 4.0.0-rc10+b7" = .ok c ∧
    parse "4.0.1-alpha" = .ok d ∧ order a b = .lt ∧ order b c = .lt ∧ order a c = .lt ∧
    order c a = .gt ∧ a ≠ b ∧ order c d = .lt := by
  let a : Version := ⟨4, 0, 0, some "rc01"⟩
  let b : Version := ⟨4, 0, 0, some "rc1"⟩
  let c : Version := ⟨4, 0, 0, some "rc10"⟩
  let d : Version := ⟨4, 0, 1, some "alpha"⟩
  have hab : order a b = .lt := by decide
  have hbc : order b c = .lt := by decide
  have hcd : compareRelease c d = .lt := by decide
  obtain ⟨-, -, htrans, heq, -, -⟩ := linearly_ordered a b c
  obtain ⟨hswap, -⟩ := linearly_ordered c a d
  obtain ⟨-, -, -, -, -, hnumbers⟩ := linearly_ordered c d a
  have hac : order a c = .lt := htrans .lt hab hbc
  have hca : order c a = .gt := by
    rw [hswap, hac]
    rfl
  have hne : a ≠ b := fun h => by cases hab.symm.trans (heq.2 h)
  refine ⟨a, b, c, d, rfl, rfl, rfl, rfl, hab, hbc, hac, hca, hne, ?_⟩
  exact (hnumbers (by simp [hcd])).trans hcd

end NodeSidecar.Version
