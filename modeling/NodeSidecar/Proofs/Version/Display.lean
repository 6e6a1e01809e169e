import NodeSidecar.Monitor.Update
import NodeSidecar.Proofs.Version.Spelling
/-!
# Version — what is shown of a version

A version that was read is shown in a spelling of its own, without blanks, leading
zeros and build metadata, and with three numbers. That text is read as the same
version, so versions are shown alike only if they are the same:
`display_is_canonical`.
-/

namespace NodeSidecar.Version

open Text (marked)
open Spelling

variable {c : Char} {v w : Version} {text : String}

/-- The spelling in which a version is shown. -/
def shown (v : Version) : Spelling where
  major := Text.decimal v.major
  minor := Text.decimal v.minor
  patch := some (Text.decimal v.patch)
  qualifier := v.qualifier.map String.toList
  build := none

theorem chars_shown (v : Version) : (shown v).chars = v.chars := by
  unfold Spelling.chars Version.chars
  cases h : v.qualifier <;> simp [shown, core, marked, h]

theorem version_shown (v : Version) : (shown v).version = v := by
  have hnumber (n : Nat) : Nat.ofDigitChars 10 (Text.decimal n) 0 = n := Text.digitsValue_decimal n
  cases v with
  | mk major minor patch qualifier => cases qualifier <;> simp [version, shown, hnumber]

/-! ## A version that was read is shown in a spelling -/

/-- A number of thirty-two bits is shown in digits that denote it. -/
theorem number_decimal {n : Nat} (h : n < 2 ^ 32) : Number (Text.decimal n) := by
  obtain ⟨hne, hdigits⟩ := Text.isDigits_iff.1 (Text.isDigits_decimal n)
  refine ⟨hne, fun c hc => isDigit_iff.1 (hdigits c hc), ?_⟩
  rwa [← Text.digitsValue_eq, Text.digitsValue_decimal]

theorem Spelling.Fits.shown {s : Spelling} (h : s.Fits) : (shown s.version).Fits where
  major := number_decimal h.major.small
  minor := number_decimal h.minor.small
  patch := by
    have hsmall : s.version.patch < 2 ^ 32 := by
      rcases hpatch : s.patch with - | digits
      · simp [version, hpatch]
      · simpa [version, hpatch] using (h.patch digits hpatch).small
    rintro cs ⟨⟩
    exact number_decimal hsmall
  qualifier := by
    have hback : s.version.qualifier.map String.toList = s.qualifier := by
      cases hq : s.qualifier <;> simp [version, hq]
    change ∀ cs ∈ s.version.qualifier.map String.toList, _
    rw [hback]
    exact h.qualifier
  build := by
    rintro cs ⟨⟩

/-! ## There is nothing blank in it -/

/-- The characters of qualifiers lie where no blank does. -/
theorem Spelling.QualifierChar.not_isBlank (h : QualifierChar c) : ¬ Text.isBlank c = true := by
  have hle {x y : Char} : x ≤ y ↔ x.toNat ≤ y.toNat := Iff.rfl
  have hrange : 45 ≤ c.toNat ∧ c.toNat ≤ 122 := by
    simp only [QualifierChar, hle, Char.reduceToNat] at h
    rcases h with h | h | h | rfl | rfl | rfl
    · omega
    · omega
    · omega
    · decide
    · decide
    · decide
  have hclear : ∀ r ∈ Text.blankRanges, r.2 < 45 ∨ 122 < r.1 := by decide
  rw [Text.isBlank, List.any_eq_true]
  rintro ⟨r, hr, hinside⟩
  have hr := hclear r hr
  simp only [Bool.and_eq_true, decide_eq_true_eq] at hinside
  omega

theorem Spelling.Number.qualifierChar {cs : List Char} (h : Number cs) (hc : c ∈ cs) :
    QualifierChar c :=
  .inr (.inr (.inl (h.digits c hc)))

/-- What is shown has no other characters than a qualifier may have. -/
theorem qualifierChar_of_mem_shown (h : (shown v).Fits) (hc : c ∈ (shown v).chars) :
    QualifierChar c := by
  have hpoint : QualifierChar '.' := by unfold QualifierChar; decide
  have hhyphen : QualifierChar '-' := by unfold QualifierChar; decide
  simp only [Spelling.chars, core, List.mem_append, List.mem_cons, Text.mem_marked_iff] at hc
  rcases hc with ((hmajor | rfl | hminor | ⟨p, hp, rfl | hpatch⟩) | ⟨q, hq, rfl | hqualifier⟩) |
    ⟨b, hb, -⟩
  · exact h.major.qualifierChar hmajor
  · exact hpoint
  · exact h.minor.qualifierChar hminor
  · exact hpoint
  · exact (h.patch p hp).qualifierChar hpatch
  · exact hhyphen
  · exact (h.qualifier q hq).2 c hqualifier
  · cases hb

/-! ## What is shown is read -/

/-- **What is shown of a version is read as that version.** -/
theorem parse_display (h : parse text = .ok v) : parse v.display = .ok v := by
  obtain ⟨s, hfits, -, rfl⟩ := parse_eq_ok_iff.1 h
  refine parse_eq_ok_iff.2 ⟨shown s.version, hfits.shown, ?_, version_shown _⟩
  rw [← Text.trim_eq_iff, display, String.toList_ofList, ← chars_shown]
  exact Text.trim_eq_self fun c hc => (qualifierChar_of_mem_shown hfits.shown hc).not_isBlank

/-- Versions that were read are shown alike only if they are the same. -/
theorem display_eq_iff {s t : String} (hv : parse s = .ok v) (hw : parse t = .ok w) :
    v.display = w.display ↔ v = w := by
  constructor
  · intro h
    have hback := parse_display hv
    rw [h, parse_display hw] at hback
    exact (Except.ok.inj hback).symm
  · rintro rfl
    rfl

/-- A catalog that does not serve a version names it as it is shown. -/
theorem fault_of_resolve {catalog : Catalog} {fault : Fault}
    (h : catalog.resolve v = .error fault) : fault = .unsupportedVersion v.display := by
  unfold Catalog.resolve at h
  split at h
  · cases h
  · exact (Except.error.inj h).symm

/-- A version that is served gets an adapter of its own, unless the one in use was
built for it. -/
theorem fitAdapter_of_resolve {m : Monitor} {factory : Factory} (hparse : parse text = .ok w)
    (hfactory : m.catalog.resolve w = .ok factory) :
    m.fitAdapter text = if m.version = some w then m else m.install w factory := by
  simp only [Monitor.fitAdapter, hparse, hfactory]

/-- **What is shown of a version stands for it.** The text of a version that was read
is read as that version, and two of them have one text only if they are the same.
So a version that no adapter serves is named in the fault by a text that stands for
it, and an adapter is exchanged for a version that is served just when the text that
is shown changes. -/
theorem display_is_canonical :
    (∀ text v, parse text = .ok v → parse v.display = .ok v) ∧
    (∀ s t v w, parse s = .ok v → parse t = .ok w → (v.display = w.display ↔ v = w)) ∧
    (∀ (catalog : Catalog) text v fault, parse text = .ok v →
      catalog.resolve v = .error fault →
        ∃ name, fault = .unsupportedVersion name ∧ parse name = .ok v) ∧
    ∀ (m : Monitor) s t v w factory, parse s = .ok v → parse t = .ok w → m.version = some v →
      m.catalog.resolve w = .ok factory →
        m.fitAdapter t = if w.display = v.display then m else m.install w factory := by
  refine ⟨fun text v h => parse_display h, fun s t v w hv hw => display_eq_iff hv hw,
    fun catalog text v fault hv hfault => ⟨_, fault_of_resolve hfault, parse_display hv⟩,
    fun m s t v w factory hv hw hversion hfactory => ?_⟩
  rw [fitAdapter_of_resolve hw hfactory, hversion]
  refine if_congr ?_ rfl rfl
  rw [display_eq_iff hw hv, Option.some.injEq, eq_comm]

/-- A candidate of 4.0 is spelled in two ways and shown in one, so its adapter stays;
it goes when 4.1 is reported. The catalog does not serve 3.11.4, and says so. -/
theorem candidate_shown_in_one_way :
    ∃ v w old : Version, ∃ m : Monitor,
      parse " 4.00-rc-1.2+b7 " = .ok v ∧ parse "4.0.0-rc-1.2" = .ok v ∧ parse "4.1" = .ok w ∧
      parse "3.11.4+b" = .ok old ∧ parse v.display = .ok v ∧ ¬ v.display = w.display ∧
      (∃ name, Catalog.standard.resolve old = .error (.unsupportedVersion name) ∧
        parse name = .ok old) ∧
      m.version = some v ∧ m.fitAdapter "4.0.0-rc-1.2" = m ∧
      m.fitAdapter "4.1" = m.install w Catalog.factory40 := by
  let v : Version := ⟨4, 0, 0, some "rc-1.2"⟩
  let w : Version := ⟨4, 1, 0, none⟩
  let old : Version := ⟨3, 11, 4, none⟩
  let m : Monitor := (Monitor.fresh 1 Catalog.standard).install v Catalog.factory40
  have hv : parse " 4.00-rc-1.2+b7 " = .ok v := rfl
  have hagain : parse "4.0.0-rc-1.2" = .ok v := rfl
  have hw : parse "4.1" = .ok w := rfl
  have hold : parse "3.11.4+b" = .ok old := rfl
  obtain ⟨hback, hinj, hnamed, hfits⟩ := display_is_canonical
  have hshown : ¬ v.display = w.display := by
    rw [hinj _ _ _ _ hv hw]
    decide
  obtain ⟨name, hname, hparse⟩ := hnamed Catalog.standard _ _ (.unsupportedVersion old.display)
    hold rfl
  have hstays := hfits m _ _ _ _ Catalog.factory40 hv hagain rfl rfl
  have hgoes := hfits m _ _ _ _ Catalog.factory40 hv hw rfl rfl
  rw [if_pos rfl] at hstays
  rw [if_neg fun h => hshown h.symm] at hgoes
  exact ⟨v, w, old, m, hv, hagain, hw, hold, hback _ _ hv, hshown,
    ⟨name, congrArg Except.error hname, hparse⟩, rfl, hstays, hgoes⟩

end NodeSidecar.Version
