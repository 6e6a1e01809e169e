import NodeSidecar.Proofs.Text.Cutting
import NodeSidecar.Proofs.Text.Decimal
import NodeSidecar.Version.Parse
/-!
# Version — how versions are spelled

A `Spelling` is a version text taken apart: two or three numbers, perhaps a
qualifier, perhaps build metadata. The texts that are read are those that some
spelling has when the blanks around it are taken off, and each is read as the
version that its numbers and its qualifier make: `exactly_spellings_are_read`.
-/

namespace NodeSidecar.Version

open Text (marked)

variable {c : Char} {cs : List Char} {v : Version}

/-- A version text in its parts. -/
structure Spelling where
  /-- The digits of the first number. -/
  major : List Char
  /-- The digits of the second number. -/
  minor : List Char
  /-- The digits of the third number, if there is one. -/
  patch : Option (List Char)
  /-- What is between a hyphen and the build metadata. -/
  qualifier : Option (List Char)
  /-- The build metadata. -/
  build : Option (List Char)

namespace Spelling

/-- Digits that denote a number of thirty-two bits; zeros may be in front. -/
structure Number (cs : List Char) : Prop where
  ne_nil : cs ≠ []
  digits : ∀ c ∈ cs, '0' ≤ c ∧ c ≤ '9'
  small : Nat.ofDigitChars 10 cs 0 < 2 ^ 32

/-- The characters of qualifiers. -/
def QualifierChar (c : Char) : Prop :=
  ('a' ≤ c ∧ c ≤ 'z') ∨ ('A' ≤ c ∧ c ≤ 'Z') ∨ ('0' ≤ c ∧ c ≤ '9') ∨ c = '.' ∨ c = '_' ∨ c = '-'

/-- Two or three numbers with points between them. -/
def core (s : Spelling) : List Char :=
  s.major ++ '.' :: (s.minor ++ marked '.' s.patch)

/-- The text: the numbers, a qualifier behind a hyphen, build metadata behind a
plus sign. -/
def chars (s : Spelling) : List Char :=
  s.core ++ marked '-' s.qualifier ++ marked '+' s.build

/-- The parts are what they may be; build metadata may be any text. -/
structure Fits (s : Spelling) : Prop where
  major : Number s.major
  minor : Number s.minor
  patch : ∀ cs ∈ s.patch, Number cs
  qualifier : ∀ cs ∈ s.qualifier, cs ≠ [] ∧ ∀ c ∈ cs, QualifierChar c
  build : ∀ cs ∈ s.build, cs ≠ []

/-- The version that the parts make. A third number that is not there is zero, and
build metadata is left out. -/
def version (s : Spelling) : Version where
  major := Nat.ofDigitChars 10 s.major 0
  minor := Nat.ofDigitChars 10 s.minor 0
  patch := (s.patch.map fun cs => Nat.ofDigitChars 10 cs 0).getD 0
  qualifier := s.qualifier.map String.ofList

end Spelling

open Spelling

/-! ## The parts -/

theorem isDigit_iff : c.isDigit = true ↔ '0' ≤ c ∧ c ≤ '9' := by
  simp [Char.isDigit, Char.le_def]

theorem isQualifierChar_iff : isQualifierChar c = true ↔ QualifierChar c := by
  unfold isQualifierChar QualifierChar Char.isAlphanum Char.isAlpha Char.isUpper Char.isLower
  simp only [isDigit_iff, Char.le_def, Bool.or_eq_true, Bool.and_eq_true, decide_eq_true_eq,
    ge_iff_le, or_assoc, or_left_comm]

theorem isQualifier_iff : isQualifier cs = true ↔ cs ≠ [] ∧ ∀ c ∈ cs, QualifierChar c := by
  simp [isQualifier, isQualifierChar_iff]

theorem component?_eq_some_iff {n : Nat} : component? cs = some n ↔
    Number cs ∧ Nat.ofDigitChars 10 cs 0 = n := by
  rw [component?, Text.digits?_eq_some_iff, Text.isDigits_iff]
  simp only [isDigit_iff, Text.digitsValue_eq]
  constructor
  · rintro ⟨⟨hne, hdigits⟩, rfl, hle⟩
    exact ⟨⟨hne, hdigits, Nat.lt_of_le_of_lt hle (by decide)⟩, rfl⟩
  · rintro ⟨⟨hne, hdigits, hsmall⟩, rfl⟩
    exact ⟨⟨hne, hdigits⟩, rfl, Nat.le_of_lt_succ hsmall⟩

/-- No mark is a digit. -/
theorem Spelling.Number.free (h : Number cs) (hc : c = '.' ∨ c = '-' ∨ c = '+') : c ∉ cs := by
  intro hmem
  have hdigit := h.digits c hmem
  rcases hc with rfl | rfl | rfl
  · exact absurd hdigit (by decide)
  · exact absurd hdigit (by decide)
  · exact absurd hdigit (by decide)

theorem Spelling.QualifierChar.ne_plus (h : QualifierChar c) : c ≠ '+' := by
  rintro rfl
  exact absurd h (by unfold QualifierChar; decide)

theorem Spelling.Fits.core_free {s : Spelling} (h : s.Fits) (hc : c = '-' ∨ c = '+') :
    c ∉ s.core := by
  have hpoint : c ≠ '.' := by
    rintro rfl
    simp at hc
  have hpatch : c ∉ marked '.' s.patch := by
    rw [Text.mem_marked_iff]
    rintro ⟨p, hp, rfl | hmem⟩
    · exact hpoint rfl
    · exact (h.patch p hp).free (.inr hc) hmem
  simp [core, h.major.free (.inr hc), h.minor.free (.inr hc), hpoint, hpatch]

/-- There is no plus sign in front of the build metadata. -/
theorem Spelling.Fits.plus_free {s : Spelling} (h : s.Fits) :
    '+' ∉ s.core ++ marked '-' s.qualifier := by
  rw [List.mem_append, Text.mem_marked_iff, not_or]
  refine ⟨h.core_free (.inr rfl), ?_⟩
  rintro ⟨q, hq, heq | hmem⟩
  · cases heq
  · exact ((h.qualifier q hq).2 _ hmem).ne_plus rfl

/-! ## Taking a text apart -/

/-- The build metadata goes, unless there is none behind the plus sign. -/
theorem withoutBuild_marked {head : List Char} (h : '+' ∉ head) (build : Option (List Char)) :
    withoutBuild (head ++ marked '+' build) = if build = some [] then none else some head := by
  rw [withoutBuild, Text.cutAt_marked h]
  rcases build with - | - | ⟨b, bs⟩
  · simp [marked]
  · rfl
  · rfl

/-- The qualifier is told from the core. -/
theorem withoutQualifier_marked {core : List Char} (h : '-' ∉ core)
    (qualifier : Option (List Char)) : withoutQualifier (core ++ marked '-' qualifier) =
      if ∀ cs ∈ qualifier, isQualifier cs = true then some (core, qualifier.map String.ofList)
      else none := by
  rw [withoutQualifier, Text.cutAt_marked h]
  cases qualifier with
  | none => simp [marked]
  | some q => simp

theorem pieces_core {major minor : List Char} {patch : Option (List Char)} (hmajor : '.' ∉ major)
    (hminor : '.' ∉ minor) (hpatch : ∀ cs ∈ patch, '.' ∉ cs) :
    Text.pieces '.' (major ++ '.' :: (minor ++ marked '.' patch)) =
      major :: minor :: patch.toList := by
  refine Text.pieces_eq_iff.2 ⟨by simp, ?_, ?_⟩
  · simpa [hmajor, hminor] using hpatch
  · cases patch <;> simp [marked, List.intercalate]

/-- **A core is two or three numbers.** -/
theorem core?_eq_some_iff {major minor patch : Nat} : core? cs = some (major, minor, patch) ↔
    ∃ a b c, Number a ∧ Number b ∧ (∀ cs ∈ c, Number cs) ∧
      cs = a ++ '.' :: (b ++ marked '.' c) ∧ Nat.ofDigitChars 10 a 0 = major ∧
      Nat.ofDigitChars 10 b 0 = minor ∧
      (c.map fun cs => Nat.ofDigitChars 10 cs 0).getD 0 = patch := by
  constructor
  · intro h
    have hcut : Text.CutInto '.' cs (Text.pieces '.' cs) := Text.pieces_eq_iff.1 rfl
    unfold core? at h
    split at h
    · rename_i a b hpieces
      rw [hpieces] at hcut
      simp only [Option.bind_eq_bind, Option.bind_eq_some_iff, component?_eq_some_iff] at h
      obtain ⟨-, ⟨ha, rfl⟩, -, ⟨hb, rfl⟩, ⟨⟩⟩ := h
      refine ⟨a, b, none, ha, hb, by simp, ?_, rfl, rfl, rfl⟩
      simpa [marked, List.intercalate] using hcut.joined.symm
    · rename_i a b c hpieces
      rw [hpieces] at hcut
      simp only [Option.bind_eq_bind, Option.bind_eq_some_iff, component?_eq_some_iff] at h
      obtain ⟨-, ⟨ha, rfl⟩, -, ⟨hb, rfl⟩, -, ⟨hc, rfl⟩, ⟨⟩⟩ := h
      refine ⟨a, b, some c, ha, hb, by simpa using hc, ?_, rfl, rfl, rfl⟩
      simpa [marked, List.intercalate] using hcut.joined.symm
    · cases h
  · rintro ⟨a, b, c, ha, hb, hc, rfl, rfl, rfl, rfl⟩
    have hpoint {cs : List Char} (h : Number cs) : '.' ∉ cs := h.free (.inl rfl)
    have hvalue {cs : List Char} (h : Number cs) :
        component? cs = some (Nat.ofDigitChars 10 cs 0) := component?_eq_some_iff.2 ⟨h, rfl⟩
    rw [core?, pieces_core (hpoint ha) (hpoint hb) fun cs hcs => hpoint (hc cs hcs)]
    cases c with
    | none => simp [hvalue ha, hvalue hb]
    | some c => simp [hvalue ha, hvalue hb, hvalue (hc c rfl)]

/-! ## Putting the parts together -/

/-- What is read of a text that is cut at its first plus sign, and in front of that at
its first hyphen. -/
theorem ofChars?_marked {core : List Char} {qualifier build : Option (List Char)}
    (hhyphen : '-' ∉ core) (hplus : '+' ∉ core ++ marked '-' qualifier) :
    ofChars? (core ++ marked '-' qualifier ++ marked '+' build) = some v ↔
      build ≠ some [] ∧ (∀ cs ∈ qualifier, isQualifier cs = true) ∧
        core? core = some (v.major, v.minor, v.patch) ∧
        qualifier.map String.ofList = v.qualifier := by
  obtain ⟨major, minor, patch, q⟩ := v
  rw [ofChars?, withoutBuild_marked hplus]
  by_cases hbuild : build = some []
  · simp [hbuild]
  rw [if_neg hbuild, and_iff_right hbuild]
  simp only [Option.bind_eq_bind, Option.bind_some, withoutQualifier_marked hhyphen]
  by_cases hqualifier : ∀ cs ∈ qualifier, isQualifier cs = true
  · rw [if_pos hqualifier, and_iff_right hqualifier]
    cases hcore : core? core with
    | none => simp [hcore]
    | some numbers => simp [hcore, Prod.ext_iff, and_assoc]
  · rw [if_neg hqualifier]
    simp only [Option.bind_none, reduceCtorEq, hqualifier, false_and]

/-- **A text without blanks around it is read just when it is a spelling.** -/
theorem ofChars?_eq_some_iff : ofChars? cs = some v ↔
    ∃ s : Spelling, s.Fits ∧ s.chars = cs ∧ s.version = v := by
  constructor
  · intro h
    obtain ⟨head, build, hplus, rfl⟩ := Text.exists_marked '+' cs
    obtain ⟨core, qualifier, hhyphen, rfl⟩ := Text.exists_marked '-' head
    obtain ⟨hbuild, hqualifier, hcore, hq⟩ := (ofChars?_marked hhyphen hplus).1 h
    obtain ⟨major, minor, patch, hmajor, hminor, hpatch, rfl, ha, hb, hc⟩ :=
      core?_eq_some_iff.1 hcore
    refine ⟨⟨major, minor, patch, qualifier, build⟩, ⟨hmajor, hminor, hpatch, fun cs hcs =>
      isQualifier_iff.1 (hqualifier cs hcs), ?_⟩, rfl, ?_⟩
    · rintro cs hcs rfl
      exact hbuild hcs
    · simp only [version, ha, hb, hc, hq]
  · rintro ⟨s, hfits, rfl, rfl⟩
    refine (ofChars?_marked (hfits.core_free (.inl rfl)) hfits.plus_free).2
      ⟨fun hempty => hfits.build [] hempty rfl, fun cs hcs =>
        isQualifier_iff.2 (hfits.qualifier cs hcs), ?_, rfl⟩
    exact core?_eq_some_iff.2 ⟨s.major, s.minor, s.patch, hfits.major, hfits.minor, hfits.patch,
      rfl, rfl, rfl, rfl⟩

theorem parse_eq_ok_iff {text : String} : parse text = .ok v ↔
    ∃ s : Spelling, s.Fits ∧ Text.TrimsTo text.toList s.chars ∧ s.version = v := by
  simp only [← Text.trim_eq_iff, @eq_comm _ (Text.trim _)]
  rw [← ofChars?_eq_some_iff, parse]
  cases ofChars? (Text.trim text.toList) <;> simp

/-- A text that is not read is quoted as it came. -/
theorem parse_eq_ok_or (text : String) :
    (∃ v, parse text = .ok v) ∨ parse text = .error (.malformedVersion text) := by
  rw [parse]
  cases ofChars? (Text.trim text.toList) with
  | none => exact .inr rfl
  | some v => exact .inl ⟨v, rfl⟩

/-- **Exactly the spellings are read.** A text is read as a version just when, without
the blanks around it, it is a spelling of that version; any other text is refused,
and quoted as it came. -/
theorem exactly_spellings_are_read (text : String) :
    (∀ v, parse text = .ok v ↔
      ∃ s : Spelling, s.Fits ∧ Text.TrimsTo text.toList s.chars ∧ s.version = v) ∧
    (parse text = .error (.malformedVersion text) ↔
      ¬ ∃ s : Spelling, s.Fits ∧ Text.TrimsTo text.toList s.chars) := by
  refine ⟨fun v => parse_eq_ok_iff, ?_⟩
  constructor
  · rintro herror ⟨s, hfits, htrims⟩
    have hok : parse text = .ok s.version := parse_eq_ok_iff.2 ⟨s, hfits, htrims, rfl⟩
    cases herror.symm.trans hok
  · intro hnone
    rcases parse_eq_ok_or text with ⟨v, hok⟩ | herror
    · obtain ⟨s, hfits, htrims, -⟩ := parse_eq_ok_iff.1 hok
      exact absurd ⟨s, hfits, htrims⟩ hnone
    · exact herror

example : parse " 4.00-rc-1.2+b-3+7\n" = .ok ⟨4, 0, 0, some "rc-1.2"⟩ := rfl

example : parse "4.0+b-3+" = .ok ⟨4, 0, 0, none⟩ := rfl

example : parse "4.0.0-+b" = .error (.malformedVersion "4.0.0-+b") := rfl

end NodeSidecar.Version
