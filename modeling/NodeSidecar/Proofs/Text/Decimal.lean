import Mathlib.Algebra.Group.Nat.Defs
import NodeSidecar.Text.Decimal
/-!
# Text — what digits denote

Runs of digits as numbers: a run denotes less than the power of ten that has as
many zeros as the run has digits, zeros in front add nothing, and a number that
was written in decimal is read back.
-/

namespace NodeSidecar.Text

variable {c : Char} {cs : List Char} {n top : Nat}

theorem isDigits_iff : isDigits cs = true ↔ cs ≠ [] ∧ ∀ c ∈ cs, c.isDigit = true := by
  simp [isDigits]

/-! ## What a run of digits denotes -/

/-- The value of a run is that of the standard library. -/
theorem digitsValue_eq (cs : List Char) : digitsValue cs = Nat.ofDigitChars 10 cs 0 := rfl

theorem digitsValue_cons (c : Char) (cs : List Char) :
    digitsValue (c :: cs) = 10 ^ cs.length * (c.toNat - 48) + digitsValue cs := by
  rw [digitsValue_eq, digitsValue_eq, Nat.ofDigitChars_cons,
    Nat.ofDigitChars_eq_ofDigitChars_zero, Nat.mul_zero, Nat.zero_add]
  rfl

theorem toNat_of_isDigit (h : c.isDigit = true) : 48 ≤ c.toNat ∧ c.toNat ≤ 57 :=
  Char.isDigit_iff_toNat.1 h

/-- **A run denotes less than the power of ten with as many zeros as it has
digits.** -/
theorem digitsValue_lt_pow (h : ∀ c ∈ cs, c.isDigit = true) :
    digitsValue cs < 10 ^ cs.length := by
  induction cs with
  | nil => simp [digitsValue]
  | cons c cs ih =>
    obtain ⟨hc, hcs⟩ := List.forall_mem_cons.1 h
    obtain ⟨-, hnine⟩ := toNat_of_isDigit hc
    have hrest := ih hcs
    have hdigit : 10 ^ cs.length * (c.toNat - 48) ≤ 10 ^ cs.length * 9 :=
      Nat.mul_le_mul_left _ (by omega)
    rw [digitsValue_cons, List.length_cons, Nat.pow_succ]
    omega

/-- A run whose first digit is not zero denotes at least the power of ten with as
many zeros as there are digits behind the first. -/
theorem pow_le_digitsValue (hdigit : c.isDigit = true) (hzero : c ≠ '0') :
    10 ^ cs.length ≤ digitsValue (c :: cs) := by
  obtain ⟨hlow, -⟩ := toNat_of_isDigit hdigit
  have hne : c.toNat ≠ 48 := fun h => hzero (Char.toNat_inj.1 h)
  have hone : 10 ^ cs.length * 1 ≤ 10 ^ cs.length * (c.toNat - 48) :=
    Nat.mul_le_mul_left _ (by omega)
  rw [digitsValue_cons]
  omega

/-- Zeros in front add nothing. -/
theorem digitsValue_dropWhile (cs : List Char) :
    digitsValue (cs.dropWhile (· = '0')) = digitsValue cs := by
  induction cs with
  | nil => rfl
  | cons c cs ih =>
    by_cases hc : c = '0'
    · rw [List.dropWhile_cons_of_pos (by simpa using hc), ih, digitsValue_cons, hc]
      simp
    · rw [List.dropWhile_cons_of_neg (by simpa using hc)]

/-! ## Reading and writing -/

theorem digits?_eq_some_iff : digits? top cs = some n ↔
    isDigits cs = true ∧ digitsValue cs = n ∧ n ≤ top := by
  unfold digits?
  split
  · rename_i h
    obtain ⟨hdigits, hle⟩ := by simpa using h
    constructor
    · rintro ⟨⟩
      exact ⟨hdigits, rfl, hle⟩
    · rintro ⟨-, rfl, -⟩
      rfl
  · rename_i h
    constructor
    · rintro ⟨⟩
    · rintro ⟨hdigits, rfl, hle⟩
      exact absurd (by simp [hdigits, hle]) h

theorem isDigits_decimal (n : Nat) : isDigits (decimal n) = true :=
  isDigits_iff.2 ⟨Nat.toDigits_ne_nil, fun _ hc =>
    Nat.isDigit_of_mem_toDigits (by decide) (by decide) hc⟩

/-- **What is written in decimal is read back.** -/
theorem digitsValue_decimal (n : Nat) : digitsValue (decimal n) = n :=
  Nat.ofDigitChars_ten_toDigits

end NodeSidecar.Text
