import Mathlib.Algebra.Group.Nat.Defs
import NodeSidecar.Management.Value
/-!
# Management — doubles of whole numbers

A whole number with no room in 64 bits and a sign is passed on as a double. It
is a long way from the largest double, so what comes out is always finite
(`isFinite_toFloat`), and as JSON it stays a number.
-/

namespace NodeSidecar.Management.Value

open Float.Model Float.Model.UnpackedFloat

/-- A float with its exponent a long way below the largest one. -/
def Moderate : UnpackedFloat → Prop
  | .zero _ => True
  | .finite _ _ e _ => e < 972
  | _ => False

/-! ## Rounding -/

theorem targetExponent_eq (t : Int) :
    Format.binary64.targetExponent t = max (t - 53) (-1074) := rfl

theorem mantissa_shiftRight_le (em : ExtendedMantissa) (k : Nat) :
    (em >>> k).mantissa ≤ em.mantissa := by
  induction k with
  | zero => exact Nat.le_refl _
  | succ k ih => exact Nat.le_trans (Nat.div_le_self _ 2) ih

theorem roundedMantissa_le (em : ExtendedMantissa) :
    em.roundedMantissa ≤ em.mantissa + 1 := by
  obtain ⟨m, r, s⟩ := em
  cases r <;> cases s <;>
    simp only [ExtendedMantissa.roundedMantissa, ExtendedMantissa.accuracy,
      Accuracy.roundToNearestEven] <;> omega

theorem mantissa_ofMantissaAndAccuracy (m : Nat) (a : Accuracy) :
    (ExtendedMantissa.ofMantissaAndAccuracy m a).mantissa = m := by
  cases a with
  | exact => rfl
  | inexact o => cases o <;> rfl

theorem log2_le {m b : Nat} (hm : m < 2 ^ b) : m.log2 ≤ b := by
  by_cases h0 : m = 0
  · simp [h0]
  · exact Nat.le_of_lt ((Nat.log2_lt h0).2 hm)

/-- A mantissa that is brought to the exponent of its format becomes no larger, and the
exponent grows by no more than the bits of the mantissa. -/
theorem shiftToTargetExponent_le {m b : Nat} (e : Int) (a : Accuracy) (hm : m < 2 ^ b) :
    (shiftToTargetExponent .binary64 m e a).1.mantissa ≤ m ∧
      (shiftToTargetExponent .binary64 m e a).2 ≤ max (e + b) (-1074) := by
  refine ⟨?_, ?_⟩
  · exact Nat.le_trans (mantissa_shiftRight_le _ _)
      (Nat.le_of_eq (mantissa_ofMantissaAndAccuracy m a))
  · have hlog := log2_le hm
    simp only [shiftToTargetExponent, shiftToExponent, targetExponent_eq, totalExponent]
    omega

theorem moderate_roundWithAccuracy {m : Nat} {e : Int} (s : Sign) (a : Accuracy)
    (hm : m < 2 ^ 116) (he : e ≤ 0) : Moderate (roundWithAccuracy .binary64 s m e a) := by
  have hfirst := shiftToTargetExponent_le e a hm
  unfold roundWithAccuracy
  generalize shiftToTargetExponent .binary64 m e a = first at hfirst ⊢
  obtain ⟨em, e₁⟩ := first
  obtain ⟨hmantissa, he₁⟩ : em.mantissa ≤ m ∧ e₁ ≤ max (e + (116 : Nat)) (-1074) := hfirst
  have hrounded : em.roundedMantissa < 2 ^ 117 := by
    have := roundedMantissa_le em
    omega
  have he₂ := (shiftToTargetExponent_le e₁ .exact hrounded).2
  dsimp only
  generalize shiftToTargetExponent .binary64 em.roundedMantissa e₁ .exact = last at he₂ ⊢
  by_cases hzero : last.1.mantissa = 0
  · rw [dif_pos hzero]
    trivial
  · rw [dif_neg hzero]
    change last.2 < 972
    omega

/-- A whole number of 64 bits is rounded to a float of moderate size. -/
theorem moderate_ofNat {n : Nat} (h : n < 2 ^ 64) :
    Moderate (UnpackedFloat.ofNat .binary64 n) := by
  unfold UnpackedFloat.ofNat UnpackedFloat.ofInt UnpackedFloat.normalize
  split
  · rename_i hlt
    have := Int.compare_eq_lt.1 hlt
    omega
  · trivial
  · rw [Int.toNat_natCast]
    unfold UnpackedFloat.round decreaseExponent
    simp only [targetExponent_eq, totalExponent]
    generalize hk : (0 - max ((n.log2 : Int) + 1 + 0 - 53) (-1074)).toNat = k
    have hshifted : n <<< k < 2 ^ 116 := by
      have hpow : 2 ^ k ≤ 2 ^ 52 := Nat.pow_le_pow_right (by decide) (by omega)
      rw [Nat.shiftLeft_eq]
      calc n * 2 ^ k < 2 ^ 64 * 2 ^ k := Nat.mul_lt_mul_of_pos_right h (Nat.two_pow_pos k)
        _ ≤ 2 ^ 64 * 2 ^ 52 := Nat.mul_le_mul_left _ hpow
        _ = 2 ^ 116 := by decide
    exact moderate_roundWithAccuracy _ _ hshifted (by omega)

/-! ## Packing -/

/-- The exponent of a packed float has a bit that is not set, unless the float is
too large or no number. -/
theorem unpackExponent_pack_ne {x : UnpackedFloat} (h : Moderate x) :
    unpackExponent (UnpackedFloat.pack .binary64 x) ≠ -1#11 := by
  unfold UnpackedFloat.pack
  split
  · cases h
  · cases h
  · simp [packedZero, unpackExponent_packComponents]
  · rename_i s m e hm
    have he : e < 972 := h
    have hbias : Format.binary64.exponentBias = 1023 := rfl
    simp only [hbias]
    split
    · rename_i hlarge
      simp only [Nat.reducePow] at hlarge
      omega
    · split
      · rw [unpackExponent_packComponents]
        intro hset
        have hnat := congrArg BitVec.toNat hset
        simp at hnat
        omega
      · rw [unpackExponent_packComponents]
        simp

theorem isFinite_pack {x : UnpackedFloat} (h : Moderate x) :
    isFinite (Float.Model.pack x).toBits = true := by
  have hne := unpackExponent_pack_ne h
  simp only [isFinite, bne_iff_ne]
  intro hset
  apply hne
  have hbits : UnpackedFloat.pack .binary64 x &&& exponentMask.toBitVec = exponentMask.toBitVec :=
    congrArg UInt64.toBitVec hset
  have hmask : ∀ i < 11, exponentMask.toBitVec.getLsbD (52 + i) = true := by decide
  generalize UnpackedFloat.pack .binary64 x = bits at hbits
  ext i hi
  have hbit := congrArg (fun b => b.getLsbD (52 + i)) hbits
  simp only [BitVec.getLsbD_and, hmask i hi, Bool.and_true] at hbit
  have hones : ∀ i (hi : i < 11), (-1#11)[i] = true := by decide
  rw [hones i hi]
  simp [unpackExponent, hbit]

/-- **The double of a whole number is finite.** -/
theorem isFinite_toFloat (n : UInt64) : isFinite n.toFloat.toBits = true :=
  isFinite_pack (moderate_ofNat n.toNat_lt)

end NodeSidecar.Management.Value
