import Mathlib.Algebra.Group.Int.Defs
import QuerySets.Proofs.Decimal.Dyadic

/-!
Whole numbers of 64 bits are floats once they are rounded: their exponents stay far below
that of the infinities, whatever the rounding does.
-/

namespace QuerySets.Decimal

open Float.Model
open Float.Model.UnpackedFloat

theorem mantissa_shiftRight_le (em : ExtendedMantissa) (k : Nat) :
    (em >>> k).mantissa ≤ em.mantissa := by
  induction k with
  | zero => exact Nat.le_refl _
  | succ k ih =>
    have hstep : (em >>> (k + 1)).mantissa = (em >>> k).mantissa / 2 := rfl
    rw [hstep]
    exact Nat.le_trans (Nat.div_le_self _ _) ih

theorem roundedMantissa_le (em : ExtendedMantissa) : em.roundedMantissa ≤ em.mantissa + 1 := by
  obtain ⟨m, r, s⟩ := em
  cases r <;> cases s
  · exact Nat.le_succ m
  · exact Nat.le_succ m
  · change m + m % 2 ≤ m + 1
    omega
  · exact Nat.le_refl _

/-- Shifting a mantissa of few digits leads to a small exponent. -/
theorem shiftToTargetExponent_le {m k : Nat} {e : Int} (h : m < 2 ^ (k + 1)) (he : e ≤ k) :
    (shiftToTargetExponent Format.binary64 m e .exact).2 ≤ 2 * k + 1 ∧
      (shiftToTargetExponent Format.binary64 m e .exact).1.mantissa ≤ m := by
  have hlog : m.log2 ≤ k := by
    by_cases hzero : m = 0
    · simp [hzero]
    · exact Nat.le_of_lt_succ ((Nat.log2_lt hzero).mpr h)
  refine ⟨?_, mantissa_shiftRight_le _ _⟩
  unfold shiftToTargetExponent shiftToExponent Format.targetExponent totalExponent
    Format.mantissaBits Format.minExponent
  dsimp only
  omega

/-- A float whose exponent is not the greatest one is finite. -/
theorem isSome_ofFloat? {x : Float}
    (h : @unpackExponent Format.binary64 x.toModel.toBits.toBitVec ≠ -1#11) :
    (Dyadic.ofFloat? x).isSome = true := by
  have hexponent : x.toBits.toNat / Dyadic.hiddenBit % 2048 ≠ 2047 := by
    intro heq
    refine h (BitVec.eq_of_toNat_eq ?_)
    rw [Dyadic.toNat_unpackExponent]
    exact heq
  simp only [Dyadic.ofFloat?, if_neg hexponent]
  split <;> rfl

theorem isSome_ofFloat?_zero (s : Sign) :
    (Dyadic.ofFloat? (.ofModel (.pack (.zero s)))).isSome := by
  cases s <;> decide +kernel

theorem isSome_ofFloat?_finite {s : Sign} {m : Nat} {e : Int} (hm : 0 < m) (he : e ≤ 900) :
    (Dyadic.ofFloat? (.ofModel (.pack (.finite s m e hm)))).isSome := by
  refine isSome_ofFloat? ?_
  have hbiased : (e + Format.binary64.exponentBias + 52).toNat < 2 ^ 11 - 1 := by
    simp only [Format.exponentBias]
    omega
  change unpackExponent (UnpackedFloat.pack Format.binary64 (.finite s m e hm)) ≠ -1#11
  dsimp only [UnpackedFloat.pack]
  rw [if_neg (by omega)]
  split
  · rw [unpackExponent_packComponents]
    intro heq
    have hnat := congrArg BitVec.toNat heq
    rw [BitVec.toNat_ofNat] at hnat
    simp at hnat
    omega
  · rw [unpackExponent_packComponents]
    decide

/-- Rounding a mantissa of few digits does not lead to an infinity. -/
theorem isSome_ofFloat?_round {s : Sign} {m : Nat} {e : Int} (h : m < 2 ^ 118) (he : e ≤ 117) :
    (Dyadic.ofFloat? (.ofModel (.pack
      (roundWithAccuracy Format.binary64 s m e .exact)))).isSome := by
  obtain ⟨hexponent, hmantissa⟩ := @shiftToTargetExponent_le m 117 e h he
  rw [roundWithAccuracy]
  generalize shiftToTargetExponent Format.binary64 m e .exact = first at *
  obtain ⟨em, e'⟩ := first
  have hrounded := roundedMantissa_le em
  have hsmall : em.roundedMantissa < 2 ^ 236 := by
    dsimp only at hmantissa
    omega
  obtain ⟨hexponent', -⟩ := @shiftToTargetExponent_le em.roundedMantissa 235 e' hsmall (by omega)
  dsimp only
  by_cases hzero :
      (shiftToTargetExponent Format.binary64 em.roundedMantissa e' .exact).1.mantissa = 0
  · rw [dif_pos hzero]
    exact isSome_ofFloat?_zero s
  · rw [dif_neg hzero]
    exact isSome_ofFloat?_finite _ (by omega)

theorem isSome_ofFloat?_ofNat {n : Nat} (h : 2 ^ 53 ≤ n) (h' : n < 2 ^ 64) :
    (Dyadic.ofFloat? (Float.ofNat n)).isSome := by
  have hslow : ¬ (n < 2 ^ 53 ∧ 0 ≤ 22) := by omega
  have hne : n ≠ 0 := by omega
  have hfloat : Float.ofNat n = .ofModel (.pack (roundWithAccuracy Format.binary64 .positive
      (n <<< Format.binary64.mantissaBits * 10 ^ (0 : Int).toNat)
      (-Format.binary64.mantissaBits + 0) .exact)) := by
    change Float.ofScientific n false 0 = _
    rw [Float.ofScientific, dif_neg hslow]
    change Float.ofModel (.pack (UnpackedFloat.ofScientific Format.binary64 n 0)) = _
    rw [UnpackedFloat.ofScientific, dif_neg hne, if_neg (by decide), if_neg, if_pos (by decide)]
    · rfl
    · have hpow : (0 : Int) ≤ 2 ^ Format.binary64.exponentBits := by decide
      omega
  rw [hfloat]
  refine isSome_ofFloat?_round ?_ (by decide)
  rw [Nat.shiftLeft_eq]
  have hbits : Format.binary64.mantissaBits = 53 := rfl
  have hone : 10 ^ (0 : Int).toNat = 1 := rfl
  rw [hbits, hone]
  omega

/-- Whole numbers that have 64 bits but not with a sign become finite floats. -/
theorem isSome_ofFloat?_ofInt {n : Int} (h : 2 ^ 63 ≤ n) (h' : n < 2 ^ 64) :
    (Dyadic.ofFloat? (Float.ofInt n)).isSome := by
  obtain ⟨m, rfl⟩ := Int.eq_ofNat_of_zero_le (by omega : 0 ≤ n)
  exact @isSome_ofFloat?_ofNat m (by omega) (by omega)

end QuerySets.Decimal
