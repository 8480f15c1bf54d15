import Mathlib.Algebra.Group.Nat.Defs
import QuerySets.Decimal.Dyadic

/-!
The order of finite floats is that of their exact values. All finite floats are whole
multiples of the least positive one, so that the exact values are kept as whole numbers.
-/

namespace QuerySets.Decimal

open Float.Model
open Float.Model.UnpackedFloat (Sign)

theorem lt_iff_compare (x y : Float) :
    x < y ↔ x.toModel.unpack.compare y.toModel.unpack = some .lt := by
  change Float.lt x y = true ↔ _
  rw [Float.lt, decide_eq_true_iff]
  exact beq_iff_eq

theorem compare_swap (a b : UnpackedFloat) : b.compare a = (a.compare b).map Ordering.swap := by
  have hsize : ∀ (e f : Int) (m n : Nat), (compare f e).then (compare n m) =
      ((compare e f).then (compare m n)).swap := by
    intro e f m n
    rw [Ordering.swap_then, Int.compare_swap, Nat.compare_swap]
  cases a with
  | notANumber => cases b <;> rfl
  | infinity s => cases b with
    | infinity t => cases s <;> cases t <;> rfl
    | notANumber | zero _ | finite _ _ _ _ => cases s <;> rfl
  | zero s => cases b with
    | infinity t | finite t _ _ _ => cases t <;> rfl
    | notANumber | zero _ => rfl
  | finite s m e _ => cases b with
    | infinity t => cases s <;> cases t <;> rfl
    | notANumber | zero _ => cases s <;> rfl
    | finite t n f _ =>
      cases s <;> cases t
      · exact congrArg (fun o => some (Ordering.swap o)) (hsize e f m n)
      · rfl
      · rfl
      · exact congrArg some (hsize e f m n)

namespace Dyadic

/-- The magnitude as a multiple of the least positive float. -/
def steps (d : Dyadic) : Nat := d.mantissa * 2 ^ (d.exponent - leastExponent).toNat

def sign (d : Dyadic) : Sign := if d.negative then .negative else .positive

/-- The exact value as a multiple of the least positive float. -/
def value (d : Dyadic) : Int := d.sign.apply d.steps

/-- The form in which floats keep their values: as many digits in the mantissa as there is
room for. -/
structure Canonical (d : Dyadic) : Prop where
  bounded : d.mantissa < 2 ^ 53
  least : leastExponent ≤ d.exponent
  full : d.exponent = leastExponent ∨ 2 ^ 52 ≤ d.mantissa

section Bits

theorem toNat_unpackMantissa (b : BitVec 64) :
    (@UnpackedFloat.unpackMantissa Format.binary64 b).toNat = b.toNat % 2 ^ 52 := by
  simp [UnpackedFloat.unpackMantissa]

theorem toNat_unpackExponent (b : BitVec 64) :
    (@UnpackedFloat.unpackExponent Format.binary64 b).toNat = b.toNat / 2 ^ 52 % 2048 := by
  simp [UnpackedFloat.unpackExponent, Nat.shiftRight_eq_div_pow]

theorem ofBitVec_unpackSign (b : BitVec 64) :
    Sign.ofBitVec (@UnpackedFloat.unpackSign Format.binary64 b) =
      if b.toNat.testBit 63 then .negative else .positive := by
  have hbit : (@UnpackedFloat.unpackSign Format.binary64 b).toNat =
      b.toNat / 2 ^ 63 % 2 := by
    unfold UnpackedFloat.unpackSign
    simp [Nat.shiftRight_eq_div_pow]
  have hzero : @UnpackedFloat.unpackSign Format.binary64 b = 0#1 ↔
      b.toNat.testBit 63 = false := by
    rw [← BitVec.toNat_inj, hbit, Nat.testBit_eq_decide_div_mod_eq]
    simp
  simp only [Sign.ofBitVec, hzero]
  cases b.toNat.testBit 63 <;> rfl

/-- The float taken apart, as the reading of its bits has it. -/
def unpacked (d : Dyadic) : UnpackedFloat :=
  if h : d.mantissa = 0 then .zero d.sign
  else .finite d.sign d.mantissa d.exponent (Nat.pos_of_ne_zero h)

theorem unpack_eq {x : Float} {d : Dyadic} (h : ofFloat? x = some d) :
    x.toModel.unpack = d.unpacked := by
  have hmantissa : (@UnpackedFloat.unpackMantissa Format.binary64
      x.toModel.toBits.toBitVec).toNat = x.toBits.toNat % hiddenBit :=
    toNat_unpackMantissa x.toModel.toBits.toBitVec
  have hexponent : (@UnpackedFloat.unpackExponent Format.binary64
      x.toModel.toBits.toBitVec).toNat = x.toBits.toNat / hiddenBit % 2048 :=
    toNat_unpackExponent x.toModel.toBits.toBitVec
  have hsign : Sign.ofBitVec (@UnpackedFloat.unpackSign Format.binary64
      x.toModel.toBits.toBitVec) =
        if x.toBits.toNat.testBit 63 then .negative else .positive :=
    ofBitVec_unpackSign x.toModel.toBits.toBitVec
  have hall : @UnpackedFloat.unpackExponent Format.binary64
      x.toModel.toBits.toBitVec = -1#11 ↔ x.toBits.toNat / hiddenBit % 2048 = 2047 := by
    rw [← BitVec.toNat_inj, hexponent]
    rfl
  have hnone : @UnpackedFloat.unpackExponent Format.binary64
      x.toModel.toBits.toBitVec = 0#11 ↔ x.toBits.toNat / hiddenBit % 2048 = 0 := by
    rw [← BitVec.toNat_inj, hexponent]
    rfl
  have hempty : @UnpackedFloat.unpackMantissa Format.binary64
      x.toModel.toBits.toBitVec = 0#52 ↔ x.toBits.toNat % hiddenBit = 0 := by
    rw [← BitVec.toNat_inj, hmantissa]
    rfl
  simp only [ofFloat?] at h
  unfold unpack UnpackedFloat.unpack
  dsimp only
  split at h
  next => cases h
  next hfinite =>
    rw [if_neg (mt hall.mp hfinite)]
    split at h
    next hsub =>
      cases h
      rw [if_pos (hnone.mpr hsub), unpacked]
      by_cases hzero : x.toBits.toNat % hiddenBit = 0
      · rw [dif_pos (hempty.mpr hzero), dif_pos hzero]
        exact congrArg UnpackedFloat.zero hsign
      · rw [dif_neg (mt hempty.mp hzero), dif_neg hzero, UnpackedFloat.finite.injEq]
        exact ⟨hsign, hmantissa, by rw [hexponent, hsub]; rfl⟩
    next hnormal =>
      cases h
      rw [if_neg (mt hnone.mp hnormal), unpacked, dif_neg (by simp only [hiddenBit]; omega),
        UnpackedFloat.finite.injEq]
      refine ⟨hsign, ?_, ?_⟩
      · have hlt : x.toBits.toNat % hiddenBit < 2 ^ 52 := Nat.mod_lt _ (by decide)
        rw [BitVec.toNat_append, hmantissa, ← Nat.shiftLeft_add_eq_or_of_lt hlt]
        rfl
      · rw [hexponent]
        simp only [leastExponent, Format.exponentBias]
        omega

theorem canonical_of_ofFloat? {x : Float} {d : Dyadic} (h : ofFloat? x = some d) :
    d.Canonical := by
  have hfraction : x.toBits.toNat % hiddenBit < hiddenBit := Nat.mod_lt _ (by decide)
  have hhidden : hiddenBit = 2 ^ 52 := by decide
  simp only [ofFloat?] at h
  split at h
  · cases h
  split at h
  · cases h
    exact ⟨by simp only; omega, Int.le_refl _, Or.inl rfl⟩
  · cases h
    refine ⟨by simp only; omega, ?_, Or.inr (by simp only; omega)⟩
    simp only
    omega

end Bits

section Order

theorem steps_eq_zero_iff (d : Dyadic) : d.steps = 0 ↔ d.mantissa = 0 := by
  rw [steps, Nat.mul_eq_zero]
  exact or_iff_left (Nat.ne_of_gt (Nat.two_pow_pos _))

theorem steps_lt_of_exponent_lt {d d' : Dyadic} (h : d.Canonical) (h' : d'.Canonical)
    (hlt : d.exponent < d'.exponent) : d.steps < d'.steps := by
  have hleast := h.least
  have hfull : 2 ^ 52 ≤ d'.mantissa := by
    rcases h'.full with heq | hle
    · omega
    · exact hle
  obtain ⟨k, hk⟩ := Nat.exists_eq_add_of_le (m := (d.exponent - leastExponent).toNat + 1)
    (n := (d'.exponent - leastExponent).toNat) (by omega)
  calc d.mantissa * 2 ^ (d.exponent - leastExponent).toNat
      < 2 ^ 53 * 2 ^ (d.exponent - leastExponent).toNat :=
        Nat.mul_lt_mul_of_pos_right h.bounded (Nat.two_pow_pos _)
    _ = 2 ^ 52 * 2 ^ ((d.exponent - leastExponent).toNat + 1) := by
        rw [Nat.pow_succ]
        omega
    _ ≤ 2 ^ 52 * 2 ^ (d'.exponent - leastExponent).toNat :=
        Nat.mul_le_mul_left _ (Nat.pow_le_pow_right (by decide) (by omega))
    _ ≤ d'.mantissa * 2 ^ (d'.exponent - leastExponent).toNat :=
        Nat.mul_le_mul_right _ hfull

/-- The exponent decides before the mantissa does. -/
theorem compare_steps {d d' : Dyadic} (h : d.Canonical) (h' : d'.Canonical) :
    (compare d.exponent d'.exponent).then (compare d.mantissa d'.mantissa) =
      compare (d.steps : Int) d'.steps := by
  rcases Int.lt_trichotomy d.exponent d'.exponent with hlt | heq | hgt
  · have hless := steps_lt_of_exponent_lt h h' hlt
    rw [Int.compare_eq_lt.mpr hlt, Int.compare_eq_lt.mpr (Int.ofNat_lt.mpr hless)]
    rfl
  · have hpos : 0 < 2 ^ (d'.exponent - leastExponent).toNat := Nat.two_pow_pos _
    rw [Int.compare_eq_eq.mpr heq, steps, steps, heq]
    simp only [Ordering.then, Nat.compare_eq_ite_lt, Int.compare_eq_ite_lt, Int.ofNat_lt,
      Nat.mul_lt_mul_right hpos]
  · have hless := steps_lt_of_exponent_lt h' h hgt
    rw [Int.compare_eq_gt.mpr hgt, Int.compare_eq_gt.mpr (Int.ofNat_lt.mpr hless)]
    rfl

theorem compare_neg (m n : Int) : compare (-m) (-n) = (compare m n).swap := by
  rw [Int.compare_swap, Int.compare_eq_ite_lt, Int.compare_eq_ite_lt]
  simp only [Int.neg_lt_neg_iff]

theorem unpacked_of_zero {d : Dyadic} (h : d.mantissa = 0) :
    d.unpacked = .zero d.sign ∧ d.value = 0 := by
  refine ⟨dif_pos h, ?_⟩
  rw [value, d.steps_eq_zero_iff.mpr h]
  cases d.sign <;> rfl

theorem unpacked_of_pos {d : Dyadic} (h : d.mantissa ≠ 0) :
    d.unpacked = .finite d.sign d.mantissa d.exponent (Nat.pos_of_ne_zero h) ∧ 0 < d.steps :=
  ⟨dif_neg h, Nat.pos_of_ne_zero (mt d.steps_eq_zero_iff.mp h)⟩

/-- Finite floats compare as their exact values do. -/
theorem compare_unpacked {d d' : Dyadic} (h : d.Canonical) (h' : d'.Canonical) :
    UnpackedFloat.compare d.unpacked d'.unpacked = some (compare d.value d'.value) := by
  by_cases hzero : d.mantissa = 0 <;> by_cases hzero' : d'.mantissa = 0
  · obtain ⟨hd, hvalue⟩ := unpacked_of_zero hzero
    obtain ⟨hd', hvalue'⟩ := unpacked_of_zero hzero'
    rw [hd, hd', hvalue, hvalue']
    rfl
  · obtain ⟨hd, hvalue⟩ := unpacked_of_zero hzero
    obtain ⟨hd', hpos'⟩ := unpacked_of_pos hzero'
    rw [hd, hd', hvalue, value]
    cases d'.sign
    · exact congrArg some (Int.compare_eq_gt.mpr (Int.neg_neg_of_pos (Int.ofNat_lt.mpr hpos'))).symm
    · exact congrArg some (Int.compare_eq_lt.mpr (Int.ofNat_lt.mpr hpos')).symm
  · obtain ⟨hd, hpos⟩ := unpacked_of_pos hzero
    obtain ⟨hd', hvalue'⟩ := unpacked_of_zero hzero'
    rw [hd, hd', hvalue', value]
    cases d.sign
    · exact congrArg some (Int.compare_eq_lt.mpr (Int.neg_neg_of_pos (Int.ofNat_lt.mpr hpos))).symm
    · exact congrArg some (Int.compare_eq_gt.mpr (Int.ofNat_lt.mpr hpos)).symm
  · obtain ⟨hd, hpos⟩ := unpacked_of_pos hzero
    obtain ⟨hd', hpos'⟩ := unpacked_of_pos hzero'
    have hsteps := compare_steps h h'
    rw [hd, hd', value, value]
    cases d.sign <;> cases d'.sign
    · exact congrArg some ((congrArg Ordering.swap hsteps).trans (compare_neg _ _).symm)
    · exact congrArg some (Int.compare_eq_lt.mpr (by simp only [Sign.apply]; omega)).symm
    · exact congrArg some (Int.compare_eq_gt.mpr (by simp only [Sign.apply]; omega)).symm
    · exact congrArg some hsteps

theorem lt_iff {x y : Float} {d d' : Dyadic} (hx : ofFloat? x = some d)
    (hy : ofFloat? y = some d') : x < y ↔ d.value < d'.value := by
  have hcompare := compare_unpacked (canonical_of_ofFloat? hx) (canonical_of_ofFloat? hy)
  rw [← unpack_eq hx, ← unpack_eq hy] at hcompare
  rw [lt_iff_compare, hcompare, Option.some.injEq, Int.compare_eq_lt]

end Order

section Whole

/-- How many times the least positive float fits into one. -/
def stepsOfOne : Nat := 2 ^ (-leastExponent).toNat

theorem steps_of_wholePart {d : Dyadic} (h : leastExponent ≤ d.exponent) {whole : Nat}
    (hwhole : d.wholePart = (whole, true)) : d.steps = whole * stepsOfOne := by
  obtain ⟨negative, mantissa, exponent⟩ := d
  cases exponent with
  | ofNat e =>
    have hshift : (Int.ofNat e - leastExponent).toNat = e + (-leastExponent).toNat := by
      change ((e : Int) - leastExponent).toNat = _
      simp only [leastExponent]
      omega
    have heq : mantissa <<< e = whole := congrArg Prod.fst hwhole
    rw [steps, hshift, ← heq, Nat.shiftLeft_eq, Nat.pow_add, Nat.mul_assoc, stepsOfOne]
  | negSucc e =>
    have hle : e + 1 ≤ (-leastExponent).toNat := by
      simp only [leastExponent] at h ⊢
      omega
    have hshift : (Int.negSucc e - leastExponent).toNat = (-leastExponent).toNat - (e + 1) := by
      simp only [leastExponent]
      omega
    have heq : mantissa >>> (e + 1) = whole := congrArg Prod.fst hwhole
    have hexact : mantissa % 2 ^ (e + 1) = 0 := by
      have hrest : (mantissa % (1 <<< (e + 1)) == 0) = true := congrArg Prod.snd hwhole
      rw [beq_iff_eq, Nat.one_shiftLeft] at hrest
      exact hrest
    have hmantissa : whole * 2 ^ (e + 1) = mantissa := by
      rw [← heq, Nat.shiftRight_eq_div_pow]
      exact Nat.div_mul_cancel (Nat.dvd_of_mod_eq_zero hexact)
    calc mantissa * 2 ^ (Int.negSucc e - leastExponent).toNat
        = whole * 2 ^ (e + 1) * 2 ^ ((-leastExponent).toNat - (e + 1)) := by rw [hshift, hmantissa]
      _ = whole * stepsOfOne := by
          rw [Nat.mul_assoc, ← Nat.pow_add, Nat.add_sub_cancel' hle, stepsOfOne]

/-- A float that is a whole number is that many times as large as one. -/
theorem value_of_toInt? {d : Dyadic} (h : leastExponent ≤ d.exponent) {n : Int}
    (hn : d.toInt? = some n) : d.value = n * stepsOfOne := by
  simp only [toInt?] at hn
  split at hn
  next hexact =>
    have hsteps := steps_of_wholePart h (Prod.ext rfl hexact : d.wholePart = (d.wholePart.1, true))
    cases hn
    rw [value, hsteps, sign, Int.natCast_mul]
    cases d.negative
    · rfl
    · exact (Int.neg_mul _ _).symm
  next => cases hn

end Whole

end Dyadic

end QuerySets.Decimal
