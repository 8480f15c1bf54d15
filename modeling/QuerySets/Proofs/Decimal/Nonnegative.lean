import QuerySets.Decimal.Reading
import QuerySets.Proofs.Decimal.Whole

/-!
Floats that are neither negative nor NaN. Sums of them are such floats, and so are their products
with finite ones that are not zero. A numeral without a sign stands for such a float, which may
be infinite. Two of them can always be compared.
-/

namespace QuerySets.Decimal

open Float.Model
open Float.Model.UnpackedFloat

/-- A float in its parts that is a number and has no minus sign. -/
inductive Plus : UnpackedFloat → Prop
  | zero : Plus (.zero .positive)
  | finite (m : Nat) (e : Int) (h : 0 < m) : Plus (.finite .positive m e h)
  | infinity : Plus (.infinity .positive)

namespace Plus

/-- One of two floats, both of which may need that they are the one that is taken. -/
theorem choose {c : Prop} [Decidable c] {a : c → UnpackedFloat} {b : ¬ c → UnpackedFloat}
    (ha : ∀ h, Plus (a h)) (hb : ∀ h, Plus (b h)) : Plus (dite c a b) := by
  by_cases h : c
  · rw [dif_pos h]
    exact ha h
  · rw [dif_neg h]
    exact hb h

theorem roundWithAccuracy (spec : Format) (m : Nat) (e : Int) (accuracy : Accuracy) :
    Plus (UnpackedFloat.roundWithAccuracy spec .positive m e accuracy) := by
  unfold UnpackedFloat.roundWithAccuracy
  exact choose (fun _ => .zero) fun _ => .finite _ _ _

theorem normalize (spec : Format) {m : Int} (h : 0 ≤ m) (e : Int) :
    Plus (UnpackedFloat.normalize spec m e .positive) := by
  simp only [UnpackedFloat.normalize]
  split
  next hlt =>
    rw [Int.compare_eq_lt] at hlt
    omega
  next => exact .zero
  next => exact roundWithAccuracy _ _ _ _

theorem add {a b : UnpackedFloat} (spec : Format) (ha : Plus a) (hb : Plus b) :
    Plus (UnpackedFloat.add spec a b) := by
  cases ha with
  | zero => cases hb <;> constructor
  | infinity => cases hb <;> exact .infinity
  | finite m e hm =>
    cases hb with
    | zero => exact .finite m e hm
    | infinity => exact .infinity
    | finite n f hn =>
      exact normalize spec (Int.add_nonneg (Int.natCast_nonneg _) (Int.natCast_nonneg _)) _

/-- Zero times an infinity would not be a number. -/
theorem mul_finite {a : UnpackedFloat} (spec : Format) (ha : Plus a) {m : Nat} {e : Int}
    (hm : 0 < m) : Plus (UnpackedFloat.mul spec a (.finite .positive m e hm)) := by
  cases ha with
  | zero => exact .zero
  | infinity => exact .infinity
  | finite n f hn => exact roundWithAccuracy _ _ _ _

theorem div_finite {a : UnpackedFloat} (spec : Format) (ha : Plus a) {m : Nat} {e : Int}
    (hm : 0 < m) : Plus (UnpackedFloat.div spec a (.finite .positive m e hm)) := by
  cases ha with
  | zero => exact .zero
  | infinity => exact .infinity
  | finite n f hn => exact roundWithAccuracy _ _ _ _

theorem ofScientific (spec : Format) (m : Nat) (e : Int) :
    Plus (UnpackedFloat.ofScientific spec m e) := by
  unfold UnpackedFloat.ofScientific
  refine choose (fun _ => .zero) fun _ => ?_
  refine iteInduction (fun _ => .infinity) fun _ => ?_
  refine iteInduction (fun _ => .zero) fun _ => ?_
  refine iteInduction (fun _ => ?_) fun _ => ?_
  · exact mul_finite spec (.finite _ _ _) _
  · exact div_finite spec (.finite _ _ _) _

end Plus

theorem unpackSign_packComponents (s : Sign) (e : BitVec 11) (m : BitVec 52) :
    Sign.ofBitVec (unpackSign (packComponents Format.binary64 s e m)) = s := by
  unfold unpackSign
  simp only [packComponents, BitVec.extractLsb]
  rw [BitVec.extractLsb'_append_eq_of_le (by omega), BitVec.extractLsb'_append_eq_of_le (by omega)]
  cases s <;> rfl

theorem plus_unpack_packComponents {e : BitVec 11} (he : e ≠ -1#11) (m : BitVec 52) :
    Plus (UnpackedFloat.unpack Format.binary64 (packComponents Format.binary64 .positive e m)) := by
  unfold UnpackedFloat.unpack
  dsimp only
  rw [unpackExponent_packComponents, unpackSign_packComponents, if_neg he]
  refine iteInduction (fun _ => ?_) fun _ => .finite _ _ _
  exact .choose (fun _ => .zero) fun _ => .finite _ _ _

theorem plus_unpack_packedInfinity :
    Plus (UnpackedFloat.unpack Format.binary64 (packedInfinity Format.binary64 .positive)) := by
  unfold UnpackedFloat.unpack packedInfinity
  dsimp only
  rw [if_pos unpackExponent_packComponents, if_pos, unpackSign_packComponents]
  · exact .infinity
  · exact unpackMantissa_packComponents

/-- Packing may lead to an infinity, but changes no sign. -/
theorem Plus.unpack_pack {a : UnpackedFloat} (h : Plus a) : Plus (pack a).unpack := by
  cases h with
  | zero => exact plus_unpack_packComponents (by decide) 0
  | infinity => exact plus_unpack_packedInfinity
  | finite m e hm =>
    change Plus (UnpackedFloat.unpack _ (UnpackedFloat.pack Format.binary64 _))
    dsimp only [UnpackedFloat.pack]
    split
    · exact plus_unpack_packedInfinity
    next hsmall =>
      split
      · -- the biased exponent stays below that of an infinity
        refine plus_unpack_packComponents ?_ _
        intro heq
        have hnat := congrArg BitVec.toNat heq
        rw [BitVec.toNat_ofNat] at hnat
        simp at hnat
        omega
      · exact plus_unpack_packComponents (by decide) _

/-- Neither negative nor NaN. -/
def Nonnegative (x : Float) : Prop := Plus x.toModel.unpack

/-- Finite and greater than zero. -/
def isPositive (x : Float) : Bool :=
  match x.toModel.unpack with
  | .finite .positive _ _ _ => true
  | _ => false

variable {x y : Float}

theorem exists_of_isPositive (h : isPositive x) :
    ∃ m e, ∃ hm : 0 < m, x.toModel.unpack = .finite .positive m e hm := by
  unfold isPositive at h
  generalize x.toModel.unpack = a at h ⊢
  cases a with
  | notANumber | infinity _ | zero _ => cases h
  | finite s m e hm =>
    cases s with
    | positive => exact ⟨m, e, hm, rfl⟩
    | negative => cases h

theorem nonnegative_zero : Nonnegative 0 :=
  (Plus.ofScientific Format.binary64 0 0).unpack_pack

theorem Nonnegative.add (hx : Nonnegative x) (hy : Nonnegative y) : Nonnegative (x + y) :=
  (Plus.add Format.binary64 hx hy).unpack_pack

theorem Nonnegative.mul (hx : Nonnegative x) (hy : isPositive y) : Nonnegative (x * y) := by
  obtain ⟨m, e, hm, heq⟩ := exists_of_isPositive hy
  have hproduct := Plus.mul_finite (e := e) Format.binary64 hx hm
  rw [← heq] at hproduct
  exact hproduct.unpack_pack

theorem Nonnegative.div (hx : Nonnegative x) (hy : isPositive y) : Nonnegative (x / y) := by
  obtain ⟨m, e, hm, heq⟩ := exists_of_isPositive hy
  have hquotient := Plus.div_finite (e := e) Format.binary64 hx hm
  rw [← heq] at hquotient
  exact hquotient.unpack_pack

theorem nonnegative_toFloat (n : UInt64) : Nonnegative n.toFloat :=
  (Plus.normalize Format.binary64 (Int.natCast_nonneg _) 0).unpack_pack

theorem nonnegative_ofScientific (m : Nat) (negative : Bool) (e : Nat) :
    Nonnegative (Float.ofScientific m negative e) := by
  have hpowers : Float.exactlyRepresentablePowersOfTen.all isPositive = true := by
    decide +kernel
  rw [Float.ofScientific]
  split
  next hsmall =>
    have hpower := Array.all_eq_true.mp hpowers e (by
      simp [Float.exactlyRepresentablePowersOfTen]
      omega)
    cases negative
    · exact (nonnegative_toFloat _).mul hpower
    · exact (nonnegative_toFloat _).div hpower
  next => exact (Plus.ofScientific Format.binary64 _ _).unpack_pack

/-- A numeral that is too large stands for an infinity, and so is never negative or no number. -/
theorem nonnegative_nearest (digits : Nat) (exponent : Int) :
    Nonnegative (nearest digits exponent) := by
  simp only [nearest]
  split
  · exact nonnegative_zero
  split
  · exact plus_unpack_packedInfinity.unpack_pack
  split
  · exact nonnegative_zero
  · exact nonnegative_ofScientific _ _ _

theorem Plus.exists_compare {a b : UnpackedFloat} (ha : Plus a) (hb : Plus b) :
    ∃ o, a.compare b = some o := by
  cases ha <;> cases hb <;> exact ⟨_, rfl⟩

theorem le_iff_not_lt (hx : Nonnegative x) (hy : Nonnegative y) : x ≤ y ↔ ¬ y < x := by
  obtain ⟨o, ho⟩ := Plus.exists_compare hx hy
  have hle : x ≤ y ↔ o.isLE := by
    change Float.le x y = true ↔ _
    rw [Float.le, decide_eq_true_iff]
    change UnpackedFloat.le _ _ = true ↔ _
    rw [UnpackedFloat.le, ho]
    rfl
  rw [hle, lt_iff_compare, compare_swap, ho]
  cases o <;> decide

/-- A float of this kind whose exponent is the greatest one is above all finite ones. -/
theorem Nonnegative.unpack_eq_infinity (hx : Nonnegative x)
    (h : @unpackExponent Format.binary64 x.toModel.toBits.toBitVec = -1#11) :
    x.toModel.unpack = .infinity .positive := by
  have hunpack := hx
  unfold Nonnegative Float.Model.unpack UnpackedFloat.unpack at hunpack
  unfold Float.Model.unpack UnpackedFloat.unpack
  rw [if_pos h] at hunpack ⊢
  split at hunpack
  next hm =>
    rw [if_pos hm]
    generalize Sign.ofBitVec _ = s at hunpack ⊢
    cases hunpack
    rfl
  next => cases hunpack

/-- What is not above a finite float is finite itself. -/
theorem Nonnegative.isSome_ofFloat? (hx : Nonnegative x) (hy : isPositive y) (h : x ≤ y) :
    (Dyadic.ofFloat? x).isSome := by
  refine Decimal.isSome_ofFloat? ?_
  intro hexponent
  obtain ⟨m, e, hm, heq⟩ := exists_of_isPositive hy
  have hinfinity := hx.unpack_eq_infinity hexponent
  change Float.le x y = true at h
  rw [Float.le, decide_eq_true_iff] at h
  change UnpackedFloat.le x.toModel.unpack y.toModel.unpack = true at h
  rw [hinfinity, heq] at h
  cases h

end QuerySets.Decimal
