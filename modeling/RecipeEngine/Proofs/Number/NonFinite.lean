import RecipeEngine.Number.Arithmetic
import RecipeEngine.Number.Format

namespace RecipeEngine

open Float.Model (Format UnpackedFloat)

namespace Dyadic

theorem eq_of_toBits {x y : Float} (same : x.toBits = y.toBits) : x = y := by
  obtain ⟨⟨left, _⟩⟩ := x
  obtain ⟨⟨right, _⟩⟩ := y
  cases (same : left = right)
  rfl

def exponentField (x : Float) : BitVec 11 :=
  @UnpackedFloat.unpackExponent Format.binary64 x.toBits.toBitVec

def mantissaField (x : Float) : BitVec 52 :=
  @UnpackedFloat.unpackMantissa Format.binary64 x.toBits.toBitVec

theorem toNat_exponentField (x : Float) :
    (exponentField x).toNat = x.toBits.toNat / 4503599627370496 % 2048 := by
  simp [exponentField, UnpackedFloat.unpackExponent, Nat.shiftRight_eq_div_pow]

theorem toNat_mantissaField (x : Float) :
    (mantissaField x).toNat = x.toBits.toNat % 4503599627370496 := by
  simp [mantissaField, UnpackedFloat.unpackMantissa]

theorem magnitudeBits_eq (x : Float) :
    magnitudeBits x = (exponentField x).toNat * 4503599627370496 + (mantissaField x).toNat := by
  have modulus : twoTo 63 = 9223372036854775808 := by decide
  rw [toNat_exponentField, toNat_mantissaField, magnitudeBits, modulus]
  omega

theorem infinityBits_eq : infinityBits = 2047 * 4503599627370496 := by decide

theorem exponentField_full_iff (x : Float) :
    exponentField x = -1 ↔ infinityBits ≤ magnitudeBits x := by
  have top : (-1 : BitVec 11).toNat = 2047 := by decide
  have exponent := (exponentField x).isLt
  have mantissa := (mantissaField x).isLt
  rw [← BitVec.toNat_inj, top, magnitudeBits_eq, infinityBits_eq]
  omega

theorem mantissaField_zero_iff (x : Float) :
    mantissaField x = 0 ↔ magnitudeBits x % 4503599627370496 = 0 := by
  have none : (0 : BitVec 52).toNat = 0 := by decide
  have mantissa := (mantissaField x).isLt
  rw [← BitVec.toNat_inj, none, magnitudeBits_eq]
  omega

/-- With all exponent bits set a double unpacks to an infinity or to NaN. -/
theorem unpack_of_full {x : Float} (full : exponentField x = -1) :
    UnpackedFloat.unpack Format.binary64 x.toBits.toBitVec =
      if mantissaField x = 0 then
        .infinity (.ofBitVec (@UnpackedFloat.unpackSign Format.binary64 x.toBits.toBitVec))
      else .notANumber :=
  if_pos full

theorem isFinite_unpack {x : Float} (bounded : ¬ exponentField x = -1) :
    (UnpackedFloat.unpack Format.binary64 x.toBits.toBitVec).isFinite = true := by
  refine (congrArg UnpackedFloat.isFinite (if_neg bounded)).trans ?_
  by_cases small : exponentField x = 0
  · refine (congrArg UnpackedFloat.isFinite (if_pos small)).trans ?_
    by_cases zero : mantissaField x = 0
    · exact congrArg UnpackedFloat.isFinite (dif_pos zero)
    · exact congrArg UnpackedFloat.isFinite (dif_neg zero)
  · exact congrArg UnpackedFloat.isFinite (if_neg small)

theorem isFinite_iff {x : Float} : x.isFinite = true ↔ magnitudeBits x < infinityBits := by
  rw [← Nat.not_le, ← exponentField_full_iff]
  change (UnpackedFloat.unpack Format.binary64 x.toBits.toBitVec).isFinite = true ↔ _
  by_cases full : exponentField x = -1
  · rw [unpack_of_full full]
    by_cases zero : mantissaField x = 0
    · rw [if_pos zero]
      exact iff_of_false Bool.false_ne_true (not_not_intro full)
    · rw [if_neg zero]
      exact iff_of_false Bool.false_ne_true (not_not_intro full)
  · exact iff_of_true (isFinite_unpack full) full

theorem isNaN_eq_false {u : UnpackedFloat} (finite : u.isFinite = true) : u.isNaN = false := by
  cases u with
  | notANumber => cases finite
  | infinity sign => rfl
  | zero sign => rfl
  | finite sign mantissa exponent positive => rfl

theorem isNaN_iff_fields {x : Float} :
    x.isNaN = true ↔ exponentField x = -1 ∧ mantissaField x ≠ 0 := by
  change (UnpackedFloat.unpack Format.binary64 x.toBits.toBitVec).isNaN = true ↔ _
  by_cases full : exponentField x = -1
  · rw [unpack_of_full full]
    by_cases zero : mantissaField x = 0
    · rw [if_pos zero]
      exact iff_of_false Bool.false_ne_true fun nan => nan.2 zero
    · rw [if_neg zero]
      exact iff_of_true rfl ⟨full, zero⟩
  · rw [isNaN_eq_false (isFinite_unpack full)]
    exact iff_of_false Bool.false_ne_true fun nan => full nan.1

theorem isNaN_iff {x : Float} : x.isNaN = true ↔ infinityBits < magnitudeBits x := by
  have exponent := (exponentField x).isLt
  rw [isNaN_iff_fields, exponentField_full_iff, Ne, mantissaField_zero_iff, magnitudeBits_eq,
    infinityBits_eq]
  omega

theorem eq_of_isNaN {x y : Float} (left : x.isNaN = true) (right : y.isNaN = true) : x = y := by
  obtain ⟨leftExponent, leftMantissa⟩ := isNaN_iff_fields.mp left
  obtain ⟨rightExponent, rightMantissa⟩ := isNaN_iff_fields.mp right
  have leftBits := x.toModel.valid.eq_packedNaN leftExponent leftMantissa
  have rightBits := y.toModel.valid.eq_packedNaN rightExponent rightMantissa
  exact eq_of_toBits (UInt64.eq_of_toBitVec_eq (leftBits.trans rightBits.symm))

theorem eq_withSign_of_infinite {x : Float} (infinite : x.isFinite = false)
    (proper : x.isNaN = false) : x = withSign (isNegative x) infinityBits := by
  have low : infinityBits ≤ magnitudeBits x :=
    Nat.not_lt.mp fun less => Bool.false_ne_true (infinite.symm.trans (isFinite_iff.mpr less))
  have high : magnitudeBits x ≤ infinityBits :=
    Nat.not_lt.mp fun less => Bool.false_ne_true (proper.symm.trans (isNaN_iff.mpr less))
  have modulus : twoTo 63 = 9223372036854775808 := by decide
  have bound := x.toBits.toNat_lt
  rw [infinityBits_eq, magnitudeBits, modulus] at low high
  refine eq_of_toBits (UInt64.toNat_inj.mp ?_)
  unfold isNegative
  rw [modulus]
  by_cases negative : 9223372036854775808 ≤ x.toBits.toNat
  · have bits : (withSign true infinityBits).toBits.toNat = 18442240474082181120 := by decide
    rw [decide_eq_true negative]
    omega
  · have bits : (withSign false infinityBits).toBits.toNat = 9218868437227405312 := by decide
    rw [decide_eq_false negative]
    omega

end Dyadic

namespace NumberFormat

theorem ofWord?_plain {x : Float} (unbounded : x.isFinite = false) :
    ofWord? (plain x) = some x := by
  rw [plain, unbounded, if_neg Bool.false_ne_true, nonFinite]
  by_cases nan : x.isNaN = true
  · have known : Arithmetic.nan.isNaN = true := by decide
    rw [if_pos nan, Dyadic.eq_of_isNaN nan known]
    rfl
  · have whole := Dyadic.eq_withSign_of_infinite unbounded (Bool.not_eq_true _ ▸ nan)
    rw [if_neg nan, signed]
    cases negative : Dyadic.isNegative x with
    | true =>
      rw [negative] at whole
      exact congrArg some whole.symm
    | false =>
      rw [negative] at whole
      exact congrArg some whole.symm

end NumberFormat

end RecipeEngine
