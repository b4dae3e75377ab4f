import Mathlib
import RecipeEngine.Number.Nearest
import RecipeEngine.Proofs.Number.NonFinite

namespace RecipeEngine

open Float.Model (Format UnpackedFloat)
open Float.Model.UnpackedFloat

namespace Dyadic

abbrev fields (sign : Sign) (exponent : BitVec 11) (mantissa : BitVec 52) :
    BitVec Format.binary64.numBits :=
  packComponents Format.binary64 sign exponent mantissa

variable {sign : Sign} {exponent : BitVec 11} {mantissa : BitVec 52}

theorem toNat_fields : (fields sign exponent mantissa).toNat =
    sign.toBitVec.toNat * 9223372036854775808 + exponent.toNat * 4503599627370496 +
      mantissa.toNat := by
  have low := mantissa.isLt
  have middle := exponent.isLt
  rw [fields, packComponents, BitVec.toNat_append, BitVec.toNat_append,
    ← Nat.shiftLeft_add_eq_or_of_lt low, ← Nat.shiftLeft_add_eq_or_of_lt middle,
    Nat.shiftLeft_eq, Nat.shiftLeft_eq]
  omega

theorem unpackSign_fields : unpackSign (fields sign exponent mantissa) = sign.toBitVec := by
  have low := mantissa.isLt
  have middle := exponent.isLt
  have high := sign.toBitVec.isLt
  have whole : (fields sign exponent mantissa).toNat = _ := toNat_fields
  rw [← BitVec.toNat_inj]
  simp only [unpackSign, BitVec.toNat_cast, BitVec.extractLsb_toNat, Nat.shiftRight_eq_div_pow]
  omega

theorem ofBitVec_toBitVec (sign : Sign) : Sign.ofBitVec sign.toBitVec = sign := by
  cases sign <;> rfl

theorem toNat_implicit (mantissa : BitVec 52) :
    (1#1 ++ mantissa).toNat = 4503599627370496 + mantissa.toNat := by
  rw [BitVec.toNat_append, ← Nat.shiftLeft_add_eq_or_of_lt mantissa.isLt]
  simp [Nat.shiftLeft_eq]

theorem unpack_fields_negative :
    unpack Format.binary64 (fields .negative exponent mantissa) =
      (unpack Format.binary64 (fields .positive exponent mantissa)).neg := by
  unfold UnpackedFloat.unpack
  simp only [unpackMantissa_packComponents, unpackExponent_packComponents, unpackSign_fields,
    ofBitVec_toBitVec]
  split
  · split <;> rfl
  · split
    · split <;> rfl
    · rfl

/-- A number in the range of doubles is packed without its leading bit if it has all 53 bits, and as
a subnormal one otherwise. -/
theorem pack_finite {m : Nat} {e : Int} {some : 0 < m} (biased : Nat) (place : e + 1075 = biased)
    (bounded : biased < 2047) :
    UnpackedFloat.pack Format.binary64 (.finite sign m e some) =
      if m.log2 + 1 = 53 then fields sign (.ofNat 11 biased) (.ofNat 52 m)
      else fields sign 0 (.ofNat 52 m) := by
  have exponentBias : (Format.binary64.exponentBias : Int) = 1023 := rfl
  have field : (e + (Format.binary64.exponentBias : Nat) +
      (Format.binary64.mantissaBitsWithoutImplicit : Nat)).toNat = biased := by
    have places : (Format.binary64.mantissaBitsWithoutImplicit : Int) = 52 := rfl
    omega
  rw [UnpackedFloat.pack]
  simp only [field]
  have fits : ¬ 2048 ≤ biased + 1 := by omega
  exact if_neg fits

theorem log2_implicit (mantissa : BitVec 52) : (1#1 ++ mantissa).toNat.log2 + 1 = 53 := by
  have whole := toNat_implicit mantissa
  have low := mantissa.isLt
  have nonzero : (1#1 ++ mantissa).toNat ≠ 0 := by omega
  have least : 52 ≤ (1#1 ++ mantissa).toNat.log2 := (Nat.le_log2 nonzero).mpr (by omega)
  have most : (1#1 ++ mantissa).toNat.log2 < 53 := (Nat.log2_lt nonzero).mpr (by omega)
  omega

theorem ofNat_implicit (mantissa : BitVec 52) :
    BitVec.ofNat 52 (1#1 ++ mantissa).toNat = mantissa := by
  have low := mantissa.isLt
  rw [← BitVec.toNat_inj, BitVec.toNat_ofNat, toNat_implicit]
  omega

theorem pack_unpack_fields (proper : exponent = -1 → mantissa = 0) :
    UnpackedFloat.pack Format.binary64 (unpack Format.binary64 (fields sign exponent mantissa)) =
      fields sign exponent mantissa := by
  have bias : (Format.binary64.exponentBias : Int) + (52 : Nat) = 1075 := rfl
  unfold UnpackedFloat.unpack
  simp only [unpackMantissa_packComponents, unpackExponent_packComponents, unpackSign_fields,
    ofBitVec_toBitVec]
  split
  · rename_i full
    have none : mantissa = 0#52 := proper full
    rw [if_pos none, full, none]
    rfl
  · rename_i bounded
    split
    · rename_i small
      split
      · rename_i none
        rw [small, none]
        rfl
      · rename_i nonzero
        have some : mantissa.toNat ≠ 0 := fun none => nonzero (BitVec.eq_of_toNat_eq none)
        have bits : mantissa.toNat.log2 < 52 := (Nat.log2_lt some).mpr mantissa.isLt
        rw [small, pack_finite 1 (by rw [bias]; rfl) (by decide), if_neg (by omega),
          BitVec.ofNat_toNat, BitVec.setWidth_eq]
        rfl
    · have top : (-1 : BitVec 11).toNat = 2047 := by decide
      have bounded : exponent.toNat < 2047 := by
        have within := exponent.isLt
        have other : exponent.toNat ≠ 2047 := fun full =>
          bounded (BitVec.eq_of_toNat_eq (full.trans top.symm))
        omega
      rw [pack_finite exponent.toNat (by omega) bounded, if_pos (log2_implicit mantissa),
        ofNat_implicit, BitVec.ofNat_toNat, BitVec.setWidth_eq]

/-- A number that is not NaN keeps the fields it was made of, and its negative has the others but
the opposite sign. -/
theorem neg_ofBits_fields (proper : exponent = -1 → mantissa = 0) :
    -(Float.ofBits (.ofBitVec (fields .positive exponent mantissa))) =
      Float.ofBits (.ofBitVec (fields .negative exponent mantissa)) := by
  change Float.ofModel (.pack (unpack Format.binary64 (UnpackedFloat.pack Format.binary64
    (unpack Format.binary64 (fields .positive exponent mantissa)))).neg) = .ofModel (.pack
      (unpack Format.binary64 (fields .negative exponent mantissa)))
  rw [pack_unpack_fields proper, unpack_fields_negative]

theorem ofNat_eq_fields {bits : Nat} (low : bits ≤ infinityBits) :
    ∃ exponent mantissa, (exponent = -1 → mantissa = 0) ∧
      UInt64.ofNat bits = .ofBitVec (fields .positive exponent mantissa) ∧
      UInt64.ofNat (bits + twoTo 63) = .ofBitVec (fields .negative exponent mantissa) := by
  have modulus : twoTo 63 = 9223372036854775808 := by decide
  have most := infinityBits_eq
  have top : (-1 : BitVec 11).toNat = 2047 := by decide
  have exponent : (BitVec.ofNat 11 (bits / 4503599627370496)).toNat = bits / 4503599627370496 :=
    Nat.mod_eq_of_lt (by omega)
  have mantissa : (BitVec.ofNat 52 (bits % 4503599627370496)).toNat = bits % 4503599627370496 :=
    Nat.mod_eq_of_lt (Nat.mod_lt bits (by decide))
  have positive : Sign.positive.toBitVec.toNat = 0 := rfl
  have negative : Sign.negative.toBitVec.toNat = 1 := rfl
  refine ⟨.ofNat 11 (bits / 4503599627370496), .ofNat 52 (bits % 4503599627370496), fun full => ?_,
    ?_, ?_⟩
  · rw [← BitVec.toNat_inj, exponent, top] at full
    rw [← BitVec.toNat_inj, mantissa]
    change bits % 4503599627370496 = 0
    omega
  · rw [← UInt64.toNat_inj, UInt64.toNat_ofNat', UInt64.toNat_ofBitVec, toNat_fields, exponent,
      mantissa, positive]
    omega
  · rw [← UInt64.toNat_inj, UInt64.toNat_ofNat', UInt64.toNat_ofBitVec, toNat_fields, exponent,
      mantissa, negative]
    omega

theorem neg_withSign {bits : Nat} (low : bits ≤ infinityBits) :
    -(withSign false bits) = withSign true bits := by
  obtain ⟨exponent, mantissa, proper, positive, negative⟩ := ofNat_eq_fields low
  change -(Float.ofBits (UInt64.ofNat bits)) = Float.ofBits (UInt64.ofNat (bits + twoTo 63))
  rw [positive, negative]
  exact neg_ofBits_fields proper

theorem withSign_magnitudeBits (x : Float) : withSign (isNegative x) (magnitudeBits x) = x := by
  have modulus : twoTo 63 = 9223372036854775808 := by decide
  have bound := x.toBits.toNat_lt
  have whole : (if isNegative x = true then magnitudeBits x + twoTo 63 else magnitudeBits x) =
      x.toBits.toNat := by
    unfold isNegative magnitudeBits
    rw [modulus]
    split_ifs with negative
    · rw [decide_eq_true_eq] at negative
      omega
    · rw [decide_eq_true_eq] at negative
      omega
  rw [withSign, whole, UInt64.ofNat_toNat, Float.ofBits_toBits]

/-- A finite number that is not less than zero has no sign, unless it is the negative zero. -/
theorem isNegative_eq_false {x : Float} (finite : x.isFinite = true) (atLeast : 0 ≤ x)
    (other : x ≠ -0.0) : isNegative x = false := by
  rw [← Bool.not_eq_true]
  intro negative
  obtain ⟨exponent, mantissa, proper, -, bits⟩ := ofNat_eq_fields (isFinite_iff.mp finite).le
  have whole := withSign_magnitudeBits x
  rw [negative, withSign, if_pos rfl, bits] at whole
  have unpacked : x.toModel.unpack =
      unpack Format.binary64 (fields .negative exponent mantissa) := by
    rw [← whole]
    change unpack Format.binary64 (UnpackedFloat.pack Format.binary64
      (unpack Format.binary64 (fields .negative exponent mantissa))) = _
    rw [pack_unpack_fields proper]
  have compared : decide ((((UnpackedFloat.zero .positive).compare x.toModel.unpack).any
      (·.isLE)) = true) = true := atLeast
  rw [unpacked, decide_eq_true_eq] at compared
  unfold UnpackedFloat.unpack at compared
  simp only [unpackMantissa_packComponents, unpackExponent_packComponents, unpackSign_fields,
    ofBitVec_toBitVec] at compared
  split at compared
  · split at compared <;> cases compared
  · split at compared
    · rename_i small
      split at compared
      · rename_i none
        rw [small, none] at whole
        exact other whole.symm
      · cases compared
    · cases compared

theorem nearestBits_le (num den : Nat) : nearestBits num den ≤ infinityBits :=
  Nat.min_le_right _ _

end Dyadic

namespace Decimal

theorem magnitude_le (d : Decimal) : d.magnitude ≤ Dyadic.infinityBits := by
  unfold magnitude
  split
  · exact Nat.zero_le _
  · split
    · exact Nat.le_refl _
    · split
      · exact Nat.zero_le _
      · exact Dyadic.nearestBits_le _ _

theorem neg_toFloat (d : Decimal) : -(d.toFloat false) = d.toFloat true :=
  Dyadic.neg_withSign d.magnitude_le

end Decimal

end RecipeEngine
