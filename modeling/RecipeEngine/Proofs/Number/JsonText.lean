import RecipeEngine.Proofs.Json.Numeral
import RecipeEngine.Proofs.Number.Coarsest
import RecipeEngine.Scalar

namespace RecipeEngine

namespace Dyadic

variable {bits : Nat} {negative : Bool}

theorem toNat_toBits_withSign (low : bits ≤ infinityBits) (negative : Bool) :
    (withSign negative bits).toBits.toNat = if negative then bits + twoTo 63 else bits := by
  have modulus : twoTo 63 = 9223372036854775808 := by decide
  have most := infinityBits_eq
  obtain ⟨exponent, mantissa, proper, positive, opposite⟩ := ofNat_eq_fields low
  have kept : (withSign negative bits).toBits =
      UInt64.ofNat (if negative then bits + twoTo 63 else bits) := by
    unfold withSign
    cases negative with
    | true =>
      rw [if_pos rfl, opposite]
      exact congrArg UInt64.ofBitVec (pack_unpack_fields proper)
    | false =>
      rw [if_neg Bool.false_ne_true, positive]
      exact congrArg UInt64.ofBitVec (pack_unpack_fields proper)
  rw [kept, UInt64.toNat_ofNat']
  refine Nat.mod_eq_of_lt ?_
  split <;> omega

theorem magnitudeBits_withSign (low : bits ≤ infinityBits) :
    magnitudeBits (withSign negative bits) = bits := by
  have modulus : twoTo 63 = 9223372036854775808 := by decide
  have most := infinityBits_eq
  rw [magnitudeBits, toNat_toBits_withSign low, modulus]
  split <;> omega

theorem isNegative_withSign (low : bits ≤ infinityBits) :
    isNegative (withSign negative bits) = negative := by
  have modulus : twoTo 63 = 9223372036854775808 := by decide
  have most := infinityBits_eq
  rw [isNegative, toNat_toBits_withSign low]
  cases negative with
  | true => exact decide_eq_true (Nat.le_add_left _ _)
  | false => exact decide_eq_false (by rw [if_neg Bool.false_ne_true]; omega)

theorem ofBits_toBits {m : Nat} {e : Int} (low : 4503599627370496 ≤ m)
    (high : m < 9007199254740992) (least : -1074 ≤ e) : ofBits (toBits ⟨m, e⟩) = ⟨m, e⟩ := by
  have implicit : twoTo 52 = 4503599627370496 := rfl
  unfold ofBits toBits
  rw [implicit]
  dsimp only
  rw [if_neg (by omega), mk.injEq]
  omega

/-- An integer of at most 53 bits is a double with no larger unit than one. -/
theorem exists_ofBits_eq {n : Nat} (positive : 0 < n) (small : n < 9007199254740992) :
    ∃ bits, 0 < bits ∧ bits < infinityBits ∧ (ofBits bits).exponent ≤ 0 ∧
      ((ofBits bits).mantissa : ℚ) * 2 ^ (ofBits bits).exponent = n := by
  have least := Nat.log2_self_le positive.ne'
  have most : n < 2 ^ (Nat.log2 n + 1) := Nat.lt_log2_self
  have bound : Nat.log2 n < 53 := (Nat.log2_lt positive.ne').mpr small
  generalize Nat.log2 n = l at *
  have scale : 2 ^ l * 2 ^ (52 - l) = 4503599627370496 := by
    rw [← Nat.pow_add, Nat.add_sub_cancel' (Nat.lt_succ_iff.mp bound)]
  have low : 4503599627370496 ≤ n * 2 ^ (52 - l) :=
    scale ▸ Nat.mul_le_mul_right _ least
  have high : n * 2 ^ (52 - l) < 9007199254740992 := by
    have doubled : 2 ^ (l + 1) * 2 ^ (52 - l) = 9007199254740992 := by
      rw [Nat.pow_succ, Nat.mul_right_comm, scale]
    exact doubled ▸ Nat.mul_lt_mul_of_pos_right most (Nat.two_pow_pos _)
  have restored := ofBits_toBits low high (by omega : -1074 ≤ (l : Int) - 52)
  refine ⟨toBits ⟨n * 2 ^ (52 - l), (l : Int) - 52⟩, ?_, ?_, ?_, ?_⟩
  · unfold toBits
    dsimp only
    omega
  · have implicit : twoTo 52 = 4503599627370496 := rfl
    rw [infinityBits_eq]
    unfold toBits
    rw [implicit]
    dsimp only
    omega
  · rw [restored]
    dsimp only
    omega
  · rw [restored]
    dsimp only
    have power : (2 : ℚ) ^ (52 - l) * 2 ^ ((l : Int) - 52) = 1 := by
      rw [← zpow_natCast, ← zpow_add₀ (by norm_num), Nat.cast_sub (by omega)]
      norm_num
    push_cast
    rw [mul_assoc, power, mul_one]

theorem contains_value {d : Dyadic} (some : 0 < d.mantissa) :
    d.interval.Contains (d.mantissa * 2 ^ d.exponent) := by
  have centre : (d.interval.centre * 2 ^ d.interval.exponent : ℚ) =
      d.mantissa * 2 ^ d.exponent := by
    show ((4 * d.mantissa : Nat) : ℚ) * 2 ^ (d.exponent - 2) = _
    rw [show d.exponent - 2 = d.exponent - 1 - 1 by omega, two_zpow_sub_one, two_zpow_sub_one]
    push_cast
    ring
  exact centre ▸ contains_centre some

/-- Around an integer with a unit of at most one there is no other integer. -/
theorem eq_of_contains {d : Dyadic} {m n : Nat} (some : 0 < d.mantissa) (unit : d.exponent ≤ 0)
    (value : (d.mantissa : ℚ) * 2 ^ d.exponent = n) (inside : d.interval.Contains m) : m = n := by
  obtain ⟨low, high, -, -⟩ := interval_bounds some inside
  have positive := two_zpow_pos d.exponent
  have small : (2 : ℚ) ^ d.exponent ≤ 1 := zpow_le_one_of_nonpos₀ (by norm_num) unit
  rw [le_div_iff₀ positive, sub_mul, value] at low
  rw [div_le_iff₀ positive, add_mul, value] at high
  have above : (m : ℚ) < n + 1 := by linarith
  have below : (n : ℚ) < m + 1 := by linarith
  exact Nat.le_antisymm (Nat.lt_succ_iff.mp (by exact_mod_cast above))
    (Nat.lt_succ_iff.mp (by exact_mod_cast below))

end Dyadic

namespace Decimal

variable {d other : Decimal}

/-- Positional notation has digits, and a point if the decimal has places after it. -/
theorem mem_positional {c : Char} (member : c ∈ d.positional) : c.isDigit = true ∨ c = '.' := by
  have digits := digits_digitChars d.digits
  unfold positional at member
  dsimp only at member
  split at member
  · exact .inl (digits.append (digits_zeros _) c member)
  · split at member
    · rcases List.mem_append.mp member with whole | rest
      · exact .inl (digits c (List.mem_of_mem_take whole))
      · rcases List.mem_cons.mp rest with rfl | places
        · exact .inr rfl
        · exact .inl (digits c (List.mem_of_mem_drop places))
    · rcases List.mem_cons.mp member with rfl | rest
      · exact .inl rfl
      · rcases List.mem_cons.mp rest with rfl | places
        · exact .inr rfl
        · exact .inl ((digits_zeros _).append digits c places)

theorem point_mem_positional_iff : '.' ∈ d.positional ↔ d.exponent < 0 := by
  unfold positional
  dsimp only
  split
  · rename_i whole
    refine iff_of_false (fun member => ?_) (Int.not_lt.mpr whole)
    cases ((digits_digitChars _).append (digits_zeros _)) '.' member
  · rename_i places
    refine iff_of_true ?_ (Int.not_le.mp places)
    split
    · exact List.mem_append_right _ List.mem_cons_self
    · exact List.mem_cons_of_mem _ List.mem_cons_self

theorem toRat_eq_of_positional_eq (same : d.positional = other.positional) :
    d.toRat = other.toRat := by
  obtain ⟨n, spelled, value⟩ := d.spells_positional
  obtain ⟨m, spelled', value'⟩ := other.spells_positional
  rw [same] at spelled
  rw [← value, ← value', spelled.unique spelled']

theorem eq_of_toRat_eq (exponent : d.exponent = other.exponent)
    (same : d.toRat = other.toRat) : d = other := by
  have unit : (10 : ℚ) ^ other.exponent ≠ 0 := zpow_ne_zero _ (by norm_num)
  rw [toRat, toRat, exponent] at same
  have digits : d.digits = other.digits := by exact_mod_cast mul_right_cancel₀ unit same
  cases d
  cases other
  cases exponent
  cases digits
  rfl

theorem toRat_of_nonneg (whole : 0 ≤ d.exponent) :
    d.toRat = (d.digits * 10 ^ d.exponent.toNat : Nat) := by
  rw [toRat]
  push_cast
  rw [← zpow_natCast, Int.toNat_of_nonneg whole]

theorem digitChars_mul_pow {n : Nat} (some : 0 < n) (count : Nat) :
    digitChars (n * 10 ^ count) = digitChars n ++ zeros count := by
  induction count with
  | zero => rw [Nat.pow_zero, Nat.mul_one, zeros, List.replicate_zero, List.append_nil]
  | succ count ih =>
    have large : 10 ≤ n * 10 ^ (count + 1) := by
      rw [Nat.pow_succ, ← Nat.mul_assoc]
      exact Nat.le_mul_of_pos_left 10 (Nat.mul_pos some (Nat.pow_pos (by decide)))
    rw [digitChars, Nat.toDigits_of_base_le (by decide) large, Nat.pow_succ, ← Nat.mul_assoc,
      Nat.mul_div_cancel _ (by decide), Nat.mul_mod_left, ← digitChars, ih, List.append_assoc]
    exact congrArg (digitChars n ++ ·) List.replicate_succ'.symm

theorem digitChars_inj {m n : Nat} : digitChars m = digitChars n ↔ m = n := by
  refine ⟨fun same => ?_, congrArg digitChars⟩
  rw [← digitsValue_digitChars m, same, digitsValue_digitChars]

/-- The text of an integral decimal has the digits of the integer. -/
theorem positional_eq_digitChars_iff (whole : 0 ≤ d.exponent) (some : d.digits = 0 → d.exponent = 0)
    {n : Nat} : d.positional = digitChars n ↔ d.toRat = n := by
  have text : d.positional = digitChars (d.digits * 10 ^ d.exponent.toNat) := by
    unfold positional
    dsimp only
    rw [if_pos whole]
    rcases Nat.eq_zero_or_pos d.digits with none | some'
    · rw [none, some none]
      rfl
    · rw [digitChars_mul_pow some']
  rw [text, digitChars_inj, toRat_of_nonneg whole, Nat.cast_inj]

end Decimal

namespace NumberFormat

open RecipeEngine.Dyadic (isNegative magnitudeBits)

variable {x : Float} {tie : Tie} {n : Nat} {k : Int}

theorem shortest_of_zero (zero : magnitudeBits x = 0) (tie : Tie) : shortest tie x = ⟨0, 0⟩ :=
  if_pos zero

theorem shortest_of_ne_zero (some : magnitudeBits x ≠ 0) (tie : Tie) :
    shortest tie x = (Dyadic.ofBits (magnitudeBits x)).shortest tie :=
  if_neg some

theorem mantissa_pos (some : magnitudeBits x ≠ 0) :
    0 < (Dyadic.ofBits (magnitudeBits x)).mantissa :=
  (Dyadic.ofBits_normal (Nat.pos_of_ne_zero some)).1

theorem exponent_shortest_eq (x : Float) (tie other : Tie) :
    (shortest tie x).exponent = (shortest other x).exponent := by
  by_cases zero : magnitudeBits x = 0
  · rw [shortest_of_zero zero, shortest_of_zero zero]
  · rw [shortest_of_ne_zero zero, shortest_of_ne_zero zero]
    exact Dyadic.exponent_shortest_eq (mantissa_pos zero) tie other

theorem toRat_shortest_pos (finite : x.isFinite = true) (some : magnitudeBits x ≠ 0) (tie : Tie) :
    0 < (shortest tie x).toRat := by
  rw [shortest_of_ne_zero some]
  exact (two_zpow_pos _).trans_le (Dyadic.range_of_contains (Nat.pos_of_ne_zero some)
    (Dyadic.isFinite_iff.mp finite) (Dyadic.contains_shortest (mantissa_pos some) tie)).1

/-- Only zero has a shortest decimal without a digit other than zero. -/
theorem digits_shortest_eq_zero_iff (finite : x.isFinite = true) :
    (shortest tie x).digits = 0 ↔ magnitudeBits x = 0 := by
  constructor
  · intro none
    by_contra some
    have positive := toRat_shortest_pos finite some tie
    rw [Decimal.toRat, none, Nat.cast_zero, zero_mul] at positive
    exact lt_irrefl _ positive
  · intro zero
    rw [shortest_of_zero zero]

theorem exponent_nonneg_of_toRat_eq (finite : x.isFinite = true)
    (value : (shortest tie x).toRat = n) : 0 ≤ (shortest tie x).exponent := by
  by_cases zero : magnitudeBits x = 0
  · rw [shortest_of_zero zero]
  · have positive := toRat_shortest_pos finite zero tie
    rw [value, Nat.cast_pos] at positive
    rw [shortest_of_ne_zero zero] at value ⊢
    have inside := Dyadic.contains_shortest (mantissa_pos zero) tie
    rw [value] at inside
    exact Dyadic.exponent_shortest_nonneg (mantissa_pos zero) positive inside tie

/-- The shortest decimal has the text of an integer exactly if it is the integer. -/
theorem positional_shortest_eq_iff (finite : x.isFinite = true) :
    (shortest tie x).positional = Decimal.digitChars n ↔ (shortest tie x).toRat = n := by
  by_cases whole : 0 ≤ (shortest tie x).exponent
  · refine Decimal.positional_eq_digitChars_iff whole fun none => ?_
    rw [shortest_of_zero ((digits_shortest_eq_zero_iff finite).mp none)]
  · refine iff_of_false (fun same => ?_) fun value =>
      whole (exponent_nonneg_of_toRat_eq finite value)
    have point := Decimal.point_mem_positional_iff.mpr (Int.not_le.mp whole)
    rw [same] at point
    cases Decimal.digits_digitChars _ '.' point

theorem signed_inj {left right : List Char} : signed x left = signed x right ↔ left = right := by
  rw [signed, signed, String.ofList_inj]
  split
  · exact List.cons_inj_right _
  · rfl

/-- A float is written alike in JSON and for people if it has a fraction, needs no exponent in JSON,
and has the same shortest decimal however a tie is broken. -/
theorem json_eq_plain_iff (finite : x.isFinite = true) :
    json x = plain x ↔ (shortest .even x).exponent < 0 ∧ -5 ≤ (shortest .even x).leadingPower ∧
      (shortest .even x).leadingPower < 16 ∧ shortest .up x = shortest .even x := by
  have places := exponent_shortest_eq x .up .even
  have noPoint : 0 ≤ (shortest .even x).exponent → '.' ∉ (shortest .up x).positional := by
    intro whole point
    have less := Decimal.point_mem_positional_iff.mp point
    omega
  have noLetter : 'e' ∉ (shortest .up x).positional := by
    intro letter
    rcases Decimal.mem_positional letter with digit | point
    · cases digit
    · cases point
  have integral : (shortest .even x).digits = 0 → (shortest .even x).exponent = 0 := fun none => by
    rw [shortest_of_zero ((digits_shortest_eq_zero_iff finite).mp none)]
  rw [json, plain, if_pos finite]
  generalize shortest .even x = d at *
  generalize shortest .up x = u at *
  by_cases none : d.digits = 0
  · rw [if_pos none, signed_inj]
    refine iff_of_false (fun same => noPoint (integral none).ge (same ▸ by decide)) fun places => ?_
    exact places.1.ne (integral none)
  · rw [if_neg none]
    by_cases range : -5 ≤ d.leadingPower ∧ d.leadingPower < 16
    · rw [if_pos range, signed_inj]
      by_cases whole : 0 ≤ d.exponent
      · rw [if_pos whole]
        have point : '.' ∈ d.positional ++ ".0".toList := List.mem_append_right _ (by decide)
        exact iff_of_false (fun same => noPoint whole (same ▸ point)) fun less => by omega
      · rw [if_neg whole, List.append_nil]
        refine ⟨fun same => ⟨Int.not_le.mp whole, range.1, range.2, ?_⟩, fun agree => ?_⟩
        · exact Decimal.eq_of_toRat_eq places (Decimal.toRat_eq_of_positional_eq same.symm)
        · rw [agree.2.2.2]
    · rw [if_neg range, signed_inj]
      have letter : 'e' ∈ d.scientific := List.mem_append_right _ List.mem_cons_self
      exact iff_of_false (fun same => noLetter (same ▸ letter)) fun agree =>
        range ⟨agree.2.1, agree.2.2.1⟩

theorem isNegative_ofInt (k : Int) : isNegative (Scalar.ofInt k) = decide (k < 0) :=
  Dyadic.isNegative_withSign (Decimal.magnitude_le _)

theorem compact_integer (k : Int) : (Json.integer k).compact = String.ofList
    (if decide (k < 0) = true then '-' :: Decimal.digitChars k.natAbs
      else Decimal.digitChars k.natAbs) := by
  refine congrArg String.ofList ?_
  show (toString k).toList = _
  cases k with
  | ofNat n => exact Json.toList_toString_ofNat n
  | negSucc n =>
    rw [if_pos (decide_eq_true (Int.negSucc_lt_zero n))]
    exact Json.toList_toString_negSucc n

/-- An integer is written alike in JSON and for people if it is its own shortest decimal. -/
theorem compact_integer_eq_plain_iff (finite : (Scalar.ofInt k).isFinite = true) :
    (Json.integer k).compact = plain (Scalar.ofInt k) ↔
      (shortest .up (Scalar.ofInt k)).toRat = k.natAbs := by
  rw [compact_integer, plain, if_pos finite, ← positional_shortest_eq_iff finite,
    ← isNegative_ofInt]
  exact signed_inj.trans eq_comm

theorem shortest_ofInt (small : k.natAbs < 9007199254740992) :
    (Scalar.ofInt k).isFinite = true ∧ (shortest .up (Scalar.ofInt k)).toRat = k.natAbs := by
  have magnitude : magnitudeBits (Scalar.ofInt k) = Decimal.magnitude ⟨k.natAbs, 0⟩ :=
    Dyadic.magnitudeBits_withSign (Decimal.magnitude_le _)
  rw [Dyadic.isFinite_iff]
  rcases Nat.eq_zero_or_pos k.natAbs with zero | positive
  · rw [zero] at magnitude ⊢
    have none : magnitudeBits (Scalar.ofInt k) = 0 := magnitude
    rw [shortest_of_zero none, none]
    exact ⟨by decide, zero_mul _⟩
  · obtain ⟨bits, some, finite, unit, value⟩ := Dyadic.exists_ofBits_eq positive small
    have normal := (Dyadic.ofBits_normal some).1
    have inside := Dyadic.contains_value normal
    rw [value] at inside
    have whole : Decimal.toRat ⟨k.natAbs, 0⟩ = k.natAbs := by
      rw [Decimal.toRat, zpow_zero, mul_one]
    rw [Decimal.magnitude_of_contains some finite (by rwa [whole])] at magnitude
    refine ⟨by rwa [magnitude], ?_⟩
    rw [shortest_of_ne_zero (by omega), magnitude]
    have integral := Dyadic.exponent_shortest_nonneg normal positive inside .up
    have contained := Dyadic.contains_shortest normal .up
    rw [Decimal.toRat_of_nonneg integral] at contained ⊢
    exact congrArg Nat.cast (Dyadic.eq_of_contains normal unit value contained)

end NumberFormat

end RecipeEngine
