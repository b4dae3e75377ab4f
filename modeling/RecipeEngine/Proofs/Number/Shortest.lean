import RecipeEngine.Number.Format
import RecipeEngine.Proofs.Number.Nearest
import RecipeEngine.Proofs.Number.Negation
import RecipeEngine.Proofs.Number.Reading

namespace RecipeEngine

def Decimal.toRat (d : Decimal) : ℚ := d.digits * 10 ^ d.exponent

theorem Decimal.toRat_eq_div (d : Decimal) :
    d.toRat = (d.digits * tenTo d.exponent.toNat : Nat) / (tenTo (-d.exponent).toNat : Nat) := by
  rw [toRat, Nat.cast_mul, mul_div_assoc, tenTo_div]

namespace Dyadic

namespace Interval

variable {i : Interval} {tie : Tie} {power : Int}

theorem contains_gridPoint {digits : Nat} (point : i.gridPoint? tie power = some digits) :
    i.Contains (Decimal.toRat ⟨digits, power⟩) := by
  rw [Decimal.toRat_eq_div, ← holds_iff (tenTo_pos _)]
  unfold gridPoint? at point
  dsimp only at point
  split at point
  · cases point
    split <;> assumption
  · cases point
    assumption
  · cases point
    assumption
  · cases point

/-- An interval has a point on each grid that its centre is on. -/
theorem gridPoint?_isSome (centre : i.Contains (i.centre * 2 ^ i.exponent))
    (divides : twoTo (-i.exponent).toNat * tenTo power.toNat ∣
      i.centre * twoTo i.exponent.toNat * tenTo (-power).toNat) :
    (i.gridPoint? tie power).isSome = true := by
  obtain ⟨below, exact⟩ := divides
  have scale : 0 < twoTo (-i.exponent).toNat * tenTo power.toNat :=
    Nat.mul_pos (twoTo_pos _) (tenTo_pos _)
  have holds : i.holds (below * tenTo power.toNat) (tenTo (-power).toNat) = true := by
    rw [holds_iff (tenTo_pos _)]
    have parts : (tenTo (-power).toNat : ℚ) ≠ 0 := by exact_mod_cast (tenTo_pos _).ne'
    have down : (twoTo (-i.exponent).toNat : ℚ) ≠ 0 := by exact_mod_cast (twoTo_pos _).ne'
    have same : ((below * tenTo power.toNat : Nat) : ℚ) / tenTo (-power).toNat =
        i.centre * 2 ^ i.exponent := by
      rw [← twoTo_div, ← mul_div_assoc, div_eq_div_iff parts down]
      exact_mod_cast (by rw [exact]; ring :
        below * tenTo power.toNat * twoTo (-i.exponent).toNat =
          i.centre * twoTo i.exponent.toNat * tenTo (-power).toNat)
    rw [same]
    exact centre
  unfold gridPoint?
  dsimp only
  rw [exact, Nat.mul_div_cancel_left below scale, holds]
  split <;> first | rfl | contradiction

/-- The search ends inside the interval if the last grid has a point there. -/
theorem contains_coarsest {steps : Nat} (last : (i.gridPoint? tie (power - steps)).isSome = true) :
    i.Contains (i.coarsest tie power steps).toRat := by
  induction steps generalizing power with
  | zero =>
    rw [Int.natCast_zero, Int.sub_zero] at last
    obtain ⟨digits, point⟩ := Option.isSome_iff_exists.mp last
    rw [coarsest, point]
    exact contains_gridPoint point
  | succ steps ih =>
    rw [coarsest]
    split
    · rename_i digits point
      exact contains_gridPoint point
    · apply ih
      rwa [show power - 1 - (steps : Int) = power - (steps + 1 : Nat) by omega]

end Interval

variable {d : Dyadic} {tie : Tie}

theorem contains_centre (some : 0 < d.mantissa) :
    d.interval.Contains (d.interval.centre * 2 ^ d.interval.exponent) := by
  have unit := two_zpow_pos d.interval.exponent
  have low : (d.interval.low : ℚ) < d.interval.centre := by
    rw [Nat.cast_lt]
    unfold interval
    dsimp only
    split <;> omega
  have high : (d.interval.centre : ℚ) < d.interval.high := by
    rw [Nat.cast_lt]
    unfold interval
    dsimp only
    omega
  unfold Interval.Contains
  split
  · exact ⟨by nlinarith, by nlinarith⟩
  · exact ⟨by nlinarith, by nlinarith⟩

/-- A dyadic number is an integer, or a multiple of the power of ten with its exponent. -/
theorem centre_on_grid (d : Dyadic) :
    twoTo (-d.interval.exponent).toNat * tenTo (min d.exponent 0).toNat ∣
      d.interval.centre * twoTo d.interval.exponent.toNat * tenTo (-min d.exponent 0).toNat := by
  have four : twoTo (-d.interval.exponent).toNat ∣ 4 * tenTo (-min d.exponent 0).toNat := by
    have fewer : (-d.interval.exponent).toNat ≤ 2 + (-min d.exponent 0).toNat := by
      unfold interval
      dsimp only
      omega
    have pow : 2 ^ (2 + (-min d.exponent 0).toNat) ∣ 4 * 10 ^ (-min d.exponent 0).toNat := by
      rw [Nat.pow_add, show (10 : Nat) = 2 * 5 from rfl, Nat.mul_pow]
      exact Nat.mul_dvd_mul_left 4 (Nat.dvd_mul_right _ _)
    exact (Nat.pow_dvd_pow 2 fewer).trans pow
  have whole : tenTo (min d.exponent 0).toNat = 1 := by
    rw [show (min d.exponent 0).toNat = 0 by omega]
    rfl
  rw [whole, Nat.mul_one, show d.interval.centre = 4 * d.mantissa from rfl]
  have reordered : 4 * d.mantissa * twoTo d.interval.exponent.toNat *
      tenTo (-min d.exponent 0).toNat = 4 * tenTo (-min d.exponent 0).toNat *
        (d.mantissa * twoTo d.interval.exponent.toNat) := by ring
  rw [reordered]
  exact four.mul_right _

theorem contains_shortest (some : 0 < d.mantissa) (tie : Tie) :
    d.interval.Contains (d.shortest tie).toRat := by
  have above : min d.exponent 0 ≤ d.decimalBound := by
    unfold decimalBound
    omega
  unfold shortest
  dsimp only
  apply Interval.contains_coarsest
  rw [show d.decimalBound - ((d.decimalBound - min d.exponent 0).toNat : Int) = min d.exponent 0 by
    omega]
  exact Interval.gridPoint?_isSome (contains_centre some) d.centre_on_grid

/-- The numbers in the interval of a finite double are in the range of doubles. -/
theorem range_of_contains {bits : Nat} {x : ℚ} (some : 0 < bits) (finite : bits < infinityBits)
    (inside : (ofBits bits).interval.Contains x) :
    (2 : ℚ) ^ (-1075 : Int) ≤ x ∧ x < 2 ^ (1024 : Int) := by
  obtain ⟨mantissaPositive, mantissaLess, least, -⟩ := ofBits_normal some
  obtain ⟨low, high, -, -⟩ := interval_bounds mantissaPositive inside
  have most : (ofBits bits).exponent ≤ 971 := by
    have implicit : twoTo 52 = 4503599627370496 := rfl
    unfold infinityBits at finite
    unfold ofBits
    rw [implicit] at finite ⊢
    split_ifs <;> dsimp only <;> omega
  generalize ofBits bits = d at *
  have unit := two_zpow_pos d.exponent
  have one : (1 : ℚ) ≤ d.mantissa := by exact_mod_cast mantissaPositive
  have top : (d.mantissa : ℚ) ≤ 9007199254740991 := by exact_mod_cast Nat.le_of_lt_succ mantissaLess
  have bottom : (2 : ℚ) ^ (-1075 : Int) * 2 ≤ 2 ^ d.exponent := by
    rw [← two_zpow_add_one]
    exact zpow_le_zpow_right₀ (by norm_num) least
  have ceiling : (2 : ℚ) ^ d.exponent * 9007199254740992 ≤ 2 ^ (1024 : Int) := by
    have split : (2 : ℚ) ^ (1024 : Int) = 2 ^ (971 : Int) * 9007199254740992 := by
      rw [show (1024 : Int) = 971 + 53 from rfl, zpow_add₀ (by norm_num)]
      norm_num
    rw [split]
    exact mul_le_mul_of_nonneg_right (zpow_le_zpow_right₀ (by norm_num) most) (by norm_num)
  rw [le_div_iff₀ unit] at low
  rw [div_le_iff₀ unit] at high
  have inner : (d.mantissa + 1 / 2 : ℚ) * 2 ^ d.exponent < 2 ^ d.exponent * 9007199254740992 := by
    nlinarith
  exact ⟨by nlinarith, high.trans_lt (inner.trans_le ceiling)⟩

end Dyadic

namespace Decimal

open RecipeEngine.Dyadic (infinityBits ofBits)

variable {d : Decimal}

/-- A decimal with an exponent too large for a double is above all of them. -/
theorem exponent_le (some : 0 < d.digits) (less : d.toRat < 2 ^ (1024 : Int)) :
    d.exponent ≤ 310 := by
  by_contra more
  have one : (1 : ℚ) ≤ d.digits := by exact_mod_cast some
  have large : (10 : ℚ) ^ (311 : Int) ≤ 10 ^ d.exponent :=
    zpow_le_zpow_right₀ (by norm_num) (by omega)
  have beyond : (2 : ℚ) ^ (1024 : Int) < 10 ^ (311 : Int) := by
    have natural : 2 ^ 1024 < 10 ^ 311 := by decide +kernel
    rw [zpow_ofNat, zpow_ofNat]
    exact_mod_cast natural
  have unit : (0 : ℚ) < 10 ^ d.exponent := zpow_pos (by norm_num) _
  have grown : (10 : ℚ) ^ d.exponent ≤ d.toRat := le_mul_of_one_le_left unit.le one
  exact (beyond.trans_le (large.trans grown)).not_gt less

/-- A decimal all of whose digits are too low for a double is below all of them. -/
theorem le_exponent (more : (2 : ℚ) ^ (-1075 : Int) ≤ d.toRat) :
    -330 ≤ d.exponent + Nat.log2 d.digits + 1 := by
  by_contra less
  have unit : (0 : ℚ) < 10 ^ d.exponent := zpow_pos (by norm_num) _
  have bits : (d.digits : ℚ) < 10 ^ (Nat.log2 d.digits + 1) := by
    have binary : (d.digits : ℚ) < 2 ^ (Nat.log2 d.digits + 1) := by exact_mod_cast Nat.lt_log2_self
    exact binary.trans_le (pow_le_pow_left₀ (by norm_num) (by norm_num) _)
  have small : (10 : ℚ) ^ (Nat.log2 d.digits + 1) * 10 ^ d.exponent ≤ 10 ^ (-331 : Int) := by
    rw [← zpow_natCast, ← zpow_add₀ (by norm_num)]
    exact zpow_le_zpow_right₀ (by norm_num) (by push_cast; omega)
  have beyond : (10 : ℚ) ^ (-331 : Int) < 2 ^ (-1075 : Int) := by
    have natural : 2 ^ 1075 < 10 ^ 331 := by decide +kernel
    rw [zpow_neg, zpow_neg, zpow_ofNat, zpow_ofNat]
    exact inv_strictAnti₀ (by positivity) (by exact_mod_cast natural)
  have shrunk : d.toRat < 10 ^ (Nat.log2 d.digits + 1) * 10 ^ d.exponent :=
    mul_lt_mul_of_pos_right bits unit
  exact (shrunk.trans_le (small.trans beyond.le)).not_ge more

/-- Every decimal in the interval of a double is read as the double. -/
theorem magnitude_of_contains {bits : Nat} (some : 0 < bits) (finite : bits < infinityBits)
    (inside : (ofBits bits).interval.Contains d.toRat) : d.magnitude = bits := by
  obtain ⟨above, below⟩ := Dyadic.range_of_contains some finite inside
  have positive : 0 < d.digits := by
    rw [Nat.pos_iff_ne_zero]
    intro none
    have unit := two_zpow_pos (-1075)
    rw [toRat, none, Nat.cast_zero, zero_mul] at above
    exact above.not_gt unit
  have high := exponent_le positive below
  have low := le_exponent above
  rw [toRat_eq_div] at inside
  rw [magnitude, if_neg positive.ne', if_neg (by omega), if_neg (by omega)]
  exact Dyadic.nearestBits_of_contains some finite (Nat.mul_pos positive (tenTo_pos _))
    (tenTo_pos _) inside

theorem magnitude_of_zero (zero : d.toRat = 0) : d.magnitude = 0 := by
  have unit : (10 : ℚ) ^ d.exponent ≠ 0 := zpow_ne_zero _ (by norm_num)
  have none : d.digits = 0 := by
    rw [toRat, mul_eq_zero, Nat.cast_eq_zero] at zero
    exact zero.resolve_right unit
  rw [magnitude, if_pos none]

theorem digits_digitChars (n : Nat) : Numeral.Digits (digitChars n) :=
  fun _ member => Nat.isDigit_of_mem_toDigits (by decide) (by decide) member

theorem digits_zeros (count : Nat) : Numeral.Digits (zeros count) := by
  intro c member
  rw [List.eq_of_mem_replicate member]
  rfl

theorem digitsValue_eq (cs : List Char) : Numeral.digitsValue cs = Nat.ofDigitChars 10 cs 0 := rfl

theorem digitsValue_digitChars (n : Nat) : Numeral.digitsValue (digitChars n) = n :=
  Nat.ofDigitChars_ten_toDigits

/-- Zeros before the digits do not count, and those after them shift the digits up. -/
theorem digitsValue_zeros_append (count : Nat) (cs : List Char) :
    Numeral.digitsValue (zeros count ++ cs) = Numeral.digitsValue cs := by
  rw [digitsValue_eq, digitsValue_eq, Nat.ofDigitChars_append, zeros,
    Nat.ofDigitChars_replicate_zero, Nat.mul_zero]

theorem digitsValue_append_zeros (cs : List Char) (count : Nat) :
    Numeral.digitsValue (cs ++ zeros count) = 10 ^ count * Numeral.digitsValue cs := by
  rw [digitsValue_eq, digitsValue_eq, Nat.ofDigitChars_append, zeros,
    Nat.ofDigitChars_replicate_zero]

theorem value_plain (whole fraction : List Char) :
    Numeral.value ⟨whole, fraction, none⟩ =
      ⟨Numeral.digitsValue (whole ++ fraction), -fraction.length⟩ := by
  rw [Numeral.value]
  dsimp only
  rw [Int.zero_sub]

theorem spells_positional (d : Decimal) :
    ∃ n, Numeral.Spells n d.positional ∧ n.value.toRat = d.toRat := by
  have isDigits := digits_digitChars d.digits
  have nonempty : digitChars d.digits ≠ [] := Nat.toDigits_ne_nil
  have value := digitsValue_digitChars d.digits
  unfold positional
  dsimp only
  generalize digitChars d.digits = digits at *
  split_ifs with whole point
  · have padded := isDigits.append (digits_zeros d.exponent.toNat)
    have spelled := Numeral.spells_plain padded .none
      (List.append_ne_nil_of_left_ne_nil nonempty _)
    rw [List.append_nil] at spelled
    refine ⟨_, spelled, ?_⟩
    have power : (10 : ℚ) ^ d.exponent.toNat = 10 ^ d.exponent := by
      rw [← zpow_natCast, Int.toNat_of_nonneg whole]
    rw [value_plain, List.append_nil, digitsValue_append_zeros, value, toRat, toRat, Nat.cast_mul,
      Nat.cast_pow, Nat.cast_ofNat, power, mul_comm (10 ^ d.exponent : ℚ)]
    exact mul_one _
  · have some : digits.take (digits.length - (-d.exponent).toNat) ≠ [] := by
      rw [← List.length_pos_iff, List.length_take]
      omega
    have length : (digits.drop (digits.length - (-d.exponent).toNat)).length =
        (-d.exponent).toNat := by
      rw [List.length_drop]
      omega
    refine ⟨_, Numeral.spells_plain (fun c member => isDigits c (List.mem_of_mem_take member))
      (.point fun c member => isDigits c (List.mem_of_mem_drop member)) some, ?_⟩
    rw [value_plain, List.take_append_drop, value, length,
      show -((-d.exponent).toNat : Int) = d.exponent by omega]
  · have length : (zeros ((-d.exponent).toNat - digits.length) ++ digits).length =
        (-d.exponent).toNat := by
      rw [List.length_append, zeros, List.length_replicate]
      omega
    have spelled := Numeral.spells_plain (digits_zeros 1)
      (.point ((digits_zeros ((-d.exponent).toNat - digits.length)).append isDigits))
      (List.cons_ne_nil _ _)
    refine ⟨_, spelled, ?_⟩
    rw [value_plain, digitsValue_zeros_append, digitsValue_zeros_append, value, length,
      show -((-d.exponent).toNat : Int) = d.exponent by omega]

end Decimal

namespace NumberFormat

open RecipeEngine.Dyadic (isNegative magnitudeBits)

/-- Every decimal for the same number as the shortest one is read as the double. -/
theorem magnitude_of_shortest {x : Float} {tie : Tie} {d : Decimal} (finite : x.isFinite = true)
    (same : d.toRat = (shortest tie x).toRat) : d.magnitude = magnitudeBits x := by
  unfold shortest at same
  dsimp only at same
  split at same
  · rename_i zero
    rw [zero]
    exact Decimal.magnitude_of_zero (same.trans (zero_mul _))
  · rename_i nonzero
    have some := Nat.pos_of_ne_zero nonzero
    apply Decimal.magnitude_of_contains some (Dyadic.isFinite_iff.mp finite)
    rw [same]
    exact Dyadic.contains_shortest (Dyadic.ofBits_normal some).1 tie

/-- The text of a finite number is a numeral after the sign of the number, and the number is the
double nearest to it. -/
theorem plain_spells {x : Float} (finite : x.isFinite = true) :
    ∃ n body, Numeral.Spells n body ∧
      plain x = String.ofList (if isNegative x then '-' :: body else body) ∧
      n.value.toFloat (isNegative x) = x := by
  obtain ⟨n, spelled, value⟩ := (shortest .up x).spells_positional
  refine ⟨n, _, spelled, by rw [plain, if_pos finite, signed], ?_⟩
  rw [Decimal.toFloat, magnitude_of_shortest finite value, Dyadic.withSign_magnitudeBits]

end NumberFormat

end RecipeEngine
