import Mathlib.Algebra.Order.Field.Power
import Mathlib.Data.Rat.Cast.Order
import Mathlib.Tactic.FieldSimp
import Mathlib.Tactic.Linarith
import Mathlib.Tactic.NormNum
import Mathlib.Tactic.Positivity
import Mathlib.Tactic.Ring
import RecipeEngine.Number.Nearest
import RecipeEngine.Number.Shortest

namespace RecipeEngine

theorem zpow_eq_div (base : ℚ) (e : Int) : base ^ e = base ^ e.toNat / base ^ (-e).toNat := by
  rcases Int.le_total 0 e with up | down
  · obtain ⟨n, rfl⟩ := Int.eq_ofNat_of_zero_le up
    simp
  · obtain ⟨n, rfl⟩ := Int.exists_eq_neg_ofNat down
    simp

theorem cast_twoTo (n : Nat) : (twoTo n : ℚ) = 2 ^ n := by
  rw [show twoTo n = 2 ^ n from rfl, Nat.cast_pow, Nat.cast_ofNat]

theorem cast_tenTo (n : Nat) : (tenTo n : ℚ) = 10 ^ n := by
  rw [show tenTo n = 10 ^ n from rfl, Nat.cast_pow, Nat.cast_ofNat]

theorem twoTo_div (e : Int) : (twoTo e.toNat : ℚ) / twoTo (-e).toNat = 2 ^ e := by
  rw [zpow_eq_div, cast_twoTo, cast_twoTo]

theorem tenTo_div (e : Int) : (tenTo e.toNat : ℚ) / tenTo (-e).toNat = 10 ^ e := by
  rw [zpow_eq_div, cast_tenTo, cast_tenTo]

theorem two_zpow_pos (e : Int) : (0 : ℚ) < 2 ^ e := zpow_pos (by norm_num) e

theorem two_zpow_add_one (e : Int) : (2 : ℚ) ^ (e + 1) = 2 ^ e * 2 := zpow_add_one₀ (by norm_num) e

theorem two_zpow_sub_one (e : Int) : (2 : ℚ) ^ (e - 1) = 2 ^ e / 2 := by
  rw [zpow_sub_one₀ (by norm_num), div_eq_mul_inv]

/-- A quotient within half a unit of a natural number is rounded to it; just half a unit away from
it only if it is even. -/
theorem roundHalfEven_eq {num den m : Nat} (positive : 0 < den)
    (low : (m : ℚ) - 1 / 2 ≤ num / den) (high : (num : ℚ) / den ≤ m + 1 / 2)
    (inside : m % 2 = 1 → (m : ℚ) - 1 / 2 < num / den ∧ (num : ℚ) / den < m + 1 / 2) :
    roundHalfEven num den = m := by
  have cast : (0 : ℚ) < den := by exact_mod_cast positive
  have below : 2 * (m * den) ≤ 2 * num + den := by
    rw [le_div_iff₀ cast] at low
    exact_mod_cast (by linarith : (2 : ℚ) * (m * den) ≤ 2 * num + den)
  have above : 2 * num ≤ 2 * (m * den) + den := by
    rw [div_le_iff₀ cast] at high
    exact_mod_cast (by linarith : (2 : ℚ) * num ≤ 2 * (m * den) + den)
  have strict : m % 2 = 1 → 2 * (m * den) < 2 * num + den ∧ 2 * num < 2 * (m * den) + den := by
    intro odd
    obtain ⟨left, right⟩ := inside odd
    rw [lt_div_iff₀ cast] at left
    rw [div_lt_iff₀ cast] at right
    exact ⟨by exact_mod_cast (by linarith : (2 : ℚ) * (m * den) < 2 * num + den),
      by exact_mod_cast (by linarith : (2 : ℚ) * num < 2 * (m * den) + den)⟩
  have split := Nat.div_add_mod num den
  have rest := Nat.mod_lt num positive
  rw [Nat.mul_comm] at split
  unfold roundHalfEven
  dsimp only
  generalize num / den = quotient at split ⊢
  generalize num % den = remainder at split rest ⊢
  have atMost : quotient ≤ m := by
    by_contra more
    have := Nat.mul_le_mul_right den (Nat.lt_of_not_le more)
    rw [Nat.succ_mul] at this
    omega
  have atLeast : m ≤ quotient + 1 := by
    by_contra more
    have := Nat.mul_le_mul_right den (Nat.lt_of_not_le more)
    rw [Nat.succ_mul, Nat.succ_mul] at this
    omega
  rcases Nat.eq_or_lt_of_le atMost with rfl | less
  · split_ifs <;> omega
  · obtain rfl : m = quotient + 1 := by omega
    rw [Nat.add_one_mul quotient] at below above strict
    split_ifs <;> omega

namespace Dyadic

theorem floorLog2_spec {num den : Nat} (some : 0 < num) (positive : 0 < den) :
    (2 : ℚ) ^ floorLog2 num den ≤ num / den ∧ (num : ℚ) / den < 2 ^ (floorLog2 num den + 1) := by
  have castNum : (0 : ℚ) < num := by exact_mod_cast some
  have castDen : (0 : ℚ) < den := by exact_mod_cast positive
  have numLow : (2 : ℚ) ^ Nat.log2 num ≤ num := by exact_mod_cast Nat.log2_self_le some.ne'
  have numHigh : (num : ℚ) < 2 ^ (Nat.log2 num + 1) := by exact_mod_cast Nat.lt_log2_self
  have denLow : (2 : ℚ) ^ Nat.log2 den ≤ den := by exact_mod_cast Nat.log2_self_le positive.ne'
  have denHigh : (den : ℚ) < 2 ^ (Nat.log2 den + 1) := by exact_mod_cast Nat.lt_log2_self
  have power : (2 : ℚ) ^ ((Nat.log2 num : Int) - Nat.log2 den) =
      2 ^ Nat.log2 num / 2 ^ Nat.log2 den := by
    rw [zpow_sub₀ (by norm_num), zpow_natCast, zpow_natCast]
  have compared : ∀ e : Int, num * twoTo (-e).toNat < den * twoTo e.toNat ↔
      (num : ℚ) / den < 2 ^ e := by
    intro e
    have up : (0 : ℚ) < twoTo (-e).toNat := by exact_mod_cast twoTo_pos _
    rw [← twoTo_div, div_lt_div_iff₀ castDen up, mul_comm (twoTo e.toNat : ℚ)]
    exact_mod_cast Iff.rfl
  unfold floorLog2
  dsimp only
  generalize (Nat.log2 num : Int) - Nat.log2 den = e at power
  rw [pow_succ] at numHigh denHigh
  have two : (0 : ℚ) < 2 ^ Nat.log2 den := by positivity
  split_ifs with less
  · rw [compared] at less
    refine ⟨?_, by rwa [Int.sub_add_cancel]⟩
    rw [two_zpow_sub_one, power, div_div, div_le_div_iff₀ (by positivity) castDen]
    nlinarith
  · rw [compared, not_lt] at less
    refine ⟨less, ?_⟩
    rw [two_zpow_add_one, power, div_mul_eq_mul_div, div_lt_div_iff₀ castDen two]
    nlinarith

/-- The greatest power of two at most a quotient, determined by its bounds. -/
theorem floorLog2_lt {num den : Nat} (some : 0 < num) (positive : 0 < den) {e : Int}
    (less : (num : ℚ) / den < 2 ^ e) : floorLog2 num den < e :=
  (zpow_lt_zpow_iff_right₀ (by norm_num : (1 : ℚ) < 2)).mp
    ((floorLog2_spec some positive).1.trans_lt less)

theorem le_floorLog2 {num den : Nat} (some : 0 < num) (positive : 0 < den) {e : Int}
    (less : (2 : ℚ) ^ e ≤ num / den) : e ≤ floorLog2 num den :=
  Int.lt_add_one_iff.mp ((zpow_lt_zpow_iff_right₀ (by norm_num : (1 : ℚ) < 2)).mp
    (less.trans_lt (floorLog2_spec some positive).2))

/-- A number lies in an interval, whose ends belong to it if it is closed. -/
def Interval.Contains (i : Interval) (x : ℚ) : Prop :=
  if i.closed = true then i.low * 2 ^ i.exponent ≤ x ∧ x ≤ i.high * 2 ^ i.exponent
  else i.low * 2 ^ i.exponent < x ∧ x < i.high * 2 ^ i.exponent

theorem Interval.holds_iff {i : Interval} {num den : Nat} (positive : 0 < den) :
    i.holds num den = true ↔ i.Contains ((num : ℚ) / den) := by
  have castDen : (0 : ℚ) < den := by exact_mod_cast positive
  have up : (0 : ℚ) < twoTo (-i.exponent).toNat := by exact_mod_cast twoTo_pos _
  have least : ∀ n : Nat, n * twoTo i.exponent.toNat * den ≤ num * twoTo (-i.exponent).toNat ↔
      (n : ℚ) * 2 ^ i.exponent ≤ num / den := by
    intro n
    rw [← twoTo_div, ← mul_div_assoc, div_le_div_iff₀ up castDen]
    exact_mod_cast Iff.rfl
  have most : ∀ n : Nat, num * twoTo (-i.exponent).toNat ≤ n * twoTo i.exponent.toNat * den ↔
      (num : ℚ) / den ≤ n * 2 ^ i.exponent := by
    intro n
    rw [← twoTo_div, ← mul_div_assoc, div_le_div_iff₀ castDen up]
    exact_mod_cast Iff.rfl
  unfold holds Contains
  dsimp only
  split_ifs
  · rw [Bool.and_eq_true, decide_eq_true_eq, decide_eq_true_eq, least, most]
  · rw [Bool.and_eq_true, decide_eq_true_eq, decide_eq_true_eq, ← not_le, ← not_le, most, least,
      not_le, not_le]

/-- A magnitude that is not zero has 53 bits, or fewer at the least exponent. -/
theorem ofBits_normal {bits : Nat} (some : 0 < bits) :
    0 < (ofBits bits).mantissa ∧ (ofBits bits).mantissa < 9007199254740992 ∧
      -1074 ≤ (ofBits bits).exponent ∧
      (-1074 < (ofBits bits).exponent → 4503599627370496 ≤ (ofBits bits).mantissa) := by
  have implicit : twoTo 52 = 4503599627370496 := rfl
  unfold ofBits
  rw [implicit]
  split_ifs <;> dsimp only <;> omega

/-- The interval of a double in its own unit. Above a power of two the interval reaches less far
down. -/
theorem interval_bounds {d : Dyadic} {x : ℚ} (some : 0 < d.mantissa)
    (inside : d.interval.Contains x) :
    (d.mantissa - 1 / 2 : ℚ) ≤ x / 2 ^ d.exponent ∧ x / 2 ^ d.exponent ≤ d.mantissa + 1 / 2 ∧
      (d.mantissa % 2 = 1 →
        (d.mantissa - 1 / 2 : ℚ) < x / 2 ^ d.exponent ∧ x / 2 ^ d.exponent < d.mantissa + 1 / 2) ∧
      (d.mantissa = twoTo 52 ∧ -1074 < d.exponent →
        (d.mantissa - 1 / 4 : ℚ) ≤ x / 2 ^ d.exponent) := by
  have unit := two_zpow_pos d.exponent
  have quarter : (2 : ℚ) ^ (d.exponent - 2) = 2 ^ d.exponent / 4 := by
    rw [show d.exponent - 2 = d.exponent - 1 - 1 by omega, two_zpow_sub_one, two_zpow_sub_one]
    ring
  rw [le_div_iff₀ unit, div_le_iff₀ unit, lt_div_iff₀ unit, div_lt_iff₀ unit, le_div_iff₀ unit]
  have wide : ((4 * d.mantissa - 2 : Nat) : ℚ) = 4 * d.mantissa - 2 := by
    rw [Nat.cast_sub (by omega)]
    push_cast
    rfl
  have narrow : ((4 * d.mantissa - 1 : Nat) : ℚ) = 4 * d.mantissa - 1 := by
    rw [Nat.cast_sub (by omega)]
    push_cast
    rfl
  unfold Interval.Contains interval at inside
  dsimp only at inside
  rw [quarter] at inside
  generalize (2 : ℚ) ^ d.exponent = u at *
  by_cases even : d.mantissa % 2 = 0
  · rw [if_pos (by simpa using even)] at inside
    obtain ⟨low, high⟩ := inside
    push_cast at high
    refine ⟨?_, by linarith, fun odd => by omega, fun bottom => ?_⟩
    · split_ifs at low
      · rw [narrow] at low
        linarith
      · rw [wide] at low
        linarith
    · rw [if_pos bottom, narrow] at low
      linarith
  · have notBottom : ¬ (d.mantissa = twoTo 52 ∧ -1074 < d.exponent) := by
      rintro ⟨bottom, -⟩
      exact even (bottom ▸ by decide)
    rw [if_neg (by simpa using even), if_neg notBottom, wide] at inside
    obtain ⟨low, high⟩ := inside
    push_cast at high
    exact ⟨by linarith, by linarith, fun _ => ⟨by linarith, by linarith⟩,
      fun bottom => absurd bottom notBottom⟩

/-- A quotient whose 53 leading bits round to a mantissa has the magnitude with that mantissa. -/
theorem nearestBits_eq {num den m : Nat} {e : Int} (positive : 0 < den)
    (place : max (floorLog2 num den - 52) (-1074) = e)
    (low : (m - 1 / 2 : ℚ) ≤ num / den / 2 ^ e) (high : (num / den / 2 ^ e : ℚ) ≤ m + 1 / 2)
    (inside : m % 2 = 1 →
      (m - 1 / 2 : ℚ) < num / den / 2 ^ e ∧ (num / den / 2 ^ e : ℚ) < m + 1 / 2) :
    nearestBits num den = min (toBits ⟨m, e⟩) infinityBits := by
  have scaled : ((num * twoTo (-e).toNat : Nat) : ℚ) / (den * twoTo e.toNat : Nat) =
      num / den / 2 ^ e := by
    rw [← twoTo_div]
    push_cast
    field_simp
  rw [← scaled] at low high inside
  have rounded := roundHalfEven_eq (Nat.mul_pos positive (twoTo_pos _)) low high inside
  unfold nearestBits
  dsimp only
  rw [place, rounded]

/-- The last place of a quotient that has 53 bits above `2 ^ e`, or fewer at the least exponent. -/
theorem place_eq {num den : Nat} {e : Int} (some : 0 < num) (positive : 0 < den) (least : -1074 ≤ e)
    (below : (num / den / 2 ^ e : ℚ) < 9007199254740992)
    (above : -1074 < e → (4503599627370496 : ℚ) ≤ num / den / 2 ^ e) :
    max (floorLog2 num den - 52) (-1074) = e := by
  have unit := two_zpow_pos e
  have up : floorLog2 num den < e + 53 := by
    apply floorLog2_lt some positive
    rw [div_lt_iff₀ unit] at below
    rw [zpow_add₀ (by norm_num)]
    norm_num
    linarith
  rcases Int.lt_or_eq_of_le least with more | rfl
  · have down : e + 52 ≤ floorLog2 num den := by
      apply le_floorLog2 some positive
      have above := above more
      rw [le_div_iff₀ unit] at above
      rw [zpow_add₀ (by norm_num)]
      norm_num
      linarith
    omega
  · omega

/-- Every number in the interval of a double is rounded to the double. -/
theorem nearestBits_of_contains {bits num den : Nat} (some : 0 < bits)
    (finite : bits < infinityBits) (numPositive : 0 < num) (positive : 0 < den)
    (inside : (ofBits bits).interval.Contains ((num : ℚ) / den)) : nearestBits num den = bits := by
  have restored := toBits_ofBits bits
  obtain ⟨mantissaPositive, mantissaLess, least, normal⟩ := ofBits_normal some
  obtain ⟨low, high, strict, bottom⟩ := interval_bounds mantissaPositive inside
  generalize ofBits bits = d at *
  obtain ⟨m, e⟩ := d
  dsimp only at *
  have implicit : twoTo 52 = 4503599627370496 := rfl
  have most : (m : ℚ) ≤ 9007199254740991 := by exact_mod_cast Nat.le_of_lt_succ mantissaLess
  rw [implicit] at bottom
  by_cases carries : m = 4503599627370496 ∧ -1074 < e ∧ (num / den / 2 ^ e : ℚ) < 4503599627370496
  · -- Just below a power of two the last place is half as large.
    obtain ⟨rfl, inner, less⟩ := carries
    have bottom := bottom ⟨rfl, inner⟩
    have halved : (num / den / 2 ^ (e - 1) : ℚ) = num / den / 2 ^ e * 2 := by
      rw [two_zpow_sub_one]
      field_simp
    generalize (num / den / 2 ^ e : ℚ) = t at *
    norm_num at bottom
    have place : max (floorLog2 num den - 52) (-1074) = e - 1 := by
      apply place_eq numPositive positive (by omega)
      · linarith
      · intro _
        linarith
    have rounded : nearestBits num den = min (toBits ⟨9007199254740992, e - 1⟩) infinityBits := by
      refine nearestBits_eq positive place ?_ ?_ (fun odd => absurd odd (by decide))
      · rw [halved]
        norm_num
        linarith
      · rw [halved]
        norm_num
        linarith
    have same : toBits ⟨9007199254740992, e - 1⟩ = bits := by
      rw [← restored, toBits, toBits, implicit]
      dsimp only
      omega
    rw [rounded, same, Nat.min_eq_left finite.le]
  · have place : max (floorLog2 num den - 52) (-1074) = e := by
      apply place_eq numPositive positive least
      · linarith
      · intro inner
        rcases Nat.eq_or_lt_of_le (normal inner) with rfl | more
        · exact not_lt.mp fun less => carries ⟨rfl, inner, less⟩
        · have : (4503599627370497 : ℚ) ≤ m := by exact_mod_cast more
          linarith
    rw [nearestBits_eq positive place low high strict, restored, Nat.min_eq_left finite.le]

end Dyadic

end RecipeEngine
