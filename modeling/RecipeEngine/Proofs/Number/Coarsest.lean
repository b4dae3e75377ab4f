import RecipeEngine.Proofs.Number.Shortest

namespace RecipeEngine.Dyadic

namespace Interval

variable {i : Interval} {tie : Tie} {power : Int}

theorem Contains.between {x y z : ℚ} (left : i.Contains x) (right : i.Contains y) (above : x ≤ z)
    (below : z ≤ y) : i.Contains z := by
  unfold Contains at *
  split at left
  · rename_i closed
    rw [if_pos closed] at right ⊢
    exact ⟨left.1.trans above, below.trans right.2⟩
  · rename_i opened
    rw [if_neg opened] at right ⊢
    exact ⟨left.1.trans_le above, below.trans_lt right.2⟩

theorem centre_between {below : Nat}
    (floor : i.centre * twoTo i.exponent.toNat * tenTo (-power).toNat /
      (twoTo (-i.exponent).toNat * tenTo power.toNat) = below) :
    Decimal.toRat ⟨below, power⟩ ≤ i.centre * 2 ^ i.exponent ∧
      i.centre * 2 ^ i.exponent ≤ Decimal.toRat ⟨below + 1, power⟩ := by
  have up : (0 : ℚ) < twoTo (-i.exponent).toNat := by exact_mod_cast twoTo_pos _
  have parts : (0 : ℚ) < tenTo (-power).toNat := by exact_mod_cast tenTo_pos _
  have low := Nat.div_mul_le_self (i.centre * twoTo i.exponent.toNat * tenTo (-power).toNat)
    (twoTo (-i.exponent).toNat * tenTo power.toNat)
  have high := Nat.lt_mul_div_succ (i.centre * twoTo i.exponent.toNat * tenTo (-power).toNat)
    (Nat.mul_pos (twoTo_pos (-i.exponent).toNat) (tenTo_pos power.toNat))
  rw [floor] at low high
  rw [Decimal.toRat_eq_div, Decimal.toRat_eq_div, ← twoTo_div, ← mul_div_assoc,
    div_le_div_iff₀ parts up, div_le_div_iff₀ up parts]
  constructor
  · exact_mod_cast (by linarith : below * tenTo power.toNat * twoTo (-i.exponent).toNat ≤
      i.centre * twoTo i.exponent.toNat * tenTo (-power).toNat)
  · exact_mod_cast (by linarith : i.centre * twoTo i.exponent.toNat * tenTo (-power).toNat ≤
      (below + 1) * tenTo power.toNat * twoTo (-i.exponent).toNat)

theorem holds_decimal (digits : Nat) :
    i.holds (digits * tenTo power.toNat) (tenTo (-power).toNat) = true ↔
      i.Contains (Decimal.toRat ⟨digits, power⟩) := by
  rw [Decimal.toRat_eq_div, holds_iff (tenTo_pos _)]

/-- A grid has a point for an interval exactly if it has one inside. -/
theorem isSome_gridPoint?_iff (centre : i.Contains (i.centre * 2 ^ i.exponent)) :
    (i.gridPoint? tie power).isSome = true ↔
      ∃ digits, i.Contains (Decimal.toRat ⟨digits, power⟩) := by
  constructor
  · intro found
    obtain ⟨digits, point⟩ := Option.isSome_iff_exists.mp found
    exact ⟨digits, contains_gridPoint point⟩
  · -- What is inside lies beyond one of the neighbours, which is then inside as well.
    rintro ⟨digits, inside⟩
    have ordered : ∀ m n : Nat, m ≤ n → Decimal.toRat ⟨m, power⟩ ≤ Decimal.toRat ⟨n, power⟩ := by
      intro m n less
      have unit : (0 : ℚ) < 10 ^ power := zpow_pos (by norm_num) _
      exact mul_le_mul_of_nonneg_right (by exact_mod_cast less) unit.le
    unfold gridPoint?
    dsimp only
    generalize floor : i.centre * twoTo i.exponent.toNat * tenTo (-power).toNat /
      (twoTo (-i.exponent).toNat * tenTo power.toNat) = below
    obtain ⟨low, high⟩ := centre_between floor
    rcases Nat.lt_or_ge below digits with above | least
    · have neighbour := (holds_decimal _).mpr
        (centre.between inside high (ordered _ _ above))
      rw [neighbour]
      split <;> first | rfl | contradiction
    · have neighbour := (holds_decimal _).mpr
        (inside.between centre (ordered _ _ least) low)
      rw [neighbour]
      split <;> first | rfl | contradiction

theorem exponent_coarsest_eq (centre : i.Contains (i.centre * 2 ^ i.exponent)) (tie other : Tie)
    (power : Int) (steps : Nat) :
    (i.coarsest tie power steps).exponent = (i.coarsest other power steps).exponent := by
  induction steps generalizing power with
  | zero => rfl
  | succ steps ih =>
    have same : (i.gridPoint? tie power).isSome = (i.gridPoint? other power).isSome :=
      Bool.eq_iff_iff.mpr ((isSome_gridPoint?_iff centre).trans (isSome_gridPoint?_iff centre).symm)
    rw [coarsest, coarsest]
    cases first : i.gridPoint? tie power with
    | none =>
      rw [first] at same
      have second : i.gridPoint? other power = none :=
        Option.isNone_iff_eq_none.mp (Option.isSome_eq_false_iff.mp same.symm)
      rw [second]
      exact ih (power - 1)
    | some digits =>
      rw [first] at same
      obtain ⟨others, second⟩ := Option.isSome_iff_exists.mp same.symm
      rw [second]

/-- The search does not go below a grid with a point in the interval. -/
theorem le_exponent_coarsest (centre : i.Contains (i.centre * 2 ^ i.exponent)) {d : Decimal}
    (inside : i.Contains d.toRat) {steps : Nat} (start : d.exponent ≤ power) :
    d.exponent ≤ (i.coarsest tie power steps).exponent := by
  induction steps generalizing power with
  | zero => exact start
  | succ steps ih =>
    rw [coarsest]
    cases found : i.gridPoint? tie power with
    | some digits => exact start
    | none =>
      have other : d.exponent ≠ power := by
        rintro rfl
        have point : (i.gridPoint? tie d.exponent).isSome = true :=
          (isSome_gridPoint?_iff centre).mpr ⟨d.digits, inside⟩
        rw [found] at point
        cases point
      exact ih (by omega)

end Interval

variable {d : Dyadic}

theorem exponent_shortest_eq (some : 0 < d.mantissa) (tie other : Tie) :
    (d.shortest tie).exponent = (d.shortest other).exponent :=
  Interval.exponent_coarsest_eq (contains_centre some) ..

/-- Where an interval has integers the search begins above the grid of all integers. -/
theorem decimalBound_nonneg (some : 0 < d.mantissa) {n : Nat} (positive : 0 < n)
    (inside : d.interval.Contains n) : 0 ≤ d.decimalBound := by
  obtain ⟨-, high, -, -⟩ := interval_bounds some inside
  have unit := two_zpow_pos d.exponent
  have one : (1 : ℚ) ≤ n := by exact_mod_cast positive
  have bits : (d.mantissa : ℚ) + 1 ≤ 2 ^ (Nat.log2 d.mantissa + 1 : Int) := by
    have natural : d.mantissa + 1 ≤ 2 ^ (Nat.log2 d.mantissa + 1) := Nat.lt_log2_self
    exact_mod_cast natural
  have more : (2 : ℚ) ^ (0 : Int) < 2 ^ ((Nat.log2 d.mantissa + 1 : Int) + d.exponent) := by
    rw [div_le_iff₀ unit] at high
    rw [zpow_zero, zpow_add₀ (by norm_num)]
    nlinarith
  have some := (zpow_lt_zpow_iff_right₀ (by norm_num : (1 : ℚ) < 2)).mp more
  unfold decimalBound
  omega

/-- The shortest decimal of an interval with an integer in it is an integer. -/
theorem exponent_shortest_nonneg (some : 0 < d.mantissa) {n : Nat} (positive : 0 < n)
    (inside : d.interval.Contains n) (tie : Tie) : 0 ≤ (d.shortest tie).exponent := by
  have whole : d.interval.Contains (Decimal.toRat ⟨n, 0⟩) := by
    rwa [Decimal.toRat, zpow_zero, mul_one]
  exact Interval.le_exponent_coarsest (contains_centre some) whole
    (decimalBound_nonneg some positive inside)

end RecipeEngine.Dyadic
