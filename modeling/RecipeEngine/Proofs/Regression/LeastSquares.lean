import Mathlib.Algebra.BigOperators.Ring.List
import Mathlib.Algebra.Order.BigOperators.Group.List
import Mathlib.Algebra.Order.Field.Basic
import Mathlib.Algebra.Order.Field.Rat
import Mathlib.Tactic.LinearCombination
import Mathlib.Tactic.Ring
import RecipeEngine.Regression

namespace RecipeEngine.Regression

def rationals : Numbers ℚ where
  start := 0
  ofNat n := n
  isZero x := x = 0

@[simp] theorem ofNat_rationals (n : Nat) : rationals.ofNat n = n := rfl

@[simp] theorem isZero_rationals (x : ℚ) : rationals.isZero x = decide (x = 0) := rfl

theorem total_rationals (values : List ℚ) : total rationals values = values.sum :=
  List.sum_eq_foldl.symm

section Squares

variable {α : Type} {l : List α} {f : α → ℚ}

theorem sum_sq_nonneg : 0 ≤ (l.map fun a => f a ^ 2).sum :=
  List.sum_nonneg (List.forall_mem_map.mpr fun a _ => sq_nonneg (f a))

theorem sum_sq_eq_zero_iff : (l.map fun a => f a ^ 2).sum = 0 ↔ ∀ a ∈ l, f a = 0 := by
  constructor
  · intro none a member
    have square := List.all_zero_of_le_zero_le_of_sum_eq_zero
      (List.forall_mem_map.mpr fun a _ => sq_nonneg (f a)) none (List.mem_map_of_mem member)
    exact pow_eq_zero_iff two_ne_zero |>.mp square
  · intro zero
    refine List.sum_eq_zero (List.forall_mem_map.mpr fun a member => ?_)
    rw [zero a member, zero_pow two_ne_zero]

end Squares

variable {points : List (ℚ × ℚ)}

/-- The sum of the squared distances in `y` between points and a line. -/
def residue (points : List (ℚ × ℚ)) (slope intercept : ℚ) : ℚ :=
  (points.map fun p => (p.2 - (slope * p.1 + intercept)) ^ 2).sum

theorem residue_nonneg (slope intercept : ℚ) : 0 ≤ residue points slope intercept :=
  sum_sq_nonneg

theorem residue_eq_zero_iff {slope intercept : ℚ} :
    residue points slope intercept = 0 ↔ ∀ p ∈ points, p.2 = slope * p.1 + intercept := by
  simp only [residue, sum_sq_eq_zero_iff, sub_eq_zero]

def IsBest (points : List (ℚ × ℚ)) (slope intercept : ℚ) : Prop :=
  ∀ m b, residue points slope intercept ≤ residue points m b

def IsVertical (points : List (ℚ × ℚ)) : Prop :=
  ∀ p ∈ points, ∀ q ∈ points, p.1 = q.1

/-- The distances in `y` cancel out, also if each is weighted with its `x`. -/
structure IsNormal (points : List (ℚ × ℚ)) (slope intercept : ℚ) : Prop where
  balanced : (points.map fun p => p.2 - (slope * p.1 + intercept)).sum = 0
  weighted : (points.map fun p => p.1 * (p.2 - (slope * p.1 + intercept))).sum = 0

namespace IsNormal

variable {slope intercept : ℚ}

/-- Any other line leaves more, by the squares of its distances from this one. -/
theorem residue_eq (normal : IsNormal points slope intercept) (m b : ℚ) :
    residue points m b = residue points slope intercept +
      (points.map fun p => ((m - slope) * p.1 + (b - intercept)) ^ 2).sum := by
  have expand : ∀ p : ℚ × ℚ, (p.2 - (m * p.1 + b)) ^ 2 =
      (p.2 - (slope * p.1 + intercept)) ^ 2 + ((m - slope) * p.1 + (b - intercept)) ^ 2 +
        (-2 * (m - slope)) * (p.1 * (p.2 - (slope * p.1 + intercept))) +
        (-2 * (b - intercept)) * (p.2 - (slope * p.1 + intercept)) := fun p => by ring
  simp only [residue, expand, List.sum_map_add, List.sum_map_mul_left, normal.balanced,
    normal.weighted, mul_zero, add_zero]

theorem isBest (normal : IsNormal points slope intercept) : IsBest points slope intercept := by
  intro m b
  rw [normal.residue_eq m b]
  exact le_add_of_nonneg_right sum_sq_nonneg

/-- A line that is as good meets this one above every point, so that two points side by side leave
no other line. -/
theorem eq_of_isBest (normal : IsNormal points slope intercept) (spread : ¬ IsVertical points)
    {m b : ℚ} (best : IsBest points m b) : m = slope ∧ b = intercept := by
  have apart := best slope intercept
  rw [normal.residue_eq m b, add_le_iff_nonpos_right] at apart
  have meet := sum_sq_eq_zero_iff.mp (le_antisymm apart sum_sq_nonneg)
  simp only [IsVertical, not_forall] at spread
  obtain ⟨p, left, q, right, ne⟩ := spread
  have difference : (m - slope) * (p.1 - q.1) = 0 := by
    linear_combination meet p left - meet q right
  have sameSlope : m - slope = 0 :=
    (mul_eq_zero.mp difference).resolve_right (sub_ne_zero.mpr ne)
  have sameIntercept := meet p left
  rw [sameSlope, zero_mul, zero_add] at sameIntercept
  exact ⟨sub_eq_zero.mp sameSlope, sub_eq_zero.mp sameIntercept⟩

theorem isBest_iff (normal : IsNormal points slope intercept) (spread : ¬ IsVertical points)
    (m b : ℚ) : IsBest points m b ↔ m = slope ∧ b = intercept := by
  constructor
  · exact normal.eq_of_isBest spread
  · rintro ⟨rfl, rfl⟩
    exact normal.isBest

end IsNormal

def denominator (points : List (ℚ × ℚ)) : ℚ :=
  points.length * (points.map fun p => p.1 * p.1).sum -
    (points.map fun p => p.1).sum * (points.map fun p => p.1).sum

def slope (points : List (ℚ × ℚ)) : ℚ :=
  (points.length * (points.map fun p => p.1 * p.2).sum -
    (points.map fun p => p.1).sum * (points.map fun p => p.2).sum) / denominator points

def intercept (points : List (ℚ × ℚ)) : ℚ :=
  ((points.map fun p => p.2).sum - slope points * (points.map fun p => p.1).sum) / points.length

def meanY (points : List (ℚ × ℚ)) : ℚ :=
  (points.map fun p => p.2).sum / points.length

/-- The share of the variation in `y` that the formulas give. -/
def rSquared (points : List (ℚ × ℚ)) : ℚ :=
  if residue points 0 (meanY points) = 0 then 1
  else 1 - residue points (slope points) (intercept points) / residue points 0 (meanY points)

theorem lineThrough_rationals (points : List (ℚ × ℚ)) : lineThrough rationals points =
    if points.length < 2 then .error .tooFewPoints
    else if denominator points = 0 then .error .allXEqual
    else .ok ⟨slope points, intercept points, rSquared points⟩ := by
  simp only [lineThrough, total_rationals, ofNat_rationals, isZero_rationals, denominator, slope,
    intercept, meanY, rSquared, residue, sq, zero_mul, zero_add, decide_eq_true_eq, Nat.cast_one]

theorem length_mul_denominator (points : List (ℚ × ℚ)) : points.length * denominator points =
    (points.map fun p => (points.length * p.1 - (points.map fun p => p.1).sum) ^ 2).sum := by
  generalize sum : (points.map fun p => p.1).sum = s
  have expand : ∀ p : ℚ × ℚ, (points.length * p.1 - s) ^ 2 =
      (points.length : ℚ) ^ 2 * (p.1 * p.1) + (-2 * points.length * s) * p.1 + s ^ 2 :=
    fun p => by ring
  simp only [expand, List.sum_map_add, List.sum_map_mul_left, List.map_const', List.sum_replicate,
    nsmul_eq_mul, denominator, sum]
  ring

section Solution

variable (nonempty : points ≠ [])
include nonempty

theorem length_ne_zero : (points.length : ℚ) ≠ 0 :=
  Nat.cast_ne_zero.mpr (List.length_pos_iff.mpr nonempty).ne'

theorem denominator_eq_zero_iff : denominator points = 0 ↔ IsVertical points := by
  have length := length_ne_zero nonempty
  rw [← mul_right_inj' length, mul_zero, length_mul_denominator, sum_sq_eq_zero_iff]
  constructor
  · intro atMean p left q right
    refine mul_left_cancel₀ length ?_
    rw [sub_eq_zero.mp (atMean p left), sub_eq_zero.mp (atMean q right)]
  · intro vertical p member
    have same : (points.map fun p => p.1) = List.replicate points.length p.1 :=
      List.eq_replicate_iff.mpr ⟨List.length_map _,
        List.forall_mem_map.mpr fun q other => vertical q other p member⟩
    rw [same, List.sum_replicate, nsmul_eq_mul, sub_self]

theorem isNormal (divides : denominator points ≠ 0) :
    IsNormal points (slope points) (intercept points) := by
  have length := length_ne_zero nonempty
  have atSlope : slope points * denominator points = _ := div_mul_cancel₀ _ divides
  have atIntercept : points.length * intercept points = _ := mul_div_cancel₀ _ length
  constructor
  · have expand : ∀ p : ℚ × ℚ, p.2 - (slope points * p.1 + intercept points) =
        p.2 + -slope points * p.1 + -intercept points := fun p => by ring
    simp only [expand, List.sum_map_add, List.sum_map_mul_left, List.map_const',
      List.sum_replicate, nsmul_eq_mul]
    linear_combination -atIntercept
  · have expand : ∀ p : ℚ × ℚ, p.1 * (p.2 - (slope points * p.1 + intercept points)) =
        p.1 * p.2 + -slope points * (p.1 * p.1) + -intercept points * p.1 := fun p => by ring
    simp only [expand, List.sum_map_add, List.sum_map_mul_left]
    refine mul_left_cancel₀ length ?_
    rw [denominator] at atSlope
    linear_combination -atSlope - (points.map fun p => p.1).sum * atIntercept

end Solution

/-- As the best line leaves no more than the horizontal line through the mean, it accounts for a
share of the variation. -/
theorem rSquared_mem_unit (best : IsBest points (slope points) (intercept points)) :
    0 ≤ rSquared points ∧ rSquared points ≤ 1 := by
  unfold rSquared
  split
  · exact ⟨zero_le_one, le_rfl⟩
  · rename_i varies
    have variation : 0 < residue points 0 (meanY points) :=
      lt_of_le_of_ne (residue_nonneg 0 _) (Ne.symm varies)
    have share : residue points (slope points) (intercept points) /
        residue points 0 (meanY points) ≤ 1 := (div_le_one variation).mpr (best 0 _)
    exact ⟨sub_nonneg.mpr share, sub_le_self 1 (div_nonneg (residue_nonneg _ _) variation.le)⟩

/-- Constant `y` leave nothing to account for, and the best line passes through them. -/
theorem rSquared_eq_one_iff (best : IsBest points (slope points) (intercept points)) :
    rSquared points = 1 ↔ residue points (slope points) (intercept points) = 0 := by
  unfold rSquared
  split
  · rename_i constant
    have least := best 0 (meanY points)
    rw [constant] at least
    exact iff_of_true rfl (le_antisymm least (residue_nonneg _ _))
  · rename_i varies
    rw [sub_eq_self, div_eq_zero_iff, or_iff_left varies]

/-- The line is the only best one, and its last number is a share of the variation, the whole of it
exactly if all points lie on the line. -/
structure IsLeastSquares (points : List (ℚ × ℚ)) (line : Line ℚ) : Prop where
  isBest_iff : ∀ m b, IsBest points m b ↔ m = line.slope ∧ b = line.intercept
  rSquared_nonneg : 0 ≤ line.rSquared
  rSquared_le_one : line.rSquared ≤ 1
  rSquared_eq_one_iff : line.rSquared = 1 ↔ ∀ p ∈ points, p.2 = line.slope * p.1 + line.intercept

theorem isLeastSquares (nonempty : points ≠ []) (divides : denominator points ≠ 0) :
    IsLeastSquares points ⟨slope points, intercept points, rSquared points⟩ := by
  have normal := isNormal nonempty divides
  have spread := mt (denominator_eq_zero_iff nonempty).mpr divides
  obtain ⟨lower, upper⟩ := rSquared_mem_unit normal.isBest
  exact ⟨normal.isBest_iff spread, lower, upper,
    (rSquared_eq_one_iff normal.isBest).trans residue_eq_zero_iff⟩

def AllEqual (l : List ℚ) : Prop :=
  ∀ x ∈ l, ∀ x' ∈ l, x = x'

theorem isVertical_zip_iff {xs ys : List ℚ} :
    IsVertical (xs.zip ys) ↔ AllEqual (xs.take (min xs.length ys.length)) := by
  have firsts : xs.take (min xs.length ys.length) = (xs.zip ys).map Prod.fst := by
    rw [List.zip_eq_zip_take_min, List.map_fst_zip]
    simp
  simp only [firsts, AllEqual, List.forall_mem_map, IsVertical]

/-- In exact arithmetic a fit of as many points as the shorter list has members fails exactly if
they are less than two or all their `x` are the same; otherwise it gives the line of least
squares. -/
theorem fit_leastSquares (xs ys : List ℚ) :
    (fit rationals xs ys = .error .tooFewPoints ↔ min xs.length ys.length < 2) ∧
    (fit rationals xs ys = .error .allXEqual ↔
      2 ≤ min xs.length ys.length ∧ AllEqual (xs.take (min xs.length ys.length))) ∧
    ((∃ line, fit rationals xs ys = .ok line ∧ IsLeastSquares (xs.zip ys) line) ↔
      2 ≤ min xs.length ys.length ∧ ¬ AllEqual (xs.take (min xs.length ys.length))) := by
  have length : (xs.zip ys).length = min xs.length ys.length := List.length_zip
  have zero_iff (nonempty : xs.zip ys ≠ []) : denominator (xs.zip ys) = 0 ↔
      AllEqual (xs.take (min xs.length ys.length)) :=
    (denominator_eq_zero_iff nonempty).trans isVertical_zip_iff
  rw [fit, lineThrough_rationals, length]
  generalize AllEqual (xs.take (min xs.length ys.length)) = allEqual at zero_iff ⊢
  generalize min xs.length ys.length = n at length ⊢
  by_cases few : n < 2
  · rw [if_pos few]
    exact ⟨iff_of_true rfl few, iff_of_false nofun (fun enough => by omega),
      iff_of_false (fun ⟨_, fitted, _⟩ => nomatch fitted) (fun enough => by omega)⟩
  have nonempty : xs.zip ys ≠ [] := by
    rw [← List.length_pos_iff, length]
    omega
  have enough : 2 ≤ n := Nat.not_lt.mp few
  replace zero_iff := zero_iff nonempty
  rw [if_neg few]
  by_cases zero : denominator (xs.zip ys) = 0
  · have same := zero_iff.mp zero
    rw [if_pos zero]
    exact ⟨iff_of_false nofun few, iff_of_true rfl ⟨enough, same⟩,
      iff_of_false (fun ⟨_, fitted, _⟩ => nomatch fitted) (fun apart => apart.2 same)⟩
  · have apart : ¬ allEqual := mt zero_iff.mpr zero
    rw [if_neg zero]
    exact ⟨iff_of_false nofun few, iff_of_false nofun (fun same => apart same.2),
      iff_of_true ⟨_, rfl, isLeastSquares nonempty zero⟩ ⟨enough, apart⟩⟩

end RecipeEngine.Regression
