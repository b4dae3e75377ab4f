import RecipeEngine.Scalar

namespace RecipeEngine

open Float.Model (UnpackedFloat)

namespace NumberOrder

theorem compare_neg (a b : Int) : compare (-a) (-b) = compare b a := by
  simp only [compare, compareOfLessAndEq, Int.neg_lt_neg_iff, Int.neg_inj, eq_comm]

theorem compare_ofNat (a b : Nat) : compare (a : Int) (b : Int) = compare a b := by
  simp only [compare, compareOfLessAndEq, Int.ofNat_lt, Int.ofNat_inj]

/-- Where a number stands among the others: by sign and kind, then by exponent, then by mantissa.
Among negative numbers those with greater exponents and mantissas stand first. -/
def place : UnpackedFloat → Int × Int × Int
  | .infinity .negative => (-2, 0, 0)
  | .finite .negative mantissa exponent _ => (-1, -exponent, -mantissa)
  | .zero _ => (0, 0, 0)
  | .finite .positive mantissa exponent _ => (1, exponent, mantissa)
  | .infinity .positive => (2, 0, 0)
  | .notANumber => (3, 0, 0)

def comparePlaces : UnpackedFloat → UnpackedFloat → Ordering :=
  compareLex (compareOn fun u => (place u).1)
    (compareLex (compareOn fun u => (place u).2.1) (compareOn fun u => (place u).2.2))

instance : Std.TransCmp comparePlaces := by
  unfold comparePlaces
  infer_instance

variable {u v : UnpackedFloat}

theorem compare_finite {sign : UnpackedFloat.Sign} {m n : Nat} {d e : Int} {left : 0 < m}
    {right : 0 < n} : (UnpackedFloat.finite sign m d left).compare (.finite sign n e right) =
      some (comparePlaces (.finite sign m d left) (.finite sign n e right)) := by
  cases sign with
  | positive =>
    show _ = some ((compare d e).then (compare (m : Int) (n : Int)))
    rw [compare_ofNat]
    rfl
  | negative =>
    show some ((compare d e).then (compare m n)).swap =
      some ((compare (-d) (-e)).then (compare (-(m : Int)) (-(n : Int))))
    rw [compare_neg, compare_neg, compare_ofNat, Ordering.swap_then,
      ← Std.OrientedOrd.eq_swap, ← Std.OrientedOrd.eq_swap]

theorem compare_eq_comparePlaces (left : u.isNaN = false) (right : v.isNaN = false) :
    u.compare v = some (comparePlaces u v) := by
  cases u with
  | notANumber => cases left
  | infinity sign =>
    cases v with
    | notANumber => cases right
    | infinity other => cases sign <;> cases other <;> rfl
    | zero other => cases sign <;> rfl
    | finite other => cases sign <;> cases other <;> rfl
  | zero sign =>
    cases v with
    | notANumber => cases right
    | infinity other => cases other <;> rfl
    | zero other => rfl
    | finite other => cases other <;> rfl
  | finite sign =>
    cases v with
    | notANumber => cases right
    | infinity other => cases sign <;> cases other <;> rfl
    | zero other => cases sign <;> rfl
    | finite other =>
      cases sign <;> cases other
      · exact compare_finite
      · rfl
      · rfl
      · exact compare_finite

theorem compare_swap (u v : UnpackedFloat) :
    u.compare v = (v.compare u).map Ordering.swap := by
  by_cases left : u.isNaN = true
  · cases u <;> cases left
    cases v <;> rfl
  · by_cases right : v.isNaN = true
    · cases v <;> cases right
      cases u <;> rfl
    · rw [Bool.not_eq_true] at left right
      rw [compare_eq_comparePlaces left right, compare_eq_comparePlaces right left]
      exact congrArg some Std.OrientedCmp.eq_swap

theorem compare_infinite_ne (left : u.isFinite = true)
    (right : v.isFinite = false) : u.compare v ≠ some .eq := by
  cases v with
  | notANumber => cases u <;> exact nofun
  | infinity sign =>
    cases u with
    | notANumber => cases left
    | infinity other => cases left
    | zero other => cases sign <;> exact nofun
    | finite other => cases sign <;> cases other <;> exact nofun
  | zero sign => cases right
  | finite sign => cases right

theorem comparePlaces_of_isNaN (left : u.isNaN = false) (right : v.isNaN = true) :
    comparePlaces u v = .lt := by
  cases v with
  | notANumber =>
    cases u with
    | notANumber => cases left
    | infinity sign => cases sign <;> rfl
    | zero sign => rfl
    | finite sign => cases sign <;> rfl
  | infinity sign => cases right
  | zero sign => cases right
  | finite sign => cases right

theorem comparePlaces_eq_of_isNaN (left : u.isNaN = true) (right : v.isNaN = true) :
    comparePlaces u v = .eq := by
  cases u <;> cases left
  cases v <;> cases right
  rfl

end NumberOrder

open NumberOrder

namespace Scalar

theorem lt_iff_comparePlaces {x y : Float} (left : x.isNaN = false) (right : y.isNaN = false) :
    x < y ↔ comparePlaces x.toModel.unpack y.toModel.unpack = .lt := by
  show decide ((x.toModel.unpack.compare y.toModel.unpack == some .lt) = true) = true ↔ _
  rw [compare_eq_comparePlaces left right, decide_eq_true_iff, beq_iff_eq, Option.some_inj]

theorem compareNumbers_eq (x y : Float) :
    compareNumbers x y = comparePlaces x.toModel.unpack y.toModel.unpack := by
  unfold compareNumbers
  cases left : x.isNaN <;> cases right : y.isNaN
  · simp only [lt_iff_comparePlaces left right, lt_iff_comparePlaces right left]
    have swapped : comparePlaces y.toModel.unpack x.toModel.unpack =
      (comparePlaces x.toModel.unpack y.toModel.unpack).swap := Std.OrientedCmp.eq_swap
    rw [swapped]
    cases comparePlaces x.toModel.unpack y.toModel.unpack <;> rfl
  · exact (comparePlaces_of_isNaN left right).symm
  · exact (Std.OrientedCmp.gt_of_lt (comparePlaces_of_isNaN right left)).symm
  · exact (comparePlaces_eq_of_isNaN left right).symm

instance : Std.TransCmp compareNumbers := by
  have same : compareNumbers =
      fun x y => comparePlaces x.toModel.unpack y.toModel.unpack :=
    funext fun x => funext fun y => compareNumbers_eq x y
  rw [same]
  exact { eq_swap := Std.OrientedCmp.eq_swap, isLE_trans := Std.TransCmp.isLE_trans }

end Scalar

end RecipeEngine
