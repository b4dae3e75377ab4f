import RecipeEngine.Proofs.Table.Sort

namespace RecipeEngine

open NumberOrder

namespace Scalar

def MayPrecede (a b : Scalar) : Prop := a.compare b ≠ .gt

def rank : Scalar → Nat
  | .number x => if x.isNaN then 1 else 0
  | .text _ => 2

@[simp] theorem rank_number (x : Float) : rank (.number x) = if x.isNaN then 1 else 0 := rfl

@[simp] theorem rank_text (s : String) : rank (.text s) = 2 := rfl

theorem rank_number_lt (x : Float) (t : String) : rank (.number x) < rank (.text t) := by
  rw [rank_number, rank_text]
  split <;> decide

/-- The lesser of two numbers or of two texts. -/
inductive IsLess : Scalar → Scalar → Prop
  | number {x y} : x < y → IsLess (.number x) (.number y)
  | text {s t} : s < t → IsLess (.text s) (.text t)

/-- Equal numbers, which the zeros of both signs are, NaN and NaN, or a text and itself. -/
inductive IsTied : Scalar → Scalar → Prop
  | number {x y} : (x == y) = true → IsTied (.number x) (.number y)
  | nan {x y} : x.isNaN = true → y.isNaN = true → IsTied (.number x) (.number y)
  | text (s) : IsTied (.text s) (.text s)

section Numbers

variable {x y : Float}

theorem compare_of_isNaN (nan : x.isNaN = true ∨ y.isNaN = true) :
    x.toModel.unpack.compare y.toModel.unpack = none := by
  have unordered : ∀ u v : Float.Model.UnpackedFloat, u.isNaN = true ∨ v.isNaN = true →
      u.compare v = none := by
    rintro u v (left | right)
    · cases u <;> cases left
      rfl
    · cases v <;> cases right
      cases u <;> rfl
  exact unordered _ _ nan

theorem not_lt_of_isNaN (nan : x.isNaN = true ∨ y.isNaN = true) : ¬ x < y := by
  show ¬ decide ((x.toModel.unpack.compare y.toModel.unpack == some .lt) = true) = true
  rw [compare_of_isNaN nan]
  decide

theorem beq_of_isNaN (nan : x.isNaN = true ∨ y.isNaN = true) : (x == y) = false := by
  show (x.toModel.unpack.compare y.toModel.unpack == some .eq) = false
  rw [compare_of_isNaN nan]
  rfl

theorem beq_iff_comparePlaces (left : x.isNaN = false) (right : y.isNaN = false) :
    (x == y) = true ↔ comparePlaces x.toModel.unpack y.toModel.unpack = .eq := by
  show (x.toModel.unpack.compare y.toModel.unpack == some .eq) = true ↔ _
  rw [compare_eq_comparePlaces left right, beq_iff_eq, Option.some_inj]

theorem compareNumbers_eq_lt_iff : compareNumbers x y = .lt ↔
    rank (.number x) < rank (.number y) ∨ x < y := by
  rw [compareNumbers, rank_number, rank_number]
  cases left : x.isNaN with
  | false =>
    cases right : y.isNaN with
    | false =>
      dsimp only
      split_ifs with less greater <;> simp_all
    | true => exact iff_of_true rfl (.inl Nat.one_pos)
  | true =>
    have unordered := not_lt_of_isNaN (y := y) (.inl left)
    cases right : y.isNaN with
    | false => exact iff_of_false nofun (by simpa using unordered)
    | true => exact iff_of_false nofun (by simpa using unordered)

theorem compareNumbers_eq_eq_iff : compareNumbers x y = .eq ↔
    (x == y) = true ∨ x.isNaN = true ∧ y.isNaN = true := by
  cases left : x.isNaN <;> cases right : y.isNaN
  · rw [compareNumbers_eq, beq_iff_comparePlaces left right]
    simp
  · rw [beq_of_isNaN (.inr right), compareNumbers, left, right]
    simp
  · rw [beq_of_isNaN (.inl left), compareNumbers, left, right]
    simp
  · rw [compareNumbers, left, right]
    simp

end Numbers

theorem compare_eq_lt_iff {a b : Scalar} :
    a.compare b = .lt ↔ a.rank < b.rank ∨ a.IsLess b := by
  cases a with
  | number x =>
    cases b with
    | number y =>
      refine compareNumbers_eq_lt_iff.trans (or_congr_right ⟨.number, ?_⟩)
      rintro ⟨less⟩
      exact less
    | text t => exact iff_of_true rfl (.inl (rank_number_lt x t))
  | text s =>
    cases b with
    | number y =>
      refine iff_of_false nofun ?_
      rintro (before | less)
      · exact Nat.lt_asymm before (rank_number_lt y s)
      · cases less
    | text t =>
      have strict : (Scalar.text s).compare (.text t) = .lt ↔ s < t := by
        rw [compare, compareTexts]
        split_ifs <;> simp_all
      refine strict.trans ⟨fun less => .inr (.text less), ?_⟩
      rintro (before | ⟨⟨⟩⟩)
      · exact absurd before (Nat.lt_irrefl 2)
      · assumption

theorem compare_eq_eq_iff {a b : Scalar} : a.compare b = .eq ↔ a.IsTied b := by
  cases a with
  | number x =>
    cases b with
    | number y =>
      refine compareNumbers_eq_eq_iff.trans ⟨?_, ?_⟩
      · rintro (equal | ⟨left, right⟩)
        · exact .number equal
        · exact .nan left right
      · rintro (equal | ⟨left, right⟩)
        · exact .inl equal
        · exact .inr ⟨left, right⟩
    | text t => exact iff_of_false nofun nofun
  | text s =>
    cases b with
    | number y => exact iff_of_false nofun nofun
    | text t =>
      refine compareTexts_eq_iff.trans ⟨?_, ?_⟩
      · rintro rfl
        exact .text s
      · rintro ⟨⟩
        rfl

/-- The order of cells is a total preorder, in which a comparison the other way round gives the
reverse, the ranks follow each other, and ties are as defined. -/
theorem compare_totalPreorder :
    IsPreorder Scalar MayPrecede ∧ Std.Total MayPrecede ∧ ∀ a b : Scalar,
      a.compare b = (b.compare a).swap ∧
      (a.compare b = .lt ↔ a.rank < b.rank ∨ a.IsLess b) ∧
      (a.compare b = .eq ↔ a.IsTied b) := by
  have swap : ∀ a b : Scalar, a.compare b = (b.compare a).swap := fun a b =>
    Std.OrientedCmp.eq_swap
  refine ⟨{ refl := fun a => ?_, trans := fun a b c first second => ?_ }, ⟨fun a b => ?_⟩,
    fun a b => ⟨swap a b, compare_eq_lt_iff, compare_eq_eq_iff⟩⟩
  · have self : a.compare a = .eq := Std.ReflCmp.compare_self
    rw [MayPrecede, self]
    exact nofun
  · simp only [MayPrecede, Ordering.ne_gt_iff_isLE] at first second ⊢
    exact Std.TransCmp.isLE_trans first second
  · rw [MayPrecede, MayPrecede, swap b a]
    cases a.compare b <;> decide

example : (number (-0.0)).compare (number 0) = .eq := by decide

end Scalar

end RecipeEngine
