import RecipeEngine.Proofs.Number.Order
import RecipeEngine.Proofs.Table.StableSort
import RecipeEngine.Table.Filter
import RecipeEngine.Table.Sort

namespace RecipeEngine

namespace Scalar

theorem compareTexts_eq (s t : String) : compareTexts s t = Ord.compare s t := rfl

theorem compareTexts_eq_iff {s t : String} : compareTexts s t = .eq ↔ s = t := by
  rw [compareTexts_eq, Std.LawfulEqOrd.compare_eq_iff_eq]

instance : Std.TransCmp compareTexts where
  eq_swap {s t} := by
    simp only [compareTexts_eq]
    exact Std.OrientedOrd.eq_swap
  isLE_trans {r s t} first second := by
    simp only [compareTexts_eq] at first second ⊢
    exact Std.TransOrd.isLE_trans first second

instance : Std.TransCmp Scalar.compare where
  eq_swap {a b} :=
    match a, b with
    | .number x, .number y => (Std.OrientedCmp.eq_swap : compareNumbers x y = _)
    | .number _, .text _ => rfl
    | .text _, .number _ => rfl
    | .text s, .text t => (Std.OrientedCmp.eq_swap : compareTexts s t = _)
  isLE_trans {a b c} first second := by
    cases a with
    | number x =>
      cases c with
      | text t => rfl
      | number z =>
        cases b with
        | text s => cases second
        | number y =>
          show (compareNumbers x z).isLE = true
          exact Std.TransCmp.isLE_trans first second
    | text r =>
      cases b with
      | number y => cases first
      | text s =>
        cases c with
        | number z => cases second
        | text t =>
          show (compareTexts r t).isLE = true
          exact Std.TransCmp.isLE_trans first second

end Scalar

namespace Table

instance : Std.TransCmp compareKeys where
  eq_swap {a b} :=
    match a, b with
    | some x, some y => (Std.OrientedCmp.eq_swap : x.compare y = _)
    | some _, none => rfl
    | none, some _ => rfl
    | none, none => rfl
  isLE_trans {a b c} first second := by
    cases c with
    | none => cases a <;> rfl
    | some z =>
      cases b with
      | none => cases second
      | some y =>
        cases a with
        | none => cases first
        | some x =>
          show (x.compare z).isLE = true
          exact Std.TransCmp.isLE_trans first second

variable {column : String} {direction : Direction}

theorem compareRows_descending {a b : Row} : compareRows column .descending a b =
    compareKeys (b.get? column) (a.get? column) :=
  Std.OrientedCmp.eq_swap.symm

instance : Std.TransCmp (compareRows column direction) where
  eq_swap {a b} := by
    have keys : compareKeys (a.get? column) (b.get? column) = _ := Std.OrientedCmp.eq_swap
    cases direction with
    | ascending => exact keys
    | descending => exact congrArg Ordering.swap keys
  isLE_trans {a b c} first second := by
    cases direction with
    | ascending =>
      show (compareKeys (a.get? column) (c.get? column)).isLE = true
      exact Std.TransCmp.isLE_trans first second
    | descending =>
      rw [compareRows_descending] at first second ⊢
      exact Std.TransCmp.isLE_trans second first

/-- The cell of a row in a column is at most that of another: where the other row has a cell there,
this one has a cell too, and it is not the greater one. -/
def AtMost (column : String) (a b : Row) : Prop :=
  ∀ y, b.get? column = some y → ∃ x, a.get? column = some x ∧ x.compare y ≠ .gt

/-- A row may stand before another in a sort by a column. -/
def Precedes (column : String) : Direction → Row → Row → Prop
  | .ascending, a, b => AtMost column a b
  | .descending, a, b => AtMost column b a

theorem compareKeys_ne_gt_iff {a b : Row} :
    compareKeys (a.get? column) (b.get? column) ≠ .gt ↔ AtMost column a b := by
  unfold AtMost
  cases b.get? column with
  | none => cases a.get? column <;> simp [compareKeys]
  | some y => cases a.get? column <;> simp [compareKeys]

theorem compareRows_ne_gt_iff {a b : Row} :
    compareRows column direction a b ≠ .gt ↔ Precedes column direction a b := by
  cases direction with
  | ascending => exact compareKeys_ne_gt_iff
  | descending =>
    rw [compareRows_descending]
    exact compareKeys_ne_gt_iff

/-- Two rows have equal keys if each may stand before the other. -/
theorem compareRows_eq_iff {a b : Row} : compareRows column direction a b = .eq ↔
    Precedes column direction a b ∧ Precedes column direction b a := by
  have swapped : compareRows column direction b a = (compareRows column direction a b).swap :=
    Std.OrientedCmp.eq_swap
  rw [← compareRows_ne_gt_iff, ← compareRows_ne_gt_iff, swapped]
  cases compareRows column direction a b <;> simp

theorem isStableSort_sort (t : Table) (column : String) (direction : Direction) :
    IsStableSort (compareRows column direction) t.rows (t.sort column direction).rows :=
  .mergeSort t.rows

/-- A sort keeps the columns and gives the one stable sort of the rows. Ascending, a row may stand
before another if its cell is at most the other's, so that rows without a cell come last;
descending, the order is the opposite. -/
theorem sort_stable_unique (t : Table) (column : String) (direction : Direction) :
    (t.sort column direction).columns = t.columns ∧
      (∀ rows, IsStableSort (compareRows column direction) t.rows rows ↔
        rows = (t.sort column direction).rows) ∧
      ∀ a b,
        (compareRows column direction a b ≠ .gt ↔ Precedes column direction a b) ∧
        (compareRows column direction a b = .eq ↔
          Precedes column direction a b ∧ Precedes column direction b a) := by
  have sorted := isStableSort_sort t column direction
  exact ⟨rfl, fun rows => sorted.iff_eq, fun a b => ⟨compareRows_ne_gt_iff, compareRows_eq_iff⟩⟩

/-- Filtering and sorting can be done in either order. -/
theorem filter_sort_comm (t : Table) (column other : String) (direction : Direction)
    (condition : Condition) :
    (t.sort column direction).filter other condition =
      (t.filter other condition).sort column direction := by
  have rows := ((isStableSort_sort t column direction).filter (rowHolds other condition)).unique
    (isStableSort_sort (t.filter other condition) column direction)
  exact congrArg (Table.mk t.columns) rows

/-- A sort by one column of what has been sorted by another is the one stable sort by both columns,
the last one first. -/
theorem sort_sort_lexicographic (t : Table) (first second : String)
    (firstDirection secondDirection : Direction) :
    let sorted := (t.sort second secondDirection).sort first firstDirection
    sorted.columns = t.columns ∧
      ∀ rows, IsStableSort
          (compareLex (compareRows first firstDirection) (compareRows second secondDirection))
          t.rows rows ↔
        rows = sorted.rows := by
  have both := (isStableSort_sort t second secondDirection).andThen
    (isStableSort_sort (t.sort second secondDirection) first firstDirection)
  exact ⟨rfl, fun rows => both.iff_eq⟩

end Table

end RecipeEngine
