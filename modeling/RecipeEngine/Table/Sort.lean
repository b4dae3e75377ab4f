import RecipeEngine.Table

namespace RecipeEngine

inductive Direction where
  | ascending
  | descending
deriving DecidableEq, Repr

namespace Table

/-- The order of two cells of which either may be absent; absent cells come last. -/
def compareKeys : Option Scalar → Option Scalar → Ordering
  | some a, some b => a.compare b
  | some _, none => .lt
  | none, some _ => .gt
  | none, none => .eq

/-- The order of two rows by one column. Descending, the whole order is reversed. -/
def compareRows (column : String) (direction : Direction) (a b : Row) : Ordering :=
  let order := compareKeys (a.get? column) (b.get? column)
  match direction with
  | .ascending => order
  | .descending => order.swap

/-- The table with its rows sorted by one column; rows with equal keys keep their order. -/
def sort (t : Table) (column : String) (direction : Direction) : Table :=
  { t with rows := t.rows.mergeSort fun a b => compareRows column direction a b != .gt }

end Table

end RecipeEngine
