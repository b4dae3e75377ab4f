import RecipeEngine.Table

namespace RecipeEngine

/-- A condition on a cell. The numeric ones hold a bound, if the given one was a number. -/
inductive Condition where
  | equals (shown : String)
  | contains (part : String)
  | greaterThan (bound : Option Float)
  | lessThan (bound : Option Float)

def occursIn (part : List Char) : List Char → Bool
  | [] => part.isEmpty
  | c :: rest => part.isPrefixOf (c :: rest) || occursIn part rest

namespace Condition

def numeric (holds : Float → Float → Bool) (cell : Scalar) (bound : Option Float) : Bool :=
  match cell.asNumber?, bound with
  | some x, some y => holds x y
  | _, _ => false

/-- Whether a cell satisfies the condition. Equality and containment go by the display form. -/
def holds (condition : Condition) (cell : Scalar) : Bool :=
  match condition with
  | .equals shown => cell.display == shown
  | .contains part => occursIn part.toList cell.display.toList
  | .greaterThan bound => numeric (fun x y => y < x) cell bound
  | .lessThan bound => numeric (fun x y => x < y) cell bound

end Condition

namespace Table

def rowHolds (column : String) (condition : Condition) (row : Row) : Bool :=
  match row.get? column with
  | some cell => condition.holds cell
  | none => false

/-- The rows that satisfy a condition on one column; rows without that cell are dropped. -/
def filter (t : Table) (column : String) (condition : Condition) : Table :=
  { t with rows := t.rows.filter (rowHolds column condition) }

end Table

end RecipeEngine
