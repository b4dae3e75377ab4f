import RecipeEngine.Environment
import RecipeEngine.Expression.Formula

namespace RecipeEngine

def Environment.scope (env : Environment) : Scope := env.scalar?

namespace Table

/-- The cell that a formula gives in a row, whose cells hide the variables of the same name; NaN
where it cannot be evaluated. -/
def computedCell (formula : Formula) (globals : Scope) (row : Row) : Scalar :=
  match formula.evaluate (globals.withRow row) with
  | .ok answer => answer.toScalar
  | .error _ => .number Arithmetic.nan

/-- The table with the answers of a formula in one column, which is appended if it is new. -/
def compute (t : Table) (formula : Formula) (column : String) (globals : Scope) : Table where
  columns := if t.hasColumn column then t.columns else t.columns ++ [column]
  rows := t.rows.map fun row => row.insert column (computedCell formula globals row)

def computeColumn (t : Table) (expression column : String) (env : Environment) :
    Except Failure Table :=
  (Formula.compile expression).map fun formula => t.compute formula column env.scope

end Table

end RecipeEngine
