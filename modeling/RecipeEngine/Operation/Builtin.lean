import RecipeEngine.Csv.Table
import RecipeEngine.Operation.Basic
import RecipeEngine.Regression
import RecipeEngine.Table.Compute
import RecipeEngine.Table.Filter
import RecipeEngine.Table.Sort

namespace RecipeEngine

def Table.requireColumn (t : Table) (column : String) : Except Failure Unit :=
  if t.hasColumn column then .ok () else .error (.columnNotFound column t.columns)

namespace Builtin

def tableArgument (name label description : String) : ArgumentSpec where
  name := name
  label := label
  kind := .variableRef (some [.table])
  description := some description
  default := none

def runFromCsv (args : Arguments) (_env : Environment) : Except Failure Value :=
  (Csv.toTable ((args.text? "csvContent").getD "") (args.boolean "hasHeader" true)).map .table

def fromCsv : Operation where
  id := "op_from_csv"
  name := "From CSV"
  group := .input
  description := "Parse a CSV string into a Table."
  arguments :=
    [⟨"csvContent", "CSV Content", .text, some "Paste your CSV data here",
      some (.text "name,age\nAlice,30\nBob,25")⟩,
     ⟨"hasHeader", "Has Header", .boolean, some "Does the first row contain column names?",
      some (.bool true)⟩]
  run := runFromCsv

def constantTypes : List String := ["string", "int", "float"]

/-- The value of a constant of one type; a text that does not start with a number is zero. -/
def constantValue (type raw : String) : Value :=
  if type = "int" then .number ((Numeral.readInteger? raw).getD 0)
  else if type = "float" then .number ((Numeral.readPrefix? raw).getD 0)
  else .string raw

def runConstant (args : Arguments) (_env : Environment) : Except Failure Value := do
  let type ← args.select "type" constantTypes "string"
  .ok (constantValue type ((args.text? "value").getD ""))

def constant : Operation where
  id := "input-constant"
  name := "Define Constant"
  group := .input
  description := "Define a single constant value (Number or String)"
  arguments :=
    [⟨"type", "Data Type", .select constantTypes, none, some (.text "string")⟩,
     ⟨"value", "Value", .text, none, some (.text "")⟩]
  run := runConstant

def conditionNames : List String := ["equals", "contains", "greater_than", "less_than"]

def condition (name value : String) : Condition :=
  if name = "contains" then .contains value
  else if name = "greater_than" then .greaterThan (Numeral.readNumber? value)
  else if name = "less_than" then .lessThan (Numeral.readNumber? value)
  else .equals value

/-- The value that rows are compared with; the numeric conditions need one. -/
def conditionValue (args : Arguments) (name : String) : Except Failure String :=
  if name = "greater_than" ∨ name = "less_than" then args.required "value"
  else .ok ((args.text? "value").getD "")

def runFilter (args : Arguments) (env : Environment) : Except Failure Value := do
  let t ← args.table "inputTable" env
  let column ← args.required "column"
  t.requireColumn column
  let name ← args.select "operator" conditionNames "equals"
  let value ← conditionValue args name
  .ok (.table (t.filter column (condition name value)))

def filterRows : Operation where
  id := "op_filter_rows"
  name := "Filter Rows"
  group := .table
  description := "Filter rows based on a column value."
  arguments :=
    [tableArgument "inputTable" "Input Table" "The table to filter",
     ⟨"column", "Column Name", .string, some "The column to check", some (.text "")⟩,
     ⟨"operator", "Condition", .select conditionNames, none, some (.text "equals")⟩,
     ⟨"value", "Value", .string, none, some (.text "")⟩]
  run := runFilter

def directionNames : List String := ["Ascending", "Descending"]

def runSort (args : Arguments) (env : Environment) : Except Failure Value := do
  let t ← args.table "inputTable" env
  let column ← args.required "column"
  t.requireColumn column
  let direction ← args.select "direction" directionNames "Ascending"
  .ok (.table (t.sort column (if direction = "Descending" then .descending else .ascending)))

def sortRows : Operation where
  id := "op_sort_rows"
  name := "Sort Rows"
  group := .table
  description := "Sort the table by a specific column."
  arguments :=
    [tableArgument "inputTable" "Input Table" "The table to sort",
     ⟨"column", "Column Name", .text, some "Column to sort by", some (.text "")⟩,
     ⟨"direction", "Direction", .select directionNames, none, some (.text "Ascending")⟩]
  run := runSort

def defaultColumn : String := "Result"

def runColumnMath (args : Arguments) (env : Environment) : Except Failure Value := do
  let t ← args.table "inputTable" env
  let expression ← args.required "expression"
  let column := match args.required "newColumnName" with
    | .ok column => column
    | .error _ => defaultColumn
  (t.computeColumn expression column env).map .table

def columnMath : Operation where
  id := "op_column_math"
  name := "Column Math"
  group := .arithmetic
  description := "Perform math on a column (e.g. colA * 2 + colB)."
  arguments :=
    [tableArgument "inputTable" "Input Table" "Table to calculate on",
     ⟨"expression", "Expression", .text,
      some "Math expression using column names, e.g. \"Age * 2\" or \"Price / Qty\"",
      some (.text "")⟩,
     ⟨"newColumnName", "New Column Name", .string, none, some (.text defaultColumn)⟩]
  run := runColumnMath

def runConstantMath (args : Arguments) (env : Environment) : Except Failure Value := do
  let expression ← args.required "expression"
  let formula ← Formula.compile expression
  let answer ← formula.evaluate env.scope
  .ok (Value.ofScalar answer.toScalar)

def constantMath : Operation where
  id := "constant-math"
  name := "Calculate Constant"
  group := .math
  description := "Calculate a new constant value using an expression (e.g., \"const1 + 5\")"
  arguments :=
    [⟨"expression", "Expression", .text,
      some "Math expression using variable names. e.g. \"a * 2 + b\"", some (.text "")⟩]
  run := runConstantMath

/-- Fails unless a name is a declared column or stands for the row index. -/
def requireCoordinate (t : Table) (column : String) : Except Failure Unit :=
  if column = Regression.rowIndex then .ok () else t.requireColumn column

def runRegression (args : Arguments) (env : Environment) : Except Failure Value := do
  let t ← args.table "tableVar" env
  let x ← args.required "xCol"
  let y ← args.required "yCol"
  requireCoordinate t x
  requireCoordinate t y
  match Regression.lineThrough Regression.doubles (Regression.points t x y) with
  | .ok line => .ok (.table (Regression.summary line))
  | .error why => .error why.toFailure

def linearRegression : Operation where
  id := "linear-regression"
  name := "Linear Regression"
  group := .analysis
  description := "Perform simple linear regression (y = mx + b) on two columns. " ++
    "Outputs a table with Slope, Intercept, and R²."
  arguments :=
    [tableArgument "tableVar" "Input Table" "Table containing the data",
     ⟨"xCol", "X Column Name", .string, some "Name of the independent variable column", none⟩,
     ⟨"yCol", "Y Column Name", .string, some "Name of the dependent variable column", none⟩]
  run := runRegression

def operations : List Operation :=
  [fromCsv, constant, filterRows, columnMath, sortRows, constantMath, linearRegression]

end Builtin

end RecipeEngine
