import RecipeEngine.Proofs.Expression.FreeNames
import RecipeEngine.Bake.Run

namespace RecipeEngine

namespace Arguments

def tableNames (args : Arguments) (argument : String) : List String :=
  match args.required argument with
  | .ok name => [name]
  | .error _ => []

/-- The names that occur in the formula that an argument holds, if it compiles. -/
def formulaNames (args : Arguments) (argument : String) : List String :=
  match args.required argument with
  | .error _ => []
  | .ok source =>
    match Formula.compile source with
    | .error _ => []
    | .ok formula => formula.tree.names

end Arguments

def Step.reads (step : Step) : List String :=
  match step.operation with
  | "op_filter_rows" => step.arguments.tableNames "inputTable"
  | "op_sort_rows" => step.arguments.tableNames "inputTable"
  | "op_column_math" =>
    step.arguments.tableNames "inputTable" ++ step.arguments.formulaNames "expression"
  | "constant-math" => step.arguments.formulaNames "expression"
  | "linear-regression" => step.arguments.tableNames "tableVar"
  | _ => []

/-- The names that an operation reads under some arguments: the variables that its table arguments
name, and the names in its expression. -/
def Operation.reads (op : Operation) (args : Arguments) : List String :=
  op.arguments.flatMap fun spec =>
    match spec.kind with
    | .variableRef _ => args.tableNames spec.name
    | _ => if spec.name = "expression" then args.formulaNames spec.name else []

/-- Two environments bind every name of a list to the same value. -/
abbrev Environment.AgreeOn (names : List String) (left right : Environment) : Prop :=
  RecipeEngine.AgreeOn names left.get? right.get?

theorem Environment.AgreeOn.scope {names : List String} {left right : Environment}
    (agree : Environment.AgreeOn names left right) :
    RecipeEngine.AgreeOn names left.scope right.scope := by
  intro name member
  rw [Environment.scope, Environment.scope, scalar?, scalar?, agree name member]

section Congruence

variable {args : Arguments} {left right : Environment}

theorem Arguments.table_congr {argument : String}
    (agree : Environment.AgreeOn (args.tableNames argument) left right) :
    args.table argument left = args.table argument right := by
  unfold Arguments.table
  cases given : args.required argument with
  | error why => rfl
  | ok name =>
    have same : left.get? name = right.get? name := agree name (by simp [tableNames, given])
    show Environment.table left name = Environment.table right name
    rw [Environment.table, Environment.table, same]

namespace Builtin

theorem runFilter_congr (agree : Environment.AgreeOn (args.tableNames "inputTable") left right) :
    runFilter args left = runFilter args right := by
  rw [runFilter, runFilter, Arguments.table_congr agree]

theorem runSort_congr (agree : Environment.AgreeOn (args.tableNames "inputTable") left right) :
    runSort args left = runSort args right := by
  rw [runSort, runSort, Arguments.table_congr agree]

theorem runRegression_congr (agree : Environment.AgreeOn (args.tableNames "tableVar") left right) :
    runRegression args left = runRegression args right := by
  rw [runRegression, runRegression, Arguments.table_congr agree]

theorem runConstantMath_congr
    (agree : Environment.AgreeOn (args.formulaNames "expression") left right) :
    runConstantMath args left = runConstantMath args right := by
  unfold runConstantMath
  cases given : args.required "expression" with
  | error why => rfl
  | ok source =>
    cases compiled : Formula.compile source with
    | error why => simp only [bind, Except.bind, compiled]
    | ok formula =>
      have names : args.formulaNames "expression" = formula.tree.names := by
        simp only [Arguments.formulaNames, given, compiled]
      have inFormula : Environment.AgreeOn formula.tree.names left right := names ▸ agree
      have same := Formula.evaluate_congr inFormula.scope
      simp only [bind, Except.bind, compiled, same]

theorem computeColumn_congr {source column : String}
    (agree : Environment.AgreeOn (args.formulaNames "expression") left right)
    (given : args.required "expression" = .ok source) (t : Table) :
    t.computeColumn source column left = t.computeColumn source column right := by
  unfold Table.computeColumn
  cases compiled : Formula.compile source with
  | error why => simp only [Except.map]
  | ok formula =>
    have names : args.formulaNames "expression" = formula.tree.names := by
      simp only [Arguments.formulaNames, given, compiled]
    have inFormula : Environment.AgreeOn formula.tree.names left right := names ▸ agree
    have same := Table.compute_congr inFormula.scope t column
    simp only [Except.map, same]

theorem runColumnMath_congr
    (agree : Environment.AgreeOn
      (args.tableNames "inputTable" ++ args.formulaNames "expression") left right) :
    runColumnMath args left = runColumnMath args right := by
  unfold runColumnMath
  rw [Arguments.table_congr agree.of_append_left]
  cases args.table "inputTable" right with
  | error why => simp only [bind, Except.bind]
  | ok t =>
    cases given : args.required "expression" with
    | error why => simp only [bind, Except.bind]
    | ok source =>
      simp only [bind, Except.bind, computeColumn_congr agree.of_append_right given]

/-- A built-in operation gives the same value, or the same error, in two environments that agree on
the tables its arguments name and on the names in its expression: nothing else of an environment
reaches a value or an error text. -/
theorem run_depends_on_reads {op : Operation} (member : op ∈ operations) (args : Arguments)
    {left right : Environment} (agree : Environment.AgreeOn (op.reads args) left right) :
    op.run args left = op.run args right := by
  simp only [operations, List.mem_cons, List.not_mem_nil, or_false] at member
  rcases member with rfl | rfl | rfl | rfl | rfl | rfl | rfl
  · rfl
  · rfl
  · have reads : filterRows.reads args = args.tableNames "inputTable" := List.append_nil _
    exact runFilter_congr (reads ▸ agree)
  · have reads : columnMath.reads args =
        args.tableNames "inputTable" ++ args.formulaNames "expression" :=
      congrArg (args.tableNames "inputTable" ++ ·) (List.append_nil _)
    exact runColumnMath_congr (reads ▸ agree)
  · have reads : sortRows.reads args = args.tableNames "inputTable" := List.append_nil _
    exact runSort_congr (reads ▸ agree)
  · have reads : constantMath.reads args = args.formulaNames "expression" := List.append_nil _
    exact runConstantMath_congr (reads ▸ agree)
  · have reads : linearRegression.reads args = args.tableNames "tableVar" := List.append_nil _
    exact runRegression_congr (reads ▸ agree)

/-- The arguments of a computed price, with a blank around the name of the table. -/
def pricing : Arguments :=
  NameMap.ofList [("inputTable", .text " goods "), ("expression", .text "net * rate + ghost")]

def market : Environment :=
  NameMap.ofList
    [("goods", .table ⟨["net"], [NameMap.ofList [("net", .text "4")]]⟩), ("rate", .string "2")]

/-- A table that is not named and a variable that does not occur change nothing. -/
theorem run_depends_on_reads_market :
    let crowded := (market.insert "inputTable" (.table ⟨[], []⟩)).insert "gross" (.string "9")
    columnMath ∈ operations ∧ columnMath.reads pricing = ["goods", "net", "rate", "ghost"] ∧
      Environment.AgreeOn (columnMath.reads pricing) crowded market ∧
      market.get? "gross" = none ∧ crowded.get? "gross" = some (.string "9") ∧
      columnMath.run pricing crowded = columnMath.run pricing market := by
  intro crowded
  have member : columnMath ∈ operations := by simp [operations]
  have reads : columnMath.reads pricing = ["goods", "net", "rate", "ghost"] := by decide +kernel
  have agree : Environment.AgreeOn (columnMath.reads pricing) crowded market := by
    intro name named
    rw [reads] at named
    exact (NameMap.agreeOn_insert (by decide) _ name named).trans
      (NameMap.agreeOn_insert (by decide) _ name named)
  exact ⟨member, reads, agree, rfl, NameMap.get?_insert_self _ _ _,
    run_depends_on_reads member pricing agree⟩

end Builtin

end Congruence

/-- Two environments that agree on what a step reads give the step the same value. -/
theorem Step.run_congr {step : Step} {op : Operation} {left right : Environment}
    (found : Registry.builtin.get? step.operation = some op)
    (agree : Environment.AgreeOn step.reads left right) :
    op.run step.arguments left = op.run step.arguments right := by
  obtain ⟨member, named⟩ := Registry.mem_of_get? found
  rw [Registry.builtin_listing] at member
  simp only [Builtin.operations, List.mem_cons, List.not_mem_nil, or_false] at member
  unfold Step.reads at agree
  rw [← named] at agree
  rcases member with rfl | rfl | rfl | rfl | rfl | rfl | rfl
  · rfl
  · rfl
  · exact Builtin.runFilter_congr agree
  · exact Builtin.runColumnMath_congr agree
  · exact Builtin.runSort_congr agree
  · exact Builtin.runConstantMath_congr agree
  · exact Builtin.runRegression_congr agree

theorem Step.attempt_congr {step : Step} {left right : Environment}
    (agree : Environment.AgreeOn step.reads left right) :
    step.attempt .builtin left = step.attempt .builtin right := by
  unfold Step.attempt
  cases found : Registry.builtin.get? step.operation with
  | none => rfl
  | some op => simp only [Step.run_congr found agree]

end RecipeEngine
