import RecipeEngine.Bake.Report
import RecipeEngine.Document.Validation
import RecipeEngine.Json.Writer

namespace RecipeEngine.CommandLine

def hintLines (margin : String) (hint : Option String) : List String :=
  (hint.map fun h => margin ++ "Fix: " ++ h).toList

def entryLines (entry : Entry) : List String :=
  if entry.isSuccess then
    ["✓ " ++ entry.step ++ " [" ++ entry.operation ++ "] → " ++ entry.outputName.getD "" ++ " (" ++
      toString entry.stamp.duration ++ "ms)"]
  else
    ("✗ " ++ entry.step ++ " [" ++ entry.operation ++ "] " ++ entry.message.getD "") ::
      hintLines "    " entry.hint

def skippedLine (step : String) : String := "- " ++ step ++ " skipped (unknown operation)"

def cellSeparator : String := " | "

def shownRows : Nat := 5

/-- The line of a row: its cells in the order of the columns, absent ones empty. -/
def rowLine (columns : List String) (row : Row) : String :=
  cellSeparator.intercalate
    (columns.map fun column => ((row.get? column).map Scalar.display).getD "")

/-- The lines of a table: its columns, its first rows, and the number of the others. -/
def tableLines (t : Table) : List String :=
  cellSeparator.intercalate t.columns ::
    (t.rows.take shownRows).map (rowLine t.columns) ++
    if shownRows < t.rows.length then
      ["… " ++ toString (t.rows.length - shownRows) ++ " more rows"]
    else []

def variableLines (name : String) (value : Value) : List String :=
  ("  " ++ name ++ " = " ++ value.summary) ::
    match value.table? with
    | some t => (tableLines t).map ("    " ++ ·)
    | none => []

def environmentLines (env : Environment) : List String :=
  if env.size = 0 then []
  else "Variables:" :: env.toList.flatMap fun (name, value) => variableLines name value

def verdictLine (report : Report) : String :=
  match report.haltedAt with
  | none => "✓ Bake finished"
  | some step => "✗ Bake halted at step " ++ step

def reportLines (report : Report) (env : Environment) : List String :=
  report.log.flatMap entryLines ++ report.skipped.map skippedLine ++ environmentLines env ++
    [verdictLine report]

def reportJson (report : Report) (env : Environment) : String :=
  (Json.object [("log", report.log.toJson), ("variables", env.toJson)]).canonical.indented

def issueLines (issue : Issue) : List String :=
  ("  [" ++ issue.step ++ "] " ++ issue.failure.message) :: hintLines "    " issue.failure.hint

def validationLines (file : String) (document : Document) (issues : List Issue) : List String :=
  if issues.isEmpty then
    ["✓ Recipe '" ++ file ++ "' is valid", "  Steps: " ++ toString document.steps.length,
      "  Seed variables: " ++ toString document.seeds.size]
  else
    ("✗ Recipe '" ++ file ++ "' has " ++ toString issues.length ++ " problem(s)") ::
      issues.flatMap issueLines

def argumentLine (spec : ArgumentSpec) : String :=
  "    - " ++ spec.name ++ " <" ++ ArgumentSpec.kindName spec.kind ++ ">" ++
    match spec.default with
    | some j => " = " ++ j.compact
    | none => ""

def operationLines (op : Operation) : List String :=
  ("  " ++ op.id ++ " (" ++ op.name ++ ")") :: ("    " ++ op.description) ::
    op.arguments.map argumentLine

def listingLines (registry : Registry) : List String :=
  registry.byGroup.flatMap fun (group, ops) => group.name :: ops.flatMap operationLines

def failureLines (failure : Failure) : List String :=
  ("Error: " ++ failure.message) :: hintLines "  " failure.hint

end RecipeEngine.CommandLine
