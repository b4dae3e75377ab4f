import RecipeEngine.Config.Yaml
import RecipeEngine.Proofs.Bake.Results
import RecipeEngine.Proofs.Document.Checked
import RecipeEngine.Proofs.Operation.Arguments

namespace RecipeEngine

theorem Environment.table_of_bound {env : Environment} {name : String} {t : Table}
    (bound : env.get? name = some (.table t)) : env.table name = .ok t := by
  rw [Environment.table, bound]

/-- A failure to find out which table an argument stands for. -/
def Failure.IsUnresolved (argument : String) : Failure → Prop
  | .missingArgument name => name = argument
  | .variableNotFound _ => True
  | _ => False

namespace Builtin

/-- What is left of a sort when its table has been read. -/
def sortTable (args : Arguments) (t : Table) : Except Failure Value := do
  let column ← args.required "column"
  t.requireColumn column
  let direction ← args.select "direction" directionNames "Ascending"
  .ok (.table (t.sort column (if direction = "Descending" then .descending else .ascending)))

theorem runSort_eq (args : Arguments) (env : Environment) :
    runSort args env = args.table "inputTable" env >>= sortTable args := rfl

/-- A sort that has read its table does not fail for want of one. -/
theorem sortTable_fails (args : Arguments) (t : Table) :
    FailsBy (fun why => ¬ why.IsUnresolved "inputTable") (sortTable args t) := by
  have column : ¬ (Failure.missingArgument "column").IsUnresolved "inputTable" := by
    simp [Failure.IsUnresolved]
  exact .bind (Arguments.required_failsBy column) fun name _ =>
    .bind (Table.requireColumn_failsBy id) fun _ _ =>
    .bind (Arguments.select_failsBy (fun _ => id) _) fun _ _ => .ok _

end Builtin

/-- What comes of trying a step whose operation gives a value or fails. -/
def Attempt.of : Except Failure Value → Attempt
  | .ok value => .result value
  | .error why => .failed why

/-- A step sorts the table in the variable that its argument names. -/
structure Step.Sorts (registry : Registry) (name : String) (step : Step) : Prop where
  operation : registry.get? step.operation = some Builtin.sortRows
  table : step.arguments.get? "inputTable" = some (.text name)

namespace Step.Sorts

variable {registry : Registry} {name : String} {sorter : Step} {env : Environment} {t : Table}

theorem table_eq (sorts : sorter.Sorts registry name) (env : Environment) :
    sorter.arguments.table "inputTable" env =
      if Text.isAllBlank name then .error (.missingArgument "inputTable")
      else env.table (Text.trim name) := by
  rw [Arguments.table, Arguments.required_of_text? (Arguments.text?_of_get? sorts.table)]
  cases Text.isAllBlank name <;> rfl

theorem attempt_eq (sorts : sorter.Sorts registry name) (env : Environment) :
    sorter.attempt registry env = .of (sorter.arguments.table "inputTable" env >>=
      Builtin.sortTable sorter.arguments) := by
  rw [← Builtin.runSort_eq, Step.attempt, sorts.operation]
  show (match Builtin.runSort sorter.arguments env with
    | .ok value => Attempt.result value
    | .error why => .failed why) = _
  cases Builtin.runSort sorter.arguments env <;> rfl

theorem attempt_of_table (sorts : sorter.Sorts registry name)
    (read : sorter.arguments.table "inputTable" env = .ok t) :
    sorter.attempt registry env = .of (Builtin.sortTable sorter.arguments t) := by
  rw [sorts.attempt_eq, read]
  rfl

/-- A sort that has read a table fails for other reasons only. -/
theorem resolved_of_table (sorts : sorter.Sorts registry name)
    (read : sorter.arguments.table "inputTable" env = .ok t) {why : Failure}
    (failed : sorter.attempt registry env = .failed why) : ¬ why.IsUnresolved "inputTable" := by
  rw [sorts.attempt_of_table read] at failed
  cases sorted : Builtin.sortTable sorter.arguments t with
  | ok value =>
    rw [sorted] at failed
    cases failed
  | error other =>
    rw [sorted] at failed
    cases failed
    exact Builtin.sortTable_fails sorter.arguments t why sorted

end Step.Sorts

namespace Recipe

variable {registry : Registry} {config : Config} {clock : Clock} {env : Environment}
  {before between : Recipe} {step sorter : Step} {t : Table}

/-- A sort that is given the name of a bound table reads exactly that table if the name can be
referred to. If not, the name is blank and the argument counts as missing, or the sort looks for
another name, the one without the white space at the ends. -/
theorem sort_of_result (yields : Yields registry config clock env before step (.table t))
    (untouched : step.outputName config.lead ∉ between.outputs config.lead)
    (sorts : sorter.Sorts registry (step.outputName config.lead)) :
    let name := step.outputName config.lead
    let now := ((before ++ step :: between).bake registry config clock env).environment
    now.get? name = some (.table t) ∧
      (step.IsReferable config.lead →
        sorter.arguments.table "inputTable" now = .ok t ∧
          sorter.attempt registry now = .of (Builtin.sortTable sorter.arguments t) ∧
          ∀ why, sorter.attempt registry now = .failed why → ¬ why.IsUnresolved "inputTable") ∧
      (¬ step.IsReferable config.lead →
        Text.isAllBlank name = true ∧
            sorter.attempt registry now = .failed (.missingArgument "inputTable") ∨
          Text.isAllBlank name = false ∧ Text.trim name ≠ name ∧
            sorter.attempt registry now =
              .of (now.table (Text.trim name) >>= Builtin.sortTable sorter.arguments)) := by
  intro name now
  have bound : now.get? name = some (.table t) := yields.kept untouched
  have read := sorts.table_eq now
  rw [Step.isReferable_iff]
  refine ⟨bound, fun ⟨trimmed, given⟩ => ?_, fun lost => ?_⟩
  · have visible : ¬ Text.isAllBlank name = true := by
      rw [← Text.trim_eq_empty_iff, trimmed]
      exact given
    rw [if_neg visible, trimmed, Environment.table_of_bound bound] at read
    exact ⟨read, sorts.attempt_of_table read, fun why => sorts.resolved_of_table read⟩
  · rw [sorts.attempt_eq, read]
    cases blank : Text.isAllBlank name with
    | true => exact .inl ⟨rfl, rfl⟩
    | false =>
      have given : name ≠ "" := by
        intro void
        rw [void] at blank
        cases blank
      exact .inr ⟨rfl, fun trimmed => lost ⟨trimmed, given⟩, rfl⟩

/-- A table of one name, without a name for the result. -/
def loading : Step where
  id := "load"
  operation := "op_from_csv"
  arguments := NameMap.ofList [("csvContent", .text "name\nNadia")]
  output := ""

def sorting (table : String) : Step where
  id := "order"
  operation := "op_sort_rows"
  arguments := NameMap.ofList [("inputTable", .text table), ("column", .text "name")]
  output := "ordered"

def visitors : Table := ⟨["name"], [NameMap.ofList [("name", .text "Nadia")]]⟩

theorem loading_yields (lead : String) :
    Yields .builtin { lead } (fun _ => ⟨"09:00", 3⟩) NameMap.empty [] loading (.table visitors) :=
  ⟨rfl, rfl⟩

theorem sort_of_result_visitors :
    let sorter := sorting "out_load"
    let now := (Recipe.bake .builtin { lead := "out_" } (fun _ => ⟨"09:00", 3⟩) [loading]
      NameMap.empty).environment
    (Yields .builtin { lead := "out_" } (fun _ => ⟨"09:00", 3⟩) NameMap.empty [] loading
        (.table visitors) ∧
      loading.outputName "out_" ∉ outputs [] "out_" ∧
      sorter.Sorts .builtin (loading.outputName "out_") ∧ loading.IsReferable "out_") ∧
    sorter.arguments.table "inputTable" now = .ok visitors ∧
      sorter.attempt .builtin now = .result (.table visitors) := by
  intro sorter now
  have named : loading.outputName "out_" = "out_load" := by decide
  have sorts : sorter.Sorts .builtin (loading.outputName "out_") := by
    rw [named]
    exact ⟨rfl, rfl⟩
  have untouched : loading.outputName "out_" ∉ outputs [] "out_" := List.not_mem_nil
  have referable : loading.IsReferable "out_" := Step.isReferable_iff.mpr (by decide)
  obtain ⟨-, found, -⟩ := sort_of_result (loading_yields "out_") untouched sorts
  obtain ⟨read, sorted, -⟩ := found referable
  have order : Builtin.sortTable sorter.arguments visitors =
      .ok (.table (visitors.sort "name" .ascending)) := rfl
  have single : visitors.sort "name" .ascending = visitors := by
    simp [visitors, Table.sort]
  rw [order, single] at sorted
  exact ⟨⟨loading_yields _, untouched, sorts, referable⟩, read, sorted⟩

/-- Settings that start the names that are made with a space. -/
def spacedSettings : String := "output_prefix: \" out_\""

theorem ofYaml_spacedSettings : Config.ofYaml spacedSettings = .ok { lead := " out_" } := by
  have read : (Config.ofYaml spacedSettings).toOption = some { lead := " out_" } := by
    decide +kernel
  cases parsed : Config.ofYaml spacedSettings with
  | error why =>
    rw [parsed] at read
    cases read
  | ok config =>
    rw [parsed] at read
    exact congrArg Except.ok (Option.some.inj read)

/-- Where settings start names with a space, a table is not found by the name it is bound to. -/
theorem not_sort_of_result :
    ¬ ∀ (settings : String) (config : Config) (clock : Clock) (env : Environment)
        (before : Recipe) (step sorter : Step) (t : Table),
      Config.ofYaml settings = .ok config →
      Yields .builtin config clock env before step (.table t) →
      sorter.Sorts .builtin (step.outputName config.lead) →
      ∀ why, sorter.attempt .builtin
          ((before ++ [step]).bake .builtin config clock env).environment = .failed why →
        ¬ why.IsUnresolved "inputTable" := by
  intro claimed
  have sorts : (sorting " out_load").Sorts .builtin (loading.outputName " out_") := by
    have named : loading.outputName " out_" = " out_load" := by decide
    rw [named]
    exact ⟨rfl, rfl⟩
  exact claimed spacedSettings { lead := " out_" } _ NameMap.empty [] loading
    (sorting " out_load") visitors ofYaml_spacedSettings (loading_yields " out_") sorts
    (.variableNotFound "out_load") rfl trivial

end Recipe

end RecipeEngine
