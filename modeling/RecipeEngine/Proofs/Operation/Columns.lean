import RecipeEngine.Proofs.Document.Checked
import RecipeEngine.Proofs.Operation.Arguments

namespace RecipeEngine

def Failure.IsColumnMissing : Failure → Prop
  | .columnNotFound .. => True
  | _ => False

namespace Builtin

variable {args : Arguments} {env : Environment} {t : Table} {column : String}

/-- Acts on the column that the argument names, which must be declared. -/
def onColumn (args : Arguments) (t : Table) (act : String → Except Failure Value) :
    Except Failure Value := do
  let column ← args.required "column"
  t.requireColumn column
  act column

/-- Filters a table by one column, as the other arguments say. -/
def filterColumn (args : Arguments) (t : Table) (column : String) : Except Failure Value := do
  let name ← args.select "operator" conditionNames "equals"
  let value ← conditionValue args name
  .ok (.table (t.filter column (condition name value)))

/-- Sorts a table by one column, as the other arguments say. -/
def sortColumn (args : Arguments) (t : Table) (column : String) : Except Failure Value := do
  let direction ← args.select "direction" directionNames "Ascending"
  .ok (.table (t.sort column (if direction = "Descending" then .descending else .ascending)))

theorem runFilter_of_table (read : args.table "inputTable" env = .ok t) :
    filterRows.run args env = onColumn args t (filterColumn args t) := by
  show runFilter args env = _
  rw [runFilter, read]
  rfl

theorem runSort_of_table (read : args.table "inputTable" env = .ok t) :
    sortRows.run args env = onColumn args t (sortColumn args t) := by
  show runSort args env = _
  rw [runSort, read]
  rfl

theorem requireColumn_eq (t : Table) (column : String) :
    t.requireColumn column =
      if column ∈ t.columns then .ok () else .error (.columnNotFound column t.columns) := by
  rw [Table.requireColumn, Table.hasColumn]
  exact if_congr List.contains_iff_mem rfl rfl

/-- A visible text stands for the column whose name is left when it is trimmed. -/
theorem onColumn_of_text (given : args.get? "column" = some (.text column))
    (visible : ¬ Text.isAllBlank column = true) (act : String → Except Failure Value) :
    onColumn args t act =
      if Text.trim column ∈ t.columns then act (Text.trim column)
      else .error (.columnNotFound (Text.trim column) t.columns) := by
  rw [onColumn, Arguments.required_of_text? (Arguments.text?_of_get? given), if_neg visible]
  show (t.requireColumn (Text.trim column) >>= fun _ => act (Text.trim column)) = _
  rw [requireColumn_eq]
  split <;> rfl

theorem filterColumn_fails (args : Arguments) (t : Table) (column : String) :
    FailsBy (fun why => ¬ why.IsColumnMissing) (filterColumn args t column) := by
  refine .bind (Arguments.select_failsBy (fun _ => id) _) fun name _ => .bind ?_ fun _ _ => .ok _
  unfold conditionValue
  split
  · exact Arguments.required_failsBy id
  · exact .ok _

theorem sortColumn_fails (args : Arguments) (t : Table) (column : String) :
    FailsBy (fun why => ¬ why.IsColumnMissing) (sortColumn args t column) :=
  .bind (Arguments.select_failsBy (fun _ => id) _) fun _ _ => .ok _

end Builtin

/-- What comes of acting on the column whose name is given. A name with white space at an end stands
for another column, which may be there or not. -/
structure Table.Resolves (t : Table) (column : String) (act : String → Except Failure Value)
    (outcome : Except Failure Value) : Prop where
  same : Text.trim column = column →
    outcome = act column ∧ FailsBy (fun why => ¬ why.IsColumnMissing) outcome
  other : Text.trim column ≠ column → Text.trim column ∈ t.columns →
    outcome = act (Text.trim column)
  none : Text.trim column ∉ t.columns →
    outcome = .error (.columnNotFound (Text.trim column) t.columns)

namespace Builtin

variable {args : Arguments} {env : Environment} {t : Table} {column : String}

theorem resolves_onColumn (declared : column ∈ t.columns)
    (visible : ¬ Text.isAllBlank column = true)
    (given : args.get? "column" = some (.text column)) {act : String → Except Failure Value}
    (fails : FailsBy (fun why => ¬ why.IsColumnMissing) (act column)) :
    t.Resolves column act (onColumn args t act) := by
  rw [onColumn_of_text given visible]
  constructor
  · intro trimmed
    rw [trimmed, if_pos declared]
    exact ⟨rfl, fails⟩
  · intro _ there
    rw [if_pos there]
  · intro absent
    rw [if_neg absent]

/-- A filter and a sort that are given the name of a column of their table act on that column if the
name has no white space at its ends. Else they act on another column, the one with the trimmed name,
or fail where there is none. -/
theorem declaredColumn_resolves (read : args.table "inputTable" env = .ok t)
    (declared : column ∈ t.columns) (visible : ¬ Text.isAllBlank column = true)
    (given : args.get? "column" = some (.text column)) :
    t.Resolves column (filterColumn args t) (filterRows.run args env) ∧
      t.Resolves column (sortColumn args t) (sortRows.run args env) := by
  rw [runFilter_of_table read, runSort_of_table read]
  exact ⟨resolves_onColumn declared visible given (filterColumn_fails args t column),
    resolves_onColumn declared visible given (sortColumn_fails args t column)⟩

/-- The arguments that name a table and one of its columns, with a value. -/
def choosing (column value : String) : Arguments :=
  NameMap.ofList [("inputTable", .text "t"), ("column", .text column), ("value", .text value)]

def spaced : Table :=
  ⟨["city", " city"], [NameMap.ofList [("city", .text "Bern"), (" city", .text "Thun")]]⟩

def holding (t : Table) : Environment := NameMap.ofList [("t", .table t)]

theorem declaredColumn_resolves_spaced :
    let args := choosing "city" "Bern"
    (args.table "inputTable" (holding spaced) = .ok spaced ∧ "city" ∈ spaced.columns ∧
      ¬ Text.isAllBlank "city" = true ∧ args.get? "column" = some (.text "city")) ∧
    filterRows.run args (holding spaced) = .ok (.table spaced) := by
  have read : (choosing "city" "Bern").table "inputTable" (holding spaced) = .ok spaced := rfl
  have declared : "city" ∈ spaced.columns := List.mem_cons_self
  have visible : ¬ Text.isAllBlank "city" = true := by decide
  have given : (choosing "city" "Bern").get? "column" = some (.text "city") := rfl
  obtain ⟨found, -⟩ := declaredColumn_resolves read declared visible given
  exact ⟨⟨read, declared, visible, given⟩, (found.same (by decide)).1.trans rfl⟩

/-- Where a header has a space at an end, the column is not found by its name, or that of another
one is used. -/
theorem not_declaredColumn_resolves :
    (¬ ∀ (text : String) (args : Arguments) (t : Table) (column : String),
      Csv.toTable text true = .ok t → args.table "inputTable" (holding t) = .ok t →
      column ∈ t.columns → ¬ Text.isAllBlank column = true →
      args.get? "column" = some (.text column) →
      FailsBy (fun why => ¬ why.IsColumnMissing) (sortRows.run args (holding t))) ∧
    ¬ ∀ (args : Arguments) (env : Environment) (t : Table) (column : String),
      args.table "inputTable" env = .ok t → column ∈ t.columns →
      ¬ Text.isAllBlank column = true → args.get? "column" = some (.text column) →
      filterRows.run args env = filterColumn args t column := by
  constructor
  · intro claimed
    exact claimed "name, city\nNadia,Bern" (choosing " city" "") _ " city" rfl rfl (by decide)
      (by decide) rfl (.columnNotFound "city" ["name", " city"]) rfl trivial
  · intro claimed
    have same := claimed (choosing " city" "Thun") (holding spaced) spaced " city" rfl (by decide)
      (by decide) rfl
    cases same

end Builtin

end RecipeEngine
