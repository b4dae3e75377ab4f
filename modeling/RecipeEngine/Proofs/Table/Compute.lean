import RecipeEngine.Proofs.Expression.FreeNames
import RecipeEngine.Proofs.Number.NonFinite
import RecipeEngine.Table.Filter
import RecipeEngine.Table.Sort
import Mathlib.Data.List.Forall2

namespace RecipeEngine

section Evaluation

variable {env : Environment} {formula : Formula} {tree : Expression} {column : String}

/-- What the names stand for in a row: its cells, and where it has none the numbers and strings of
the environment. -/
def Row.over (row : Row) (env : Environment) : Scope := fun name =>
  match row.get? name, env.get? name with
  | some cell, _ => some cell
  | none, some (.number x) => some (.number x)
  | none, some (.string s) => some (.text s)
  | none, _ => none

theorem Row.over_eq_withRow (row : Row) (env : Environment) :
    row.over env = env.scope.withRow row := by
  funext name
  rw [Row.over, Scope.withRow, Environment.scope, Environment.scalar?]
  cases row.get? name with
  | some cell => rfl
  | none =>
    cases env.get? name with
    | none => rfl
    | some value => cases value <;> rfl

/-- A row after an expression was evaluated in it into a column: all other cells are as they were,
and the cell of the column is the answer, or NaN if there was none. -/
structure Row.Computed (tree : Expression) (column : String) (env : Environment)
    (before after : Row) : Prop where
  others : ∀ name, name ≠ column → after.get? name = before.get? name
  answered : ∀ answer, tree.eval (before.over env) = .ok answer →
    after.get? column = some answer.toScalar
  failed : ∀ why, tree.eval (before.over env) = .error why →
    ∃ x : Float, x.isNaN = true ∧ after.get? column = some (.number x)

theorem Row.Computed.unique {before after other : Row}
    (left : Row.Computed tree column env before after)
    (right : Row.Computed tree column env before other) : after = other := by
  refine NameMap.ext fun name => ?_
  by_cases here : name = column
  · rw [here]
    cases result : tree.eval (before.over env) with
    | ok answer => rw [left.answered answer result, right.answered answer result]
    | error why =>
      obtain ⟨x, nan, cell⟩ := left.failed why result
      obtain ⟨y, otherNan, otherCell⟩ := right.failed why result
      rw [cell, otherCell, Dyadic.eq_of_isNaN nan otherNan]
  · rw [left.others name here, right.others name here]

theorem Row.computed_insert (formula : Formula) (column : String) (env : Environment)
    (before : Row) :
    Row.Computed formula.tree column env before
      (before.insert column (Table.computedCell formula env.scope before)) where
  others name apart := NameMap.get?_insert_of_ne before _ apart.symm
  answered answer given := by
    rw [over_eq_withRow] at given
    rw [NameMap.get?_insert_self, Table.computedCell, Formula.evaluate, given]
  failed why given := by
    have known : Arithmetic.nan.isNaN = true := by decide
    refine ⟨Arithmetic.nan, known, ?_⟩
    rw [over_eq_withRow] at given
    rw [NameMap.get?_insert_self, Table.computedCell, Formula.evaluate, given]

namespace Table

/-- A table after an expression was evaluated into a column: its rows, each computed, in their
order, and its columns, with the computed one at the end if it was not there. -/
structure Computed (tree : Expression) (column : String) (env : Environment)
    (before after : Table) : Prop where
  rows : List.Forall₂ (Row.Computed tree column env) before.rows after.rows
  declared : column ∈ before.columns → after.columns = before.columns
  appended : column ∉ before.columns → after.columns = before.columns ++ [column]

theorem Computed.unique {before after other : Table}
    (left : Computed tree column env before after)
    (right : Computed tree column env before other) : after = other := by
  have rows : after.rows = other.rows :=
    Relator.RightUnique.forall₂ (fun _ _ _ one two => one.unique two) left.rows right.rows
  have columns : after.columns = other.columns := by
    by_cases declared : column ∈ before.columns
    · rw [left.declared declared, right.declared declared]
    · rw [left.appended declared, right.appended declared]
  cases after
  cases other
  cases rows
  cases columns
  rfl

theorem columns_compute (t : Table) (globals : Scope) :
    (t.compute formula column globals).columns =
      if column ∈ t.columns then t.columns else t.columns ++ [column] := by
  simp only [compute, hasColumn, List.contains_iff_mem]

theorem computed_compute (t : Table) (formula : Formula) (column : String) (env : Environment) :
    Computed formula.tree column env t (t.compute formula column env.scope) where
  rows := List.forall₂_map_right_iff.mpr
    (List.forall₂_same.mpr fun row _ => Row.computed_insert formula column env row)
  declared member := by rw [columns_compute, if_pos member]
  appended absent := by rw [columns_compute, if_neg absent]

theorem computeColumn_of_compile {source : String}
    (compiled : Formula.compile source = .ok formula) (t : Table) (column : String)
    (env : Environment) :
    t.computeColumn source column env = .ok (t.compute formula column env.scope) := by
  rw [computeColumn, compiled, Except.map]

/-- Computing a column fails exactly as the expression fails to compile, whatever the rows hold.
Otherwise it gives the one table in which each row has its own answer, or NaN, in the column. -/
theorem computeColumn_rowwise (t : Table) (source column : String) (env : Environment) :
    (∀ why, t.computeColumn source column env = .error why ↔
        Formula.compile source = .error why) ∧
      ∀ result, t.computeColumn source column env = .ok result ↔
        ∃ formula, Formula.compile source = .ok formula ∧
          Computed formula.tree column env t result := by
  cases compiled : Formula.compile source with
  | error why =>
    have failed : t.computeColumn source column env = .error why := by
      rw [computeColumn, compiled, Except.map]
    rw [failed]
    exact ⟨fun other => by simp, fun result => by simp⟩
  | ok formula =>
    have computed := computed_compute t formula column env
    rw [computeColumn_of_compile compiled]
    refine ⟨fun why => by simp, fun result => ⟨?_, ?_⟩⟩
    · intro given
      exact ⟨formula, rfl, Except.ok.inj given ▸ computed⟩
    · rintro ⟨other, same, right⟩
      cases Except.ok.inj same
      exact congrArg Except.ok (computed.unique right)

end Table

end Evaluation

namespace Table

/-- A row with the answer of a formula in one column. -/
def computedRow (formula : Formula) (column : String) (globals : Scope) (row : Row) : Row :=
  row.insert column (computedCell formula globals row)

theorem rows_compute (t : Table) (formula : Formula) (column : String) (globals : Scope) :
    (t.compute formula column globals).rows = t.rows.map (computedRow formula column globals) :=
  rfl

section Rearrangement

variable {formula : Formula} {column other : String} {globals : Scope}

theorem get?_computedRow (apart : other ≠ column) (row : Row) :
    (computedRow formula column globals row).get? other = row.get? other :=
  NameMap.get?_insert_of_ne row _ apart.symm

theorem filter_compute (apart : other ≠ column) (t : Table) (condition : Condition) :
    (t.compute formula column globals).filter other condition =
      (t.filter other condition).compute formula column globals := by
  have kept : rowHolds other condition ∘ computedRow formula column globals =
      rowHolds other condition := by
    funext row
    rw [Function.comp_apply, rowHolds, rowHolds, get?_computedRow apart]
  have rows : (t.rows.map (computedRow formula column globals)).filter
        (rowHolds other condition) =
      (t.rows.filter (rowHolds other condition)).map (computedRow formula column globals) := by
    rw [List.filter_map, kept]
  exact congrArg (Table.mk _) rows

theorem sort_compute (apart : other ≠ column) (t : Table) (direction : Direction) :
    (t.compute formula column globals).sort other direction =
      (t.sort other direction).compute formula column globals := by
  have order : ∀ a b, compareRows other direction (computedRow formula column globals a)
      (computedRow formula column globals b) = compareRows other direction a b := by
    intro a b
    simp only [compareRows, get?_computedRow apart]
  have rows : (t.rows.mergeSort fun a b => compareRows other direction a b != .gt).map
        (computedRow formula column globals) =
      (t.rows.map (computedRow formula column globals)).mergeSort fun a b =>
        compareRows other direction a b != .gt :=
    List.map_mergeSort fun a _ b _ => by rw [order]
  exact congrArg (Table.mk _) rows.symm

/-- What can be exchanged with every formula can be exchanged with computing a column. -/
theorem computeColumn_map {change : Table → Table} {env : Environment} (t : Table)
    (passes : ∀ formula, change (t.compute formula column env.scope) =
      (change t).compute formula column env.scope) (source : String) :
    (t.computeColumn source column env).map change =
      (change t).computeColumn source column env := by
  unfold computeColumn
  cases Formula.compile source with
  | error why => rfl
  | ok formula => exact congrArg Except.ok (passes formula)

/-- Rows can be filtered or sorted by another column before or after a column is computed, with the
same table, or the same error of the expression. -/
theorem computeColumn_filter_sort (apart : other ≠ column) (t : Table) (source : String)
    (env : Environment) :
    (∀ condition, (t.computeColumn source column env).map (·.filter other condition) =
        (t.filter other condition).computeColumn source column env) ∧
      ∀ direction, (t.computeColumn source column env).map (·.sort other direction) =
        (t.sort other direction).computeColumn source column env := by
  refine ⟨fun condition => ?_, fun direction => ?_⟩
  · exact computeColumn_map t (fun _ => filter_compute apart t condition) source
  · exact computeColumn_map t (fun _ => sort_compute apart t direction) source

end Rearrangement

/-- A row with an old sum in it, and a row without a price and a tag. -/
def goods : Table where
  columns := ["label", "tag", "price", "sum"]
  rows :=
    [NameMap.ofList
      [("label", .text "pen"), ("tag", .text "pen"), ("price", .text "3"), ("sum", .text "old")],
     NameMap.ofList [("label", .text "ink")]]

/-- A rate, and a variable that is called like a column of the goods. -/
def stall : Environment :=
  NameMap.ofList [("rate", .string "2"), ("sum", .string "none"), ("goods", .table goods)]

theorem compile_sum : Formula.compile "price + rate" =
    .ok ⟨"price + rate", .binary .add (.name "price") (.name "rate")⟩ :=
  Formula.compile_of_parse [⟨.name "price", 0⟩, ⟨.symbol .plus, 6⟩, ⟨.name "rate", 8⟩]
    (by rfl) (by rfl)

theorem computeColumn_filter_sort_goods :
    "label" ≠ "sum" ∧
      (∃ result, goods.computeColumn "price + rate" "sum" stall = .ok result) ∧
      (goods.computeColumn "price + rate" "sum" stall).map (·.filter "label" (.contains "k")) =
        (goods.filter "label" (.contains "k")).computeColumn "price + rate" "sum" stall ∧
      (goods.computeColumn "price + rate" "sum" stall).map (·.sort "label" .ascending) =
        (goods.sort "label" .ascending).computeColumn "price + rate" "sum" stall := by
  have apart : "label" ≠ "sum" := by decide
  have rule := computeColumn_filter_sort apart goods "price + rate" stall
  exact ⟨apart, ⟨_, computeColumn_of_compile compile_sum goods "sum" stall⟩, rule.1 _, rule.2 _⟩

section Exchange

variable {first second : Formula} {column other : String}

/-- A formula that does not read a column has the same answer with another cell there. -/
theorem computedCell_insert {formula : Formula} (unread : column ∉ formula.tree.names)
    (globals : Scope) (row : Row) (cell : Scalar) :
    computedCell formula globals (row.insert column cell) = computedCell formula globals row :=
  computedCell_congr (NameMap.agreeOn_insert unread cell) .refl

theorem computedRow_comm (apart : column ≠ other) (unread : column ∉ second.tree.names)
    (otherUnread : other ∉ first.tree.names) (globals : Scope) (row : Row) :
    computedRow second other globals (computedRow first column globals row) =
      computedRow first column globals (computedRow second other globals row) := by
  unfold computedRow
  rw [computedCell_insert unread, computedCell_insert otherUnread]
  exact NameMap.insert_comm row _ _ apart

theorem rows_compute_comm (apart : column ≠ other) (unread : column ∉ second.tree.names)
    (otherUnread : other ∉ first.tree.names) (t : Table) (globals : Scope) :
    ((t.compute first column globals).compute second other globals).rows =
      ((t.compute second other globals).compute first column globals).rows := by
  simp only [rows_compute, List.map_map]
  exact List.map_congr_left fun row _ => computedRow_comm apart unread otherUnread globals row

theorem columns_compute_comm (apart : column ≠ other) (t : Table) (globals : Scope) :
    ((t.compute first column globals).compute second other globals).columns.Perm
      ((t.compute second other globals).compute first column globals).columns := by
  have swapped : (t.columns ++ [column, other]).Perm (t.columns ++ [other, column]) :=
    (List.Perm.swap other column []).append_left t.columns
  simp only [columns_compute]
  by_cases declared : column ∈ t.columns
  · by_cases otherDeclared : other ∈ t.columns <;> simp [declared, otherDeclared]
  · by_cases otherDeclared : other ∈ t.columns
    · simp [declared, otherDeclared]
    · simpa [declared, otherDeclared, apart, apart.symm] using swapped

/-- Two columns of which neither expression reads the other can be computed in either order: the
rows are the same, and so are the columns up to their order. -/
theorem computeColumn_comm {one two : String} (firstCompiles : Formula.compile one = .ok first)
    (secondCompiles : Formula.compile two = .ok second) (apart : column ≠ other)
    (unread : column ∉ second.tree.names) (otherUnread : other ∉ first.tree.names) (t : Table)
    (env : Environment) :
    ∃ left right,
      (t.computeColumn one column env).bind (·.computeColumn two other env) = .ok left ∧
      (t.computeColumn two other env).bind (·.computeColumn one column env) = .ok right ∧
      left.rows = right.rows ∧ left.columns.Perm right.columns := by
  have left := computeColumn_of_compile firstCompiles t column env
  have right := computeColumn_of_compile secondCompiles t other env
  rw [left, right]
  exact ⟨_, _, computeColumn_of_compile secondCompiles _ other env,
    computeColumn_of_compile firstCompiles _ column env,
    rows_compute_comm apart unread otherUnread t env.scope,
    columns_compute_comm apart t env.scope⟩

end Exchange

theorem compile_tagged : Formula.compile "label == tag" =
    .ok ⟨"label == tag", .binary .equal (.name "label") (.name "tag")⟩ :=
  Formula.compile_of_parse [⟨.name "label", 0⟩, ⟨.symbol .equal, 6⟩, ⟨.name "tag", 9⟩]
    (by rfl) (by rfl)

theorem computeColumn_comm_goods :
    let sum : Expression := .binary .add (.name "price") (.name "rate")
    let tagged : Expression := .binary .equal (.name "label") (.name "tag")
    Formula.compile "price + rate" = .ok ⟨"price + rate", sum⟩ ∧
      Formula.compile "label == tag" = .ok ⟨"label == tag", tagged⟩ ∧
      "sum" ≠ "tagged" ∧ "sum" ∉ tagged.names ∧ "tagged" ∉ sum.names ∧
      ∃ left right,
        (goods.computeColumn "price + rate" "sum" stall).bind
          (·.computeColumn "label == tag" "tagged" stall) = .ok left ∧
        (goods.computeColumn "label == tag" "tagged" stall).bind
          (·.computeColumn "price + rate" "sum" stall) = .ok right ∧
        left.rows = right.rows ∧ left.columns.Perm right.columns :=
  ⟨compile_sum, compile_tagged, by decide, by decide, by decide,
    computeColumn_comm compile_sum compile_tagged (by decide) (by decide) (by decide) goods stall⟩

end Table

end RecipeEngine
