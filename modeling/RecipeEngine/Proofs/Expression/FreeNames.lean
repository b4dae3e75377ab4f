import RecipeEngine.Table.Compute

namespace RecipeEngine

/-- Two look-ups give the same under every name of a list. -/
def AgreeOn {α : Type} (names : List String) (left right : String → Option α) : Prop :=
  ∀ name ∈ names, left name = right name

section Agreement

variable {α : Type} {left right : String → Option α} {names more : List String}

theorem AgreeOn.refl : AgreeOn names left left :=
  fun _ _ => rfl

theorem AgreeOn.of_append_left (agree : AgreeOn (names ++ more) left right) :
    AgreeOn names left right :=
  fun name member => agree name (List.mem_append_left _ member)

theorem AgreeOn.of_append_right (agree : AgreeOn (names ++ more) left right) :
    AgreeOn more left right :=
  fun name member => agree name (List.mem_append_right _ member)

/-- A binding of another name changes nothing under the names of a list. -/
theorem NameMap.agreeOn_insert {map : NameMap α} {name : String} (unread : name ∉ names)
    (value : α) : AgreeOn names (map.insert name value).get? map.get? := by
  intro read member
  exact NameMap.get?_insert_of_ne map value fun same => unread (same ▸ member)

end Agreement

namespace Expression

variable {scope other : Scope}

theorem lookup_congr {name : String} (same : scope name = other name) :
    lookup scope name = lookup other name := by
  rw [lookup, lookup, same]

mutual

theorem eval_congr : ∀ {e : Expression}, AgreeOn e.names scope other →
    e.eval scope = e.eval other
  | .number _, _ => rfl
  | .text _, _ => rfl
  | .truth _, _ => rfl
  | .name n, agree => lookup_congr (agree n List.mem_cons_self)
  | .unary op operand, agree => by
    have inner : operand.eval scope = operand.eval other := eval_congr agree
    rw [eval, eval, inner]
  | .binary op left right, agree => by
    have first : left.eval scope = left.eval other := eval_congr agree.of_append_left
    have second : right.eval scope = right.eval other := eval_congr agree.of_append_right
    rw [eval, eval, first, second]
  | .conditional condition yes no, agree => by
    have first : condition.eval scope = condition.eval other :=
      eval_congr agree.of_append_left.of_append_left
    have second : yes.eval scope = yes.eval other :=
      eval_congr agree.of_append_left.of_append_right
    have third : no.eval scope = no.eval other := eval_congr agree.of_append_right
    rw [eval, eval, first, second, third]
  | .call function arguments, agree => by
    have chosen : evalIf scope arguments = evalIf other arguments := evalIf_congr agree
    have all : evalAll scope arguments = evalAll other arguments := evalAll_congr agree
    rw [eval, eval, chosen, all]

theorem evalIf_congr : ∀ {arguments : List Expression},
    AgreeOn (namesOfAll arguments) scope other → evalIf scope arguments = evalIf other arguments
  | [], _ => rfl
  | [_], _ => rfl
  | [_, _], _ => rfl
  | [condition, yes, no], agree => by
    have first : condition.eval scope = condition.eval other := eval_congr agree.of_append_left
    have second : yes.eval scope = yes.eval other :=
      eval_congr agree.of_append_right.of_append_left
    have third : no.eval scope = no.eval other :=
      eval_congr agree.of_append_right.of_append_right.of_append_left
    rw [evalIf, evalIf, first, second, third]
  | _ :: _ :: _ :: _ :: _, _ => rfl

theorem evalAll_congr : ∀ {arguments : List Expression},
    AgreeOn (namesOfAll arguments) scope other → evalAll scope arguments = evalAll other arguments
  | [], _ => rfl
  | first :: rest, agree => by
    have head : first.eval scope = first.eval other := eval_congr agree.of_append_left
    have tail : evalAll scope rest = evalAll other rest := evalAll_congr agree.of_append_right
    rw [evalAll, evalAll, head, tail]

end

end Expression

theorem Formula.evaluate_congr {formula : Formula} {scope other : Scope}
    (agree : AgreeOn formula.tree.names scope other) :
    formula.evaluate scope = formula.evaluate other := by
  rw [evaluate, evaluate, Expression.eval_congr agree]

/-- Rows that agree on some names hide the same variables under them. -/
theorem AgreeOn.withRow {names : List String} {row after : Row} {scope other : Scope}
    (rows : AgreeOn names row.get? after.get?) (agree : AgreeOn names scope other) :
    AgreeOn names (scope.withRow row) (other.withRow after) := by
  intro name member
  rw [Scope.withRow, Scope.withRow, rows name member, agree name member]

theorem Table.computedCell_congr {formula : Formula} {row after : Row} {scope other : Scope}
    (rows : AgreeOn formula.tree.names row.get? after.get?)
    (agree : AgreeOn formula.tree.names scope other) :
    computedCell formula scope row = computedCell formula other after := by
  rw [computedCell, computedCell, Formula.evaluate_congr (rows.withRow agree)]

theorem Table.compute_congr {formula : Formula} {scope other : Scope}
    (agree : AgreeOn formula.tree.names scope other) (t : Table) (column : String) :
    t.compute formula column scope = t.compute formula column other := by
  have cells : ∀ row, computedCell formula scope row = computedCell formula other row :=
    fun row => computedCell_congr .refl agree
  simp only [compute, cells]

/-- A scope of a row over some cells is one map: the union of both, in which the row wins. -/
theorem Scope.withRow_overlay (row : Row) (globals : NameMap Scalar) :
    Scope.withRow row globals.get? = (globals.overlay row).get? := by
  funext name
  rw [withRow, NameMap.get?_overlay]

/-- An expression gives the same answer, or the same error, in scopes that agree on the names that
occur in it. So a row over other cells is as good as the map in which the row is put over them. -/
theorem Expression.eval_depends_on_names (e : Expression) :
    (∀ scope other : Scope, AgreeOn e.names scope other → e.eval scope = e.eval other) ∧
      ∀ (row : Row) (globals : NameMap Scalar),
        e.eval (Scope.withRow row globals.get?) = e.eval (globals.overlay row).get? := by
  refine ⟨fun scope other agree => eval_congr agree, fun row globals => ?_⟩
  rw [Scope.withRow_overlay]

/-- For those who have paid, a price and a constant on top of it. -/
def surcharge : Expression :=
  .call "if" [.name "paid", .binary .add (.name "price") (.name "pi"), .name "ghost"]

theorem Expression.eval_depends_on_names_surcharge :
    let order : NameMap Scalar := NameMap.ofList [("paid", .text "yes"), ("price", .text "7")]
    let large := order.insert "size" (.text "large")
    let row : Row := NameMap.ofList [("price", .text "9")]
    AgreeOn surcharge.names large.get? order.get? ∧ large.get? "size" ≠ order.get? "size" ∧
      surcharge.eval large.get? = surcharge.eval order.get? ∧
      surcharge.eval (Scope.withRow row order.get?) = surcharge.eval (order.overlay row).get? := by
  intro order large row
  have agree : AgreeOn surcharge.names large.get? order.get? :=
    NameMap.agreeOn_insert (by decide) _
  have same := eval_depends_on_names surcharge
  exact ⟨agree, by decide, same.1 _ _ agree, same.2 row order⟩

end RecipeEngine
