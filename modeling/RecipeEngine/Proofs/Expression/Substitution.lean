import RecipeEngine.Table.Compute

namespace RecipeEngine

/-- A scope with a value stored under a name; a table is no operand, and hides the name. -/
def Scope.store (scope : Scope) (name : String) (value : Value) : Scope := fun other =>
  if other = name then value.scalar? else scope other

theorem Environment.scope_insert (env : Environment) (name : String) (value : Value) :
    Environment.scope (NameMap.insert env name value) = env.scope.store name value := by
  funext other
  rw [Environment.scope, Environment.scalar?, NameMap.get?_insert, Scope.store]
  by_cases here : name = other
  · rw [if_pos here, if_pos here.symm]
    rfl
  · rw [if_neg here, if_neg (Ne.symm here)]
    rfl

theorem Answer.ofScalar_toScalar {a : Answer} (storable : ∀ b, a ≠ .truth b) :
    Answer.ofScalar a.toScalar = a := by
  cases a with
  | number x => rfl
  | text s => rfl
  | truth b => exact absurd rfl (storable b)

namespace Expression

mutual

/-- The expression with another one for every occurrence of a name. -/
def substitute (name : String) (inner : Expression) : Expression → Expression
  | .number x => .number x
  | .text s => .text s
  | .truth b => .truth b
  | .name n => if n = name then inner else .name n
  | .unary op operand => .unary op (substitute name inner operand)
  | .binary op left right =>
    .binary op (substitute name inner left) (substitute name inner right)
  | .conditional condition yes no =>
    .conditional (substitute name inner condition) (substitute name inner yes)
      (substitute name inner no)
  | .call function arguments => .call function (substituteAll name inner arguments)

def substituteAll (name : String) (inner : Expression) : List Expression → List Expression
  | [] => []
  | first :: rest => substitute name inner first :: substituteAll name inner rest

end

section Substitution

variable {scope stored : Scope} {name : String} {inner : Expression}

/-- In one scope a name stands for what another expression gives in the other scope; all other
names stand for the same in both. -/
def StandsFor (stored : Scope) (name : String) (inner : Expression) (scope : Scope) : Prop :=
  ∀ n, lookup stored n = if n = name then inner.eval scope else lookup scope n

mutual

theorem eval_substitute (stands : StandsFor stored name inner scope) :
    ∀ e : Expression, (substitute name inner e).eval scope = e.eval stored
  | .number _ => rfl
  | .text _ => rfl
  | .truth _ => rfl
  | .name n => by
    rw [substitute, eval, stands n]
    split
    · rfl
    · rw [eval]
  | .unary op operand => by
    have same := eval_substitute stands operand
    rw [substitute, eval, eval, same]
  | .binary op left right => by
    have first := eval_substitute stands left
    have second := eval_substitute stands right
    rw [substitute, eval, eval, first, second]
  | .conditional condition yes no => by
    have first := eval_substitute stands condition
    have second := eval_substitute stands yes
    have third := eval_substitute stands no
    rw [substitute, eval, eval, first, second, third]
  | .call function arguments => by
    have chosen := evalIf_substitute stands arguments
    have all := evalAll_substitute stands arguments
    rw [substitute, eval, eval, chosen, all]

theorem evalIf_substitute (stands : StandsFor stored name inner scope) :
    ∀ arguments : List Expression,
      evalIf scope (substituteAll name inner arguments) = evalIf stored arguments
  | [] => rfl
  | [_] => rfl
  | [_, _] => rfl
  | [condition, yes, no] => by
    have first := eval_substitute stands condition
    have second := eval_substitute stands yes
    have third := eval_substitute stands no
    simp only [substituteAll, evalIf, first, second, third]
  | _ :: _ :: _ :: _ :: _ => rfl

theorem evalAll_substitute (stands : StandsFor stored name inner scope) :
    ∀ arguments : List Expression,
      evalAll scope (substituteAll name inner arguments) = evalAll stored arguments
  | [] => rfl
  | first :: rest => by
    have head := eval_substitute stands first
    have tail := evalAll_substitute stands rest
    rw [substituteAll, evalAll, evalAll, head, tail]

end

theorem standsFor_store {cell : Scalar} (given : inner.eval scope = .ok (.ofScalar cell)) :
    StandsFor (scope.store name (.ofScalar cell)) name inner scope := by
  intro n
  unfold lookup Scope.store
  by_cases here : n = name
  · simp only [if_pos here, Value.scalar?_ofScalar, given]
  · simp only [if_neg here]

end Substitution

/-- The text function gives a truth value the form in which it is stored. -/
theorem eval_string {scope : Scope} {e : Expression} {a : Answer} (given : e.eval scope = .ok a) :
    (Expression.call "string" [e]).eval scope = .ok (.text a.display) := by
  simp [eval, evalAll, given, apply, single, Except.map]

/-- An expression that reads a stored result gives the same answer, or the same error, as with the
expression of that result in the place of the name. This holds of numbers and texts; a truth value
is read as the text `true` or `false`, for which the text function stands. Binding the stored result
in an environment is what puts it under its name. -/
theorem eval_store {scope : Scope} {inner : Expression} {a : Answer}
    (given : inner.eval scope = .ok a) (name : String) (e : Expression) :
    ((∀ b, a ≠ .truth b) →
        e.eval (scope.store name (.ofScalar a.toScalar)) =
          (substitute name inner e).eval scope) ∧
      ((∃ b, a = .truth b) →
        e.eval (scope.store name (.ofScalar a.toScalar)) =
          (substitute name (.call "string" [inner]) e).eval scope) ∧
      ∀ env : Environment, env.scope = scope →
        Environment.scope (NameMap.insert env name (.ofScalar a.toScalar)) =
          scope.store name (.ofScalar a.toScalar) := by
  refine ⟨fun storable => ?_, ?_, fun env here => ?_⟩
  · have read := given
    rw [← Answer.ofScalar_toScalar storable] at read
    exact (eval_substitute (standsFor_store read) e).symm
  · rintro ⟨b, rfl⟩
    have read : (Expression.call "string" [inner]).eval scope =
        .ok (.ofScalar (Answer.truth b).toScalar) := eval_string given
    exact (eval_substitute (standsFor_store read) e).symm
  · rw [Environment.scope_insert, here]

def rateScope : Scope := fun name => if name = "rate" then some (.text "7") else none

theorem eval_store_rate :
    (Expression.conditional (.name "rate") (.name "rate") (.name "ghost")).eval rateScope =
        .ok (.text "7") ∧
      (Expression.binary .less (.number 2) (.number 1)).eval rateScope = .ok (.truth false) ∧
      (Expression.binary .and (.name "x") (.name "ghost")).eval
          (rateScope.store "x" (.ofScalar (.text "7"))) =
        (Expression.substitute "x"
          (.conditional (.name "rate") (.name "rate") (.name "ghost"))
          (.binary .and (.name "x") (.name "ghost"))).eval rateScope ∧
      (Expression.unary .not (.name "x")).eval (rateScope.store "x" (.ofScalar (.text "false"))) =
        (Expression.substitute "x" (.call "string" [.binary .less (.number 2) (.number 1)])
          (.unary .not (.name "x"))).eval rateScope := by
  have text : (Expression.conditional (.name "rate") (.name "rate") (.name "ghost")).eval
      rateScope = .ok (.text "7") := by rfl
  have truth : (Expression.binary .less (.number 2) (.number 1)).eval rateScope =
      .ok (.truth false) := by rfl
  exact ⟨text, truth, (eval_store text "x" _).1 nofun, (eval_store truth "x" _).2.1 ⟨false, rfl⟩⟩

/-- Without the text function truth values break the rule: a comparison that does not hold is
denied where it stands, but its stored text holds. -/
theorem not_eval_store_of_truth :
    ¬ ∀ (scope : Scope) (name : String) (inner e : Expression) (a : Answer),
      inner.eval scope = .ok a →
        e.eval (scope.store name (.ofScalar a.toScalar)) = (substitute name inner e).eval scope := by
  intro rule
  have same := rule (fun _ => none) "x" (.binary .less (.number 2) (.number 1))
    (.unary .not (.name "x")) (.truth false) (by rfl)
  have stored : (Expression.unary .not (.name "x")).eval
      (Scope.store (fun _ => none) "x" (.ofScalar (.text "false"))) = .ok (.truth false) := by rfl
  have replaced : (substitute "x" (.binary .less (.number 2) (.number 1))
      (.unary .not (.name "x"))).eval (fun _ => none) = .ok (.truth true) := by rfl
  have clash := (stored.symm.trans same).trans replaced
  cases clash

end Expression

end RecipeEngine
