import RecipeEngine.Expression.Evaluation

namespace RecipeEngine

namespace Expression

/-- The answers of some expressions, from left to right, by an evaluation of each. -/
def answersBy (below : Expression → Option (Except EvalError Answer)) :
    List Expression → Option (Except EvalError (List Answer))
  | [] => some (.ok [])
  | first :: rest => do
    match ← below first with
    | .error e => some (.error e)
    | .ok a =>
      match ← answersBy below rest with
      | .error e => some (.error e)
      | .ok answers => some (.ok (a :: answers))

def choiceBy (below : Expression → Option (Except EvalError Answer))
    (condition yes no : Expression) : Option (Except EvalError Answer) := do
  match ← below condition with
  | .error e => some (.error e)
  | .ok a => if a.holds then below yes else below no

def ifBy (below : Expression → Option (Except EvalError Answer)) :
    List Expression → Option (Except EvalError Answer)
  | [condition, yes, no] => choiceBy below condition yes no
  | _ => some (.error (.wrongArity "if" (.exactly 3)))

/-- The answer of one node, by an evaluation of the nodes below it. -/
def answerBy (below : Expression → Option (Except EvalError Answer)) (scope : Scope) :
    Expression → Option (Except EvalError Answer)
  | .number x => some (.ok (.number x))
  | .text s => some (.ok (.text s))
  | .truth b => some (.ok (.truth b))
  | .name n => some (lookup scope n)
  | .unary op operand => do
    match ← below operand with
    | .error e => some (.error e)
    | .ok a => some (applyUnary op a)
  | .binary op left right => do
    match ← below left with
    | .error e => some (.error e)
    | .ok a =>
      match shortCircuit? op a with
      | some answer => some (.ok answer)
      | none =>
        match ← below right with
        | .error e => some (.error e)
        | .ok b => some (applyBinary op a b)
  | .conditional condition yes no => choiceBy below condition yes no
  | .call function arguments =>
    if function = "if" then ifBy below arguments
    else do
      match ← answersBy below arguments with
      | .error e => some (.error e)
      | .ok answers => some (apply function answers)

/-- The answer of an expression on a stack of at most `nodes` nodes inside each other, if they are
enough. -/
def evalWithin (scope : Scope) : Nat → Expression → Option (Except EvalError Answer)
  | 0, _ => none
  | nodes + 1, e => answerBy (evalWithin scope nodes) scope e

theorem height_pos (e : Expression) : 0 < e.height := by
  cases e <;> rw [height] <;> omega

theorem height_le_tallest {e : Expression} {trees : List Expression} (member : e ∈ trees) :
    e.height ≤ tallest trees := by
  induction trees with
  | nil => cases member
  | cons first rest ih =>
    rw [tallest]
    rcases List.mem_cons.mp member with rfl | later
    · exact Nat.le_max_left _ _
    · exact Nat.le_trans (ih later) (Nat.le_max_right _ _)

variable {scope : Scope} {below : Expression → Option (Except EvalError Answer)}

theorem answersBy_eq {trees : List Expression}
    (lower : ∀ e ∈ trees, below e = some (e.eval scope)) :
    answersBy below trees = some (evalAll scope trees) := by
  induction trees with
  | nil => rfl
  | cons first rest ih =>
    have head := lower first List.mem_cons_self
    have tail := ih fun e member => lower e (List.mem_cons_of_mem _ member)
    rw [answersBy, evalAll, head, tail]
    cases first.eval scope with
    | error e => rfl
    | ok a => cases evalAll scope rest <;> rfl

theorem choiceBy_eq {condition yes no : Expression}
    (lower : ∀ e ∈ [condition, yes, no], below e = some (e.eval scope)) :
    choiceBy below condition yes no =
      some ((Expression.conditional condition yes no).eval scope) := by
  rw [choiceBy, eval, lower condition (by simp), lower yes (by simp), lower no (by simp)]
  cases condition.eval scope with
  | error e => rfl
  | ok a =>
    dsimp only [Option.bind_eq_bind, Option.bind_some]
    split <;> rfl

theorem ifBy_eq {trees : List Expression}
    (lower : ∀ e ∈ trees, below e = some (e.eval scope)) :
    ifBy below trees = some (evalIf scope trees) := by
  match trees with
  | [condition, yes, no] => rw [ifBy, choiceBy_eq lower, evalIf, eval]
  | [] => rfl
  | [_] => rfl
  | [_, _] => rfl
  | _ :: _ :: _ :: _ :: _ => rfl

/-- The answer of a node is its answer by the answers of lower expressions. -/
theorem answerBy_eq {e : Expression}
    (lower : ∀ child : Expression, child.height < e.height →
      below child = some (child.eval scope)) :
    answerBy below scope e = some (e.eval scope) := by
  cases e with
  | number x => rfl
  | text s => rfl
  | truth b => rfl
  | name n => rfl
  | unary op operand =>
    rw [answerBy, eval, lower operand (by rw [height]; omega)]
    cases operand.eval scope <;> rfl
  | binary op left right =>
    rw [answerBy, eval, lower left (by rw [height]; omega)]
    cases left.eval scope with
    | error e => rfl
    | ok a =>
      dsimp only [Option.bind_eq_bind, Option.bind_some]
      cases shortCircuit? op a with
      | some answer => rfl
      | none =>
        rw [lower right (by rw [height]; omega)]
        cases right.eval scope <;> rfl
  | conditional condition yes no =>
    refine choiceBy_eq fun child member => lower child ?_
    have low : child.height ≤ max (max condition.height yes.height) no.height := by
      simpa [tallest, Nat.max_assoc] using height_le_tallest member
    rw [height]
    omega
  | call function arguments =>
    have each : ∀ child ∈ arguments, below child = some (child.eval scope) := by
      intro child member
      have low := height_le_tallest member
      exact lower child (by rw [height]; omega)
    rw [answerBy, eval]
    split
    · exact ifBy_eq each
    · rw [answersBy_eq each]
      cases evalAll scope arguments <;> rfl

/-- A stack for as many nodes as an expression is high is enough. -/
theorem evalWithin_eq {nodes : Nat} {e : Expression} (low : e.height ≤ nodes) :
    evalWithin scope nodes e = some (e.eval scope) := by
  induction nodes generalizing e with
  | zero => exact absurd (height_pos e) (Nat.not_lt.mpr low)
  | succ nodes ih => exact answerBy_eq fun child lower => ih (by omega)

end Expression

end RecipeEngine
