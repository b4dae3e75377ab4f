import RecipeEngine.Expression.Tree
import RecipeEngine.Number.Arithmetic
import RecipeEngine.Scalar
import RecipeEngine.Text.Quoted

namespace RecipeEngine

inductive Answer where
  | number (value : Float)
  | text (value : String)
  | truth (value : Bool)
deriving DecidableEq

inductive Arity where
  | exactly (count : Nat)
  | atLeastOne
  | oneOrTwo
deriving DecidableEq

inductive EvalError where
  | undefinedName (name : String)
  | undefinedFunction (function : String)
  | notANumber (shown : String)
  | wrongArity (function : String) (arity : Arity)
deriving DecidableEq

def Arity.describe : Arity → String
  | .exactly 1 => "1 argument"
  | .exactly count => toString count ++ " arguments"
  | .atLeastOne => "at least 1 argument"
  | .oneOrTwo => "1 or 2 arguments"

def EvalError.message : EvalError → String
  | .undefinedName name => "Undefined symbol " ++ name
  | .undefinedFunction function => "Undefined function " ++ function
  | .notANumber shown => "Cannot convert " ++ Text.quoted shown ++ " to a number"
  | .wrongArity function arity => "Function " ++ function ++ " expects " ++ arity.describe

namespace Answer

def ofScalar : Scalar → Answer
  | .number x => .number x
  | .text s => .text s

def display : Answer → String
  | .number x => NumberFormat.plain x
  | .text s => s
  | .truth true => "true"
  | .truth false => "false"

def toScalar : Answer → Scalar
  | .number x => .number x
  | .text s => .text s
  | .truth b => .text (Answer.truth b).display

def number? : Answer → Option Float
  | .number x => some x
  | .text s => Numeral.readNumber? s
  | .truth b => some (if b then 1 else 0)

def toNumber (a : Answer) : Except EvalError Float :=
  match a.number? with
  | some x => .ok x
  | none => .error (.notANumber a.display)

/-- Whether a condition with this answer holds: a number other than zero and NaN, or a text that is
not empty. -/
def holds : Answer → Bool
  | .number x => !(x == 0) && !x.isNaN
  | .text s => !s.isEmpty
  | .truth b => b

def compareNumbers (x y : Float) : Option Ordering :=
  if x < y then some .lt else if x == y then some .eq else if y < x then some .gt else none

/-- The order of two answers: as numbers if both read as numbers, else as texts. -/
def compare (a b : Answer) : Option Ordering :=
  match a.number?, b.number? with
  | some x, some y => compareNumbers x y
  | _, _ => some (Scalar.compareTexts a.display b.display)

end Answer

abbrev Scope := String → Option Scalar

/-- The cells of a row over those of another scope. -/
def Scope.withRow (row : NameMap Scalar) (outer : Scope) : Scope := fun name =>
  (row.get? name).or (outer name)

namespace Expression

def constant? : String → Option Float
  | "pi" => some 3.141592653589793
  | "e" => some 2.718281828459045
  | _ => none

/-- The answer of a name, which is looked up in the scope, then among the constants. -/
def lookup (scope : Scope) (name : String) : Except EvalError Answer :=
  match scope name with
  | some cell => .ok (.ofScalar cell)
  | none =>
    match constant? name with
    | some x => .ok (.number x)
    | none => .error (.undefinedName name)

def applyUnary (op : UnaryOp) (a : Answer) : Except EvalError Answer :=
  match op with
  | .negate => a.toNumber.map fun x => .number (-x)
  | .plus => a.toNumber.map .number
  | .not => .ok (.truth !a.holds)

/-- Arithmetic on two answers; the left one is read as a number first. -/
def arithmetic (f : Float → Float → Float) (a b : Answer) : Except EvalError Answer :=
  match a.toNumber with
  | .error e => .error e
  | .ok x =>
    match b.toNumber with
    | .error e => .error e
    | .ok y => .ok (.number (f x y))

def applyBinary (op : BinaryOp) (a b : Answer) : Except EvalError Answer :=
  match op with
  | .add => arithmetic (· + ·) a b
  | .subtract => arithmetic (· - ·) a b
  | .multiply => arithmetic (· * ·) a b
  | .divide => arithmetic (· / ·) a b
  | .remainder => arithmetic Arithmetic.remainder a b
  | .power => arithmetic Float.pow a b
  | .equal => .ok (.truth (a.compare b = some .eq))
  | .notEqual => .ok (.truth (a.compare b ≠ some .eq))
  | .less => .ok (.truth (a.compare b = some .lt))
  | .lessEqual => .ok (.truth (a.compare b = some .lt ∨ a.compare b = some .eq))
  | .greater => .ok (.truth (a.compare b = some .gt))
  | .greaterEqual => .ok (.truth (a.compare b = some .gt ∨ a.compare b = some .eq))
  | .and => .ok (.truth b.holds)
  | .or => .ok (.truth b.holds)

/-- The answer that the left operand of `and` and `or` may give alone. -/
def shortCircuit? (op : BinaryOp) (a : Answer) : Option Answer :=
  match op with
  | .and => if a.holds then none else some (.truth false)
  | .or => if a.holds then some (.truth true) else none
  | _ => none

def numberFunction? : String → Option (Float → Float)
  | "abs" => some Float.abs
  | "sqrt" => some Float.sqrt
  | "cbrt" => some Arithmetic.cubeRoot
  | "exp" => some Float.exp
  | "log10" => some Float.log10
  | "log2" => some Float.log2
  | "floor" => some Float.floor
  | "ceil" => some Float.ceil
  | "sin" => some Float.sin
  | "cos" => some Float.cos
  | "tan" => some Float.tan
  | "sign" => some Arithmetic.sign
  | _ => none

def single (function : String) : List Answer → Except EvalError Answer
  | [a] => .ok a
  | _ => .error (.wrongArity function (.exactly 1))

def oneOrTwo (function : String) : List Answer → Except EvalError (Float × Option Float)
  | [a] => a.toNumber.map (·, none)
  | [a, b] => do
    let x ← a.toNumber
    let y ← b.toNumber
    .ok (x, some y)
  | _ => .error (.wrongArity function .oneOrTwo)

def toNumbers : List Answer → Except EvalError (List Float)
  | [] => .ok []
  | a :: rest => do
    let x ← a.toNumber
    let xs ← toNumbers rest
    .ok (x :: xs)

def extreme (function : String) (pick : Float → Float → Float) (answers : List Answer) :
    Except EvalError Answer :=
  match answers with
  | [] => .error (.wrongArity function .atLeastOne)
  | _ :: _ =>
    match toNumbers answers with
    | .error e => .error e
    | .ok [] => .ok (.number Arithmetic.nan)
    | .ok (x :: xs) => .ok (.number (xs.foldl pick x))

def ofTwo (function : String) (f : Float → Float → Float) :
    List Answer → Except EvalError Answer
  | [a, b] => arithmetic f a b
  | _ => .error (.wrongArity function (.exactly 2))

def apply (function : String) (answers : List Answer) : Except EvalError Answer :=
  match function with
  | "concat" => .ok (.text (String.join (answers.map Answer.display)))
  | "string" => (single function answers).map fun a => .text a.display
  | "number" => do
    let a ← single function answers
    a.toNumber.map .number
  | "min" => extreme function Arithmetic.lesser answers
  | "max" => extreme function Arithmetic.greater answers
  | "round" => (oneOrTwo function answers).map fun (x, places) =>
    .number (Arithmetic.roundTo x (places.getD 0))
  | "log" => (oneOrTwo function answers).map fun (x, base) =>
    .number (match base with
      | some b => x.log / b.log
      | none => x.log)
  | "pow" => ofTwo function Float.pow answers
  | "mod" => ofTwo function Arithmetic.remainder answers
  | _ =>
    match numberFunction? function with
    | none => .error (.undefinedFunction function)
    | some f => do
      let a ← single function answers
      a.toNumber.map fun x => .number (f x)

mutual

/-- The answer of an expression in a scope. `and`, `or`, the conditional and `if` evaluate only the
operands they need; all other functions evaluate their arguments first, from left to right. -/
def eval (scope : Scope) : Expression → Except EvalError Answer
  | .number x => .ok (.number x)
  | .text s => .ok (.text s)
  | .truth b => .ok (.truth b)
  | .name n => lookup scope n
  | .unary op operand =>
    match operand.eval scope with
    | .error e => .error e
    | .ok a => applyUnary op a
  | .binary op left right =>
    match left.eval scope with
    | .error e => .error e
    | .ok a =>
      match shortCircuit? op a with
      | some answer => .ok answer
      | none =>
        match right.eval scope with
        | .error e => .error e
        | .ok b => applyBinary op a b
  | .conditional condition yes no =>
    match condition.eval scope with
    | .error e => .error e
    | .ok a => if a.holds then yes.eval scope else no.eval scope
  | .call function arguments =>
    if function = "if" then evalIf scope arguments
    else
      match evalAll scope arguments with
      | .error e => .error e
      | .ok answers => apply function answers

/-- The answer of `if`: its first argument chooses which of the others is evaluated. -/
def evalIf (scope : Scope) : List Expression → Except EvalError Answer
  | [condition, yes, no] =>
    match condition.eval scope with
    | .error e => .error e
    | .ok a => if a.holds then yes.eval scope else no.eval scope
  | _ => .error (.wrongArity "if" (.exactly 3))

def evalAll (scope : Scope) : List Expression → Except EvalError (List Answer)
  | [] => .ok []
  | first :: rest =>
    match first.eval scope with
    | .error e => .error e
    | .ok a =>
      match evalAll scope rest with
      | .error e => .error e
      | .ok answers => .ok (a :: answers)

end

end Expression

end RecipeEngine
