namespace RecipeEngine

inductive Category where
  | validation
  | expression
  | parse
  | engine
  | config
  | io
deriving DecidableEq, Repr

namespace Category

def name : Category → String
  | .validation => "validation"
  | .expression => "expression"
  | .parse => "parse"
  | .engine => "engine"
  | .config => "config"
  | .io => "io"

def ofName? : String → Option Category
  | "validation" => some .validation
  | "expression" => some .expression
  | "parse" => some .parse
  | "engine" => some .engine
  | "config" => some .config
  | "io" => some .io
  | _ => none

@[simp] theorem ofName?_name (c : Category) : ofName? c.name = some c := by
  cases c <;> rfl

end Category

inductive Failure where
  | missingArgument (argument : String)
  | variableNotFound (name : String)
  | wrongKind (name expected found : String)
  | columnNotFound (column : String) (available : List String)
  | invalidOption (argument value : String) (options : List String)
  | insufficientData (details : String)
  | stepNotFound (step : String)
  | expressionSyntax (expression : String) (position : Nat) (details : String)
  | expressionValue (expression cause : String)
  | csvSyntax (details : String)
  | unknownOperation (operation : String)
  | runInProgress
  | config (reason : String)
  | yamlSyntax (details : String)
  | json (details : String)
  | io (details : String)
deriving DecidableEq, Repr

namespace Failure

def message : Failure → String
  | .missingArgument argument => "BAKE-010: Argument '" ++ argument ++ "' is required"
  | .variableNotFound name => "BAKE-011: Variable '" ++ name ++ "' not found"
  | .wrongKind name expected found =>
    "BAKE-012: Variable '" ++ name ++ "' is a " ++ found ++ ", expected a " ++ expected
  | .columnNotFound column available =>
    "BAKE-013: Column '" ++ column ++ "' not found in table. Available: " ++
      ", ".intercalate available
  | .invalidOption argument value options =>
    "BAKE-014: Argument '" ++ argument ++ "' has invalid value '" ++ value ++
      "' (expected one of: " ++ ", ".intercalate options ++ ")"
  | .insufficientData details => "BAKE-015: " ++ details
  | .stepNotFound step => "BAKE-016: Step '" ++ step ++ "' not found in recipe"
  | .expressionSyntax expression position details =>
    "BAKE-020: Cannot parse expression '" ++ expression ++ "' at position " ++
      toString position ++ ": " ++ details
  | .expressionValue expression cause =>
    "BAKE-021: Expression error in '" ++ expression ++ "': " ++ cause
  | .csvSyntax details => "BAKE-030: CSV Parse Error: " ++ details
  | .unknownOperation operation => "BAKE-040: Unknown operation '" ++ operation ++ "'"
  | .runInProgress => "BAKE-041: A bake is already in progress"
  | .config reason => "BAKE-050: Config error: " ++ reason
  | .yamlSyntax details => "YAML parse error: " ++ details
  | .json details => "JSON error: " ++ details
  | .io details => "IO error: " ++ details

def category : Failure → Category
  | .missingArgument _ | .variableNotFound _ | .wrongKind .. | .columnNotFound ..
  | .invalidOption .. | .insufficientData _ | .stepNotFound _ => .validation
  | .expressionSyntax .. | .expressionValue .. => .expression
  | .csvSyntax _ | .yamlSyntax _ | .json _ => .parse
  | .unknownOperation _ | .runInProgress => .engine
  | .config _ => .config
  | .io _ => .io

def hint : Failure → Option String
  | .missingArgument _ => some "Fill in the argument on the step"
  | .variableNotFound _ =>
    some "Run the step that produces this variable first, or pick another input"
  | .wrongKind .. => some "Select a variable of the expected type"
  | .columnNotFound .. => some "Column names are case-sensitive; use one of the available columns"
  | .invalidOption .. => some "Pick one of the listed options"
  | .insufficientData _ => some "Check that the selected columns hold numeric values"
  | .stepNotFound _ => some "Verify the step id exists in the recipe"
  | .expressionSyntax .. =>
    some "Check operators and parentheses; quote column names with spaces in backticks"
  | .expressionValue .. => some "Every name must be a column or a number/string variable"
  | .csvSyntax _ => some "Every row must have as many fields as the header"
  | .unknownOperation _ => some "Run `bakehouse ops` to list operations"
  | .runInProgress => some "Wait for the current bake to finish"
  | .config _ => some "Check bakehouse.yaml and BAKEHOUSE_* variables"
  | .yamlSyntax _ => some "Check YAML syntax: indentation and quoting"
  | .json _ => none
  | .io _ => some "Check file path and permissions"

end Failure

end RecipeEngine
