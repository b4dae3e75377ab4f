namespace RecipeEngine

inductive UnaryOp where
  | negate
  | plus
  | not
deriving DecidableEq, Repr

inductive BinaryOp where
  | add | subtract | multiply | divide | remainder | power
  | equal | notEqual | less | lessEqual | greater | greaterEqual
  | and | or
deriving DecidableEq, Repr

inductive Expression where
  | number (value : Float)
  | text (value : String)
  | truth (value : Bool)
  | name (value : String)
  | unary (op : UnaryOp) (operand : Expression)
  | binary (op : BinaryOp) (left right : Expression)
  | conditional (condition yes no : Expression)
  | call (function : String) (arguments : List Expression)

namespace Expression

mutual

def height : Expression → Nat
  | .number _ => 1
  | .text _ => 1
  | .truth _ => 1
  | .name _ => 1
  | .unary _ operand => operand.height + 1
  | .binary _ left right => 1 + max left.height right.height
  | .conditional condition yes no => 1 + max (max condition.height yes.height) no.height
  | .call _ arguments => tallest arguments + 1

def tallest : List Expression → Nat
  | [] => 0
  | first :: rest => max first.height (tallest rest)

end

mutual

def names : Expression → List String
  | .name n => [n]
  | .unary _ operand => operand.names
  | .binary _ left right => left.names ++ right.names
  | .conditional condition yes no => condition.names ++ yes.names ++ no.names
  | .call _ arguments => namesOfAll arguments
  | _ => []

def namesOfAll : List Expression → List String
  | [] => []
  | first :: rest => first.names ++ namesOfAll rest

end

end Expression

end RecipeEngine
