import RecipeEngine.Operation.Arguments

namespace RecipeEngine

inductive OperationGroup where
  | input
  | table
  | arithmetic
  | math
  | analysis
deriving DecidableEq, Repr

namespace OperationGroup

def name : OperationGroup → String
  | .input => "Input"
  | .table => "Table"
  | .arithmetic => "Arithmetic"
  | .math => "Math"
  | .analysis => "Analysis"

def all : List OperationGroup := [.input, .table, .arithmetic, .math, .analysis]

end OperationGroup

inductive ArgumentKind where
  | text
  | string
  | boolean
  | select (options : List String)
  | variableRef (accepts : Option (List Kind))
deriving DecidableEq, Repr

structure ArgumentSpec where
  name : String
  label : String
  kind : ArgumentKind
  description : Option String
  default : Option Json

namespace ArgumentSpec

def kindFields : ArgumentKind → List (String × Json)
  | .text => [("type", .text "text")]
  | .string => [("type", .text "string")]
  | .boolean => [("type", .text "boolean")]
  | .select options => [("type", .text "select"), ("options", .list (options.map .text))]
  | .variableRef accepts =>
    [("type", .text "variable_ref"),
     ("accepts", match accepts with
      | some kinds => .list (kinds.map fun kind => .text kind.name)
      | none => .null)]

def toJson (spec : ArgumentSpec) : Json :=
  .object ([("name", .text spec.name), ("label", .text spec.label)] ++ kindFields spec.kind ++
    (match spec.description with
      | some s => [("description", .text s)]
      | none => []) ++
    (match spec.default with
      | some j => [("default", j)]
      | none => []))

def kindName : ArgumentKind → String
  | .text => "text"
  | .string => "string"
  | .boolean => "boolean"
  | .select options => "select: " ++ "|".intercalate options
  | .variableRef (some kinds) => "variable: " ++ "|".intercalate (kinds.map Kind.name)
  | .variableRef none => "variable"

end ArgumentSpec

/-- What a step can do. An operation declares its arguments and computes a value from them and the
environment, of which it changes neither. -/
structure Operation where
  id : String
  name : String
  group : OperationGroup
  description : String
  arguments : List ArgumentSpec
  run : Arguments → Environment → Except Failure Value

namespace Operation

def defaults (op : Operation) : Arguments :=
  NameMap.ofList (op.arguments.filterMap fun spec => spec.default.map (spec.name, ·))

def summary (op : Operation) : String :=
  "Operation \x7b id: " ++ Text.quoted op.id ++ ", category: " ++ op.group.name ++ " \x7d"

end Operation

end RecipeEngine
