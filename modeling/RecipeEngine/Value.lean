import RecipeEngine.Table
import RecipeEngine.Text.Quoted

namespace RecipeEngine

inductive Kind where
  | table
  | number
  | string
deriving DecidableEq, Repr

def Kind.name : Kind → String
  | .table => "table"
  | .number => "number"
  | .string => "string"

inductive Value where
  | table (content : Table)
  | number (content : Float)
  | string (content : String)
deriving BEq

namespace Value

def kind : Value → Kind
  | .table _ => .table
  | .number _ => .number
  | .string _ => .string

def table? : Value → Option Table
  | .table t => some t
  | _ => none

/-- A number or a string as a cell; tables have none. -/
def scalar? : Value → Option Scalar
  | .table _ => none
  | .number x => some (.number x)
  | .string s => some (.text s)

def ofScalar : Scalar → Value
  | .number x => .number x
  | .text s => .string s

@[simp] theorem scalar?_ofScalar (cell : Scalar) : (ofScalar cell).scalar? = some cell := by
  cases cell <;> rfl

def summary : Value → String
  | .table t =>
    "table [" ++ toString t.columns.length ++ " cols × " ++ toString t.rows.length ++ " rows]"
  | .number x => NumberFormat.plain x
  | .string s => Text.quoted s

def toJson : Value → Json
  | .table t => .object (("type", .text "table") :: t.toFields)
  | .number x => .object [("type", .text "number"), ("value", Scalar.numberToJson x)]
  | .string s => .object [("type", .text "string"), ("value", .text s)]

def numberOfJson? (j : Json) : Option Float :=
  (Scalar.ofJson? j).bind Scalar.number?

/-- A value of the kind called `tag` from the rest of its JSON. -/
def ofTagged? (tag : String) (rest : Json) : Option Value :=
  match tag with
  | "table" =>
    match rest.slots? ["columns", "rows"] with
    | some [some columns, some rows] => (Table.ofSlots? columns rows).map .table
    | _ => none
  | "number" =>
    match rest.slots? ["value"] with
    | some [some value] => (numberOfJson? value).map .number
    | _ => none
  | "string" =>
    match rest.slots? ["value"] with
    | some [some value] => value.text?.map .string
    | _ => none
  | _ => none

/-- A value from JSON: an object with one field `type`, or a list that starts with the kind. -/
def ofJson? : Json → Option Value
  | .object fields =>
    match fields.filter (·.1 = "type") with
    | [(_, .text tag)] => ofTagged? tag (.object (fields.filter (·.1 ≠ "type")))
    | _ => none
  | .list (.text tag :: rest) => ofTagged? tag (.list rest)
  | _ => none

end Value

end RecipeEngine
