import RecipeEngine.Failure
import RecipeEngine.Value

namespace RecipeEngine

abbrev Environment := NameMap Value

/-- A value with the name it is stored under. -/
structure Variable where
  name : String
  value : Value

namespace Environment

def stored? (env : Environment) (name : String) : Option Variable :=
  (env.get? name).map fun value => ⟨name, value⟩

def table (env : Environment) (name : String) : Except Failure Table :=
  match env.get? name with
  | none => .error (.variableNotFound name)
  | some (.table t) => .ok t
  | some value => .error (.wrongKind name Kind.table.name value.kind.name)

def scalars (env : Environment) : List (String × Scalar) :=
  env.toList.filterMap fun (name, value) => value.scalar?.map (name, ·)

def scalar? (env : Environment) (name : String) : Option Scalar :=
  (env.get? name).bind Value.scalar?

/-- Stores a number or a text in a variable of that kind. A number variable takes a text only if
all of it is a number; a string variable takes the display form. -/
def updateScalar (env : Environment) (name : String) (cell : Scalar) :
    Except Failure Environment :=
  match env.get? name with
  | none => .error (.variableNotFound name)
  | some (.number _) =>
    match cell.asNumber? with
    | some x => .ok (env.insert name (.number x))
    | none => .error (.wrongKind name Kind.number.name Kind.string.name)
  | some (.string _) => .ok (env.insert name (.string cell.display))
  | some (.table _) => .error (.wrongKind name "number or string" Kind.table.name)

/-- Replaces one cell of a stored table; the flag is false, and nothing changes, if the column or
the row is not there. -/
def updateCell (env : Environment) (name : String) (row : Nat) (column : String) (cell : Scalar) :
    Except Failure (Bool × Environment) := do
  let t ← env.table name
  match t.setCell? row column cell with
  | some changed => .ok (true, env.insert name (.table changed))
  | none => .ok (false, env)

def toJson (env : Environment) : Json :=
  .object (env.toList.map fun (name, value) =>
    (name, .object [("name", .text name), ("value", value.toJson)]))

end Environment

end RecipeEngine
