import RecipeEngine.Environment
import RecipeEngine.Json.Writer

namespace RecipeEngine

abbrev Arguments := NameMap Json

namespace Arguments

/-- An argument as text: a text as it is, any other value by its JSON text; null is absent. -/
def text? (args : Arguments) (name : String) : Option String :=
  match args.get? name with
  | none => none
  | some .null => none
  | some (.text s) => some s
  | some other => some other.compact

def present? (args : Arguments) (name : String) : Option String :=
  (args.text? name).filter fun s => !Text.isAllBlank s

def required (args : Arguments) (name : String) : Except Failure String :=
  match args.present? name with
  | some s => .ok (Text.trim s)
  | none => .error (.missingArgument name)

def requiredRaw (args : Arguments) (name : String) : Except Failure String :=
  match args.present? name with
  | some s => .ok s
  | none => .error (.missingArgument name)

def truthWord? (word : String) : Option Bool :=
  if word = "true" ∨ word = "yes" ∨ word = "1" then some true
  else if word = "false" ∨ word = "no" ∨ word = "0" then some false
  else none

/-- A truth value, or a word for one; everything else gives the default. -/
def boolean (args : Arguments) (name : String) (default : Bool) : Bool :=
  match args.get? name with
  | some (.bool b) => b
  | some (.text s) => (truthWord? (Text.lowerAscii (Text.trim s))).getD default
  | _ => default

/-- One of some options; the default if the argument is not given. -/
def select (args : Arguments) (name : String) (options : List String) (default : String) :
    Except Failure String :=
  match args.present? name with
  | none => .ok default
  | some raw =>
    if options.contains (Text.trim raw) then .ok (Text.trim raw)
    else .error (.invalidOption name raw options)

def table (args : Arguments) (name : String) (env : Environment) : Except Failure Table := do
  env.table (← args.required name)

def merge (args later : Arguments) : Arguments := args.overlay later

end Arguments

end RecipeEngine
