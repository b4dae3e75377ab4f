import RecipeEngine.Operation.Registry

namespace RecipeEngine

/-- A step: an operation, its arguments and the name of the variable for its result. -/
structure Step where
  id : String
  operation : String
  arguments : Arguments
  output : String

namespace Step

def stem (id : String) : String :=
  String.ofList ((id.toList.filter Char.isAlphanum).take 8)

/-- The name of the variable for the result: the configured one, or one made from the id where that
is blank. -/
def outputName (step : Step) (lead : String) : String :=
  if Text.isAllBlank step.output then lead ++ stem step.id else Text.trim step.output

def toJson (step : Step) : Json :=
  .object
    [("id", .text step.id), ("operation_id", .text step.operation),
     ("args", .object step.arguments.toList), ("output_var_name", .text step.output)]

/-- A step from JSON; the arguments and the output may be missing. -/
def ofJson? (j : Json) : Option Step := do
  match ← j.slots? ["id", "operation_id", "args", "output_var_name"] with
  | [some id, some operation, args, output] =>
    let id ← id.text?
    let operation ← operation.text?
    let arguments ← match args with
      | some args => args.bindings?
      | none => some NameMap.empty
    let output ← match output with
      | some output => output.text?
      | none => some ""
    some ⟨id, operation, arguments, output⟩
  | _ => none

end Step

inductive Placement where
  | before
  | after
deriving DecidableEq, Repr

abbrev Recipe := List Step

namespace Recipe

def step? (recipe : Recipe) (id : String) : Option Step :=
  recipe.find? (·.id = id)

def position? (recipe : Recipe) (id : String) : Option Nat :=
  recipe.findIdx? (·.id = id)

def modifyFirst (id : String) (change : Step → Step) : Recipe → Recipe
  | [] => []
  | step :: rest => if step.id = id then change step :: rest else step :: modifyFirst id change rest

def edit (recipe : Recipe) (id : String) (change : Step → Step) : Except Failure Recipe :=
  match recipe.step? id with
  | some _ => .ok (modifyFirst id change recipe)
  | none => .error (.stepNotFound id)

/-- The id's first eight characters, after which a new step's output is named. -/
def shortId (id : String) : String :=
  String.ofList (id.toList.take 8)

/-- Appends a step for an operation under a new id, with the operation's defaults. -/
def addStep (recipe : Recipe) (registry : Registry) (operation lead id : String) :
    Except Failure (Step × Recipe) := do
  let arguments ← registry.defaultsFor operation
  let step : Step := ⟨id, operation, arguments, lead ++ shortId id⟩
  .ok (step, recipe ++ [step])

/-- Puts arguments over those of a step; the others stay. -/
def updateArguments (recipe : Recipe) (id : String) (args : Arguments) : Except Failure Recipe :=
  recipe.edit id fun step => { step with arguments := step.arguments.merge args }

def setOutput (recipe : Recipe) (id output : String) : Except Failure Recipe :=
  recipe.edit id fun step => { step with output }

def removeStep (recipe : Recipe) (id : String) : Except Failure (Step × Recipe) :=
  match recipe.step? id, recipe.position? id with
  | some step, some index => .ok (step, recipe.eraseIdx index)
  | _, _ => .error (.stepNotFound id)

/-- Takes the step out of one index and puts it in at another. -/
def relocate (recipe : Recipe) (source target : Nat) : Recipe :=
  match recipe[source]? with
  | some step => (recipe.eraseIdx source).insertIdx target step
  | none => recipe

/-- Drops a step on another one: it takes the other's index. The flag is false, and nothing
changes, if either is unknown. -/
def reorder (recipe : Recipe) (id target : String) : Bool × Recipe :=
  match recipe.position? id, recipe.position? target with
  | some source, some place =>
    (true, if source = place then recipe else recipe.relocate source place)
  | _, _ => (false, recipe)

/-- Moves a step right before or right after another one. The flag is false, and nothing changes,
if either is unknown. -/
def moveRelative (recipe : Recipe) (id target : String) (placement : Placement) : Bool × Recipe :=
  match recipe.position? target, recipe.position? id with
  | some _, some source =>
    if id = target then (true, recipe)
    else
      let others := recipe.eraseIdx source
      let anchor := (position? others target).getD others.length
      let index := match placement with
        | .before => anchor
        | .after => anchor + 1
      match recipe[source]? with
      | some step => (true, others.insertIdx index step)
      | none => (true, recipe)
  | _, _ => (false, recipe)

def toJson (recipe : Recipe) : Json := .list (recipe.map Step.toJson)

def ofJson? (j : Json) : Option Recipe := do
  (← j.items?).mapM Step.ofJson?

end Recipe

end RecipeEngine
