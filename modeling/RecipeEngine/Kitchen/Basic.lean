import RecipeEngine.Bake.Baker

namespace RecipeEngine

/-- A baker with a recipe, an environment and the log of the last run. -/
structure Kitchen where
  baker : Baker
  recipe : Recipe := []
  environment : Environment := NameMap.empty
  log : Log := []

namespace Kitchen

def start (registry : Registry) (config : Config) : Kitchen where
  baker := { registry, config }

def isRunning (k : Kitchen) : Bool := k.baker.running

/-- Goes on only while no run is in progress. The edits of the environment do; those of the recipe
and a reset need not. -/
def whileIdle {α : Type} (k : Kitchen) (edit : Except Failure α) : Except Failure α :=
  if k.isRunning then .error .runInProgress else edit

def load (k : Kitchen) (recipe : Recipe) (env : Environment) : Except Failure Kitchen :=
  k.whileIdle (.ok { k with recipe, environment := env, log := [] })

def addStep (k : Kitchen) (operation id : String) : Except Failure (String × Kitchen) := do
  let (step, recipe) ← k.recipe.addStep k.baker.registry operation k.baker.config.lead id
  .ok (step.id, { k with recipe })

def updateArguments (k : Kitchen) (id : String) (args : Arguments) : Except Failure Kitchen :=
  (k.recipe.updateArguments id args).map fun recipe => { k with recipe }

def setOutput (k : Kitchen) (id output : String) : Except Failure Kitchen :=
  (k.recipe.setOutput id output).map fun recipe => { k with recipe }

def removeStep (k : Kitchen) (id : String) : Except Failure (Step × Kitchen) := do
  let (step, recipe) ← k.recipe.removeStep id
  .ok (step, { k with recipe })

def moveStep (k : Kitchen) (id target : String) (placement : Placement) : Bool × Kitchen :=
  let (moved, recipe) := k.recipe.moveRelative id target placement
  (moved, { k with recipe })

def reorder (k : Kitchen) (id target : String) : Bool × Kitchen :=
  let (moved, recipe) := k.recipe.reorder id target
  (moved, { k with recipe })

def setVariable (k : Kitchen) (name : String) (value : Value) : Except Failure Kitchen :=
  k.whileIdle (.ok { k with environment := k.environment.insert name value })

def removeVariable (k : Kitchen) (name : String) : Except Failure (Option Variable × Kitchen) :=
  k.whileIdle
    (.ok (k.environment.stored? name, { k with environment := k.environment.erase name }))

def updateScalar (k : Kitchen) (name : String) (cell : Scalar) : Except Failure Kitchen :=
  k.whileIdle ((k.environment.updateScalar name cell).map fun env => { k with environment := env })

def updateCell (k : Kitchen) (name : String) (row : Nat) (column : String) (cell : Scalar) :
    Except Failure (Bool × Kitchen) :=
  k.whileIdle do
    let (found, env) ← k.environment.updateCell name row column cell
    .ok (found, { k with environment := env })

def updateCellText (k : Kitchen) (name : String) (row : Nat) (column raw : String) :
    Except Failure (Bool × Kitchen) :=
  k.updateCell name row column (Scalar.ofInput raw)

def clearVariables (k : Kitchen) : Except Failure Kitchen :=
  k.whileIdle (.ok { k with environment := NameMap.empty })

/-- Removes all variables and clears the log, run or no run. -/
def reset (k : Kitchen) : Kitchen :=
  { k with environment := NameMap.empty, log := [] }

def takeOver (env : Environment) (o : Outcome) : Environment :=
  o.report.committed.foldl
    (fun env name =>
      match o.environment.get? name with
      | some value => env.insert name value
      | none => env) env

/-- Ends a run: its bindings are put over the environment, and its log replaces the former one. -/
def finish (k : Kitchen) (o : Outcome) : Kitchen :=
  { k with
    baker := k.baker.finish
    environment := takeOver k.environment o
    log := o.report.log }

def bake (k : Kitchen) (clock : Clock) : Except Failure (Report × Kitchen) :=
  match accepted : k.baker.begin with
  | .error why => .error why
  | .ok held =>
    let o := held.bakeWith (Baker.held_of_begin accepted) clock k.recipe k.environment
    .ok (o.report, { k with baker := held }.finish o)

end Kitchen

end RecipeEngine
