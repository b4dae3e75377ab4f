import RecipeEngine.Recipe.Basic

namespace RecipeEngine

structure WrittenStep where
  operation : String
  id : Option String
  output : Option String
  arguments : Arguments

structure Document where
  seeds : NameMap Value
  steps : List WrittenStep

namespace WrittenStep

/-- The step that is run: the operation's defaults under the written arguments, a new id where none
is written, and an output name made from the id where none is written. -/
def toStep (registry : Registry) (lead newId : String) (written : WrittenStep) : Step :=
  let defaults := match registry.get? written.operation with
    | some op => op.defaults
    | none => NameMap.empty
  let step : Step :=
    ⟨written.id.getD newId, written.operation, defaults.merge written.arguments,
     written.output.getD ""⟩
  if step.output.isEmpty then { step with output := step.outputName lead } else step

end WrittenStep

namespace Document

def environment (document : Document) : Environment := document.seeds

/-- The steps that are run, from a position on; `newId` gives each position an id of its own. -/
def stepsFrom (registry : Registry) (lead : String) (newId : Nat → String) :
    Nat → List WrittenStep → Recipe
  | _, [] => []
  | position, written :: rest =>
    written.toStep registry lead (newId position) ::
      stepsFrom registry lead newId (position + 1) rest

def recipe (document : Document) (registry : Registry) (lead : String) (newId : Nat → String) :
    Recipe :=
  stepsFrom registry lead newId 0 document.steps

end Document

end RecipeEngine
