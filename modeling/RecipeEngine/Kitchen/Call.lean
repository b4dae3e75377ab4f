import RecipeEngine.Kitchen.Basic

namespace RecipeEngine

inductive Call where
  | load (recipe : Recipe) (env : Environment)
  | addStep (operation id : String)
  | updateArguments (id : String) (args : Arguments)
  | setOutput (id output : String)
  | removeStep (id : String)
  | moveStep (id target : String) (placement : Placement)
  | reorder (id target : String)
  | setVariable (name : String) (value : Value)
  | removeVariable (name : String)
  | updateScalar (name : String) (cell : Scalar)
  | updateCell (name : String) (row : Nat) (column : String) (cell : Scalar)
  | updateCellText (name : String) (row : Nat) (column raw : String)
  | clearVariables
  | reset
  | bake (clock : Clock)
  | inspect

inductive Reply where
  | done
  | refused (why : Failure)
  | flag (value : Bool)
  | id (value : String)
  | step (removed : Step)
  | stored (removed : Option Variable)
  | report (content : Report)
  | state (seen : Kitchen)

namespace Kitchen

def answer {α : Type} (k : Kitchen) (write : α → Reply) :
    Except Failure (α × Kitchen) → Kitchen × Reply
  | .ok (a, next) => (next, write a)
  | .error why => (k, .refused why)

def acknowledge (k : Kitchen) : Except Failure Kitchen → Kitchen × Reply
  | .ok next => (next, .done)
  | .error why => (k, .refused why)

def perform (k : Kitchen) : Call → Kitchen × Reply
  | .load recipe env => k.acknowledge (k.load recipe env)
  | .addStep operation id => k.answer .id (k.addStep operation id)
  | .updateArguments id args => k.acknowledge (k.updateArguments id args)
  | .setOutput id output => k.acknowledge (k.setOutput id output)
  | .removeStep id => k.answer .step (k.removeStep id)
  | .moveStep id target placement =>
    let (moved, next) := k.moveStep id target placement
    (next, .flag moved)
  | .reorder id target =>
    let (moved, next) := k.reorder id target
    (next, .flag moved)
  | .setVariable name value => k.acknowledge (k.setVariable name value)
  | .removeVariable name => k.answer .stored (k.removeVariable name)
  | .updateScalar name cell => k.acknowledge (k.updateScalar name cell)
  | .updateCell name row column cell => k.answer .flag (k.updateCell name row column cell)
  | .updateCellText name row column raw => k.answer .flag (k.updateCellText name row column raw)
  | .clearVariables => k.acknowledge k.clearVariables
  | .reset => (k.reset, .done)
  | .bake clock => k.answer .report (k.bake clock)
  | .inspect => (k, .state k)

def performAll (k : Kitchen) : List Call → Kitchen × List Reply
  | [] => (k, [])
  | call :: rest =>
    let (next, reply) := k.perform call
    let (last, replies) := next.performAll rest
    (last, reply :: replies)

/-- A run under way and the kitchen around it, with the replies to the calls made so far. -/
structure Busy where
  outcome : Outcome
  kitchen : Kitchen
  replies : List Reply

/-- One more step of a run; an operation makes its calls while it computes its value. -/
def Busy.advance (registry : Registry) (config : Config) (clock : Clock) (calls : List Call)
    (busy : Busy) (step : Step) : Busy :=
  let (kitchen, replies) :=
    busy.kitchen.performAll (if registry.contains step.operation then calls else [])
  ⟨busy.outcome.advance registry config clock step, kitchen, busy.replies ++ replies⟩

/-- The steps of a run up to the first failure; `calls` are those of the step at each position. -/
def Busy.follow (registry : Registry) (config : Config) (clock : Clock)
    (calls : Nat → List Call) : Nat → Busy → Recipe → Busy
  | _, busy, [] => busy
  | position, busy, step :: rest =>
    let next := busy.advance registry config clock (calls position) step
    if next.outcome.report.isSuccess then
      Busy.follow registry config clock calls (position + 1) next rest
    else next

/-- Runs the recipe while the operations make calls on this kitchen. The run works on the recipe
and the environment held at its beginning. -/
def bakeDuring (k : Kitchen) (clock : Clock) (calls : Nat → List Call) :
    Except Failure (Report × List Reply × Kitchen) := do
  let held ← k.baker.begin
  let busy := Busy.follow held.registry held.config clock calls 0
    ⟨.start k.environment, { k with baker := held }, []⟩ k.recipe
  .ok (busy.outcome.report, busy.replies, busy.kitchen.finish busy.outcome)

end Kitchen

end RecipeEngine
