import RecipeEngine.Bake.Report
import RecipeEngine.Config
import RecipeEngine.Recipe.Basic

namespace RecipeEngine

/-- What comes of trying a step. -/
inductive Attempt where
  | unknown
  | result (value : Value)
  | failed (why : Failure)

def Step.attempt (registry : Registry) (env : Environment) (step : Step) : Attempt :=
  match registry.get? step.operation with
  | none => .unknown
  | some op =>
    match op.run step.arguments env with
    | .ok value => .result value
    | .error why => .failed why

abbrev Clock := Nat → Stamp

/-- The times of a clock without the durations, as for steps that are not tried. -/
def Clock.unmeasured (clock : Clock) : Clock := fun seq => { clock seq with duration := 0 }

/-- An environment and the report of the run that led to it. -/
structure Outcome where
  environment : Environment
  report : Report

namespace Outcome

def start (env : Environment) : Outcome := ⟨env, .start⟩

def commit (config : Config) (clock : Clock) (o : Outcome) (step : Step) (value : Value) :
    Outcome where
  environment := o.environment.insert (step.outputName config.lead) value
  report :=
    { o.report with
      log := o.report.log.success step.id step.operation (step.outputName config.lead)
        (if config.snapshots then some value else none) (clock o.report.log.length)
      committed := o.report.committed ++ [step.outputName config.lead] }

def halt (clock : Clock) (o : Outcome) (step : Step) (why : Failure) : Outcome where
  environment := o.environment
  report :=
    { o.report with
      log := o.report.log.failure step.id step.operation why (clock o.report.log.length)
      haltedAt := some step.id }

def skip (o : Outcome) (step : Step) : Outcome :=
  { o with report := { o.report with skipped := o.report.skipped ++ [step.id] } }

def advance (registry : Registry) (config : Config) (clock : Clock) (o : Outcome) (step : Step) :
    Outcome :=
  match step.attempt registry o.environment with
  | .result value => o.commit config clock step value
  | .failed why => o.halt clock step why
  | .unknown =>
    match config.unknownOperations with
    | .skip => o.skip step
    | .fail => o.halt clock.unmeasured step (.unknownOperation step.operation)

/-- The outcome after the steps of a recipe, up to the first failure. -/
def follow (registry : Registry) (config : Config) (clock : Clock) : Outcome → Recipe → Outcome
  | o, [] => o
  | o, step :: rest =>
    let next := o.advance registry config clock step
    if next.report.isSuccess then follow registry config clock next rest else next

end Outcome

/-- The outcome of a recipe from an environment. Each step is evaluated in the environment that the
steps before it left behind, and its result is bound only after it has succeeded. -/
def Recipe.bake (registry : Registry) (config : Config) (clock : Clock) (recipe : Recipe)
    (env : Environment) : Outcome :=
  Outcome.follow registry config clock (.start env) recipe

end RecipeEngine
