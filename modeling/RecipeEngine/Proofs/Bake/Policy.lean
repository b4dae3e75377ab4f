import RecipeEngine.Proofs.Bake.Composition

namespace RecipeEngine

/-- The settings with a policy for operations that are not registered. -/
def Config.under (config : Config) (policy : UnknownPolicy) : Config :=
  { config with unknownOperations := policy }

namespace Outcome

variable {registry : Registry} {config : Config} {clock : Clock} {step : Step}

variable (registry config clock)

/-- The steps that a run attempts: all of them, or those up to the one at which it ends. -/
def attempted : Outcome → Recipe → Recipe
  | _, [] => []
  | o, step :: rest =>
    let next := o.advance registry config clock step
    step :: if next.report.isSuccess then attempted next rest else []

variable {registry config clock}

end Outcome

namespace Recipe

variable (registry : Registry) (config : Config) (clock : Clock) (env : Environment)

def attempted (recipe : Recipe) : Recipe :=
  Outcome.attempted registry config clock (.start env) recipe

def registered (recipe : Recipe) : Recipe :=
  recipe.filter (·.isRegistered registry)

def unregistered (recipe : Recipe) : List String :=
  (recipe.filter fun step => !step.isRegistered registry).map Step.id

variable {registry config clock env}

theorem unregistered_concat (recipe : Recipe) (step : Step) :
    unregistered registry (recipe ++ [step]) =
      unregistered registry recipe ++ if step.isRegistered registry then [] else [step.id] := by
  unfold unregistered
  cases registered : step.isRegistered registry <;> simp [registered]

/-- A run that does not end early passes over every step that it cannot run. -/
theorem bake_skipped {recipe : Recipe}
    (going : (recipe.bake registry config clock env).report.haltedAt = none) :
    (recipe.bake registry config clock env).report.skipped = unregistered registry recipe := by
  -- From the end of the recipe: the last step is taken in the state that the others left.
  induction recipe using List.reverseRecOn with
  | nil => rfl
  | append_singleton recipe step ih =>
    cases former : (Recipe.bake registry config clock recipe env).report.haltedAt with
    | some id =>
      rw [bake_prolonged former, former] at going
      cases going
    | none =>
      rw [bake_concat former] at going ⊢
      rw [unregistered_concat, ← ih former]
      rcases Outcome.advance_cases registry config clock (Recipe.bake registry config clock recipe env)
        step with ⟨value, given, next⟩ | ⟨why, -, next⟩ | ⟨unknown, -, next⟩ <;>
        rw [next] at going ⊢
      · rw [if_pos (Step.isRegistered_of_result given), List.append_nil]
        rfl
      · cases going
      · rw [(Step.attempt_eq_unknown_iff _).mp unknown]
        rfl

/-- A run that ends early has passed over the steps before its end that it cannot run. -/
theorem EndsAt.skipped {before : Recipe} {step : Step}
    (ends : EndsAt registry config clock env before step) (rest : Recipe) :
    ((before ++ step :: rest).bake registry config clock env).report.skipped =
      unregistered registry before := by
  obtain ⟨why, halted⟩ := ends.bake_eq rest
  rw [halted]
  exact bake_skipped ends.reached

end Recipe

end RecipeEngine
