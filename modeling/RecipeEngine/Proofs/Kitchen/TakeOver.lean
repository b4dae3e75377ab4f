import RecipeEngine.Kitchen.Basic
import RecipeEngine.Proofs.Bake.Run

namespace RecipeEngine.Kitchen

theorem takeOver_get? (env : Environment) (o : Outcome) (name : String) :
    (takeOver env o).get? name =
      if name ∈ o.report.committed then (o.environment.get? name).or (env.get? name)
      else env.get? name := by
  unfold takeOver
  induction o.report.committed generalizing env with
  | nil => simp
  | cons first rest ih =>
    rw [List.foldl_cons, ih]
    by_cases here : first = name
    · subst here
      cases found : o.environment.get? first <;> simp
    · cases found : o.environment.get? first with
      | none => simp [Ne.symm here]
      | some value => simp [NameMap.get?_insert_of_ne _ _ here, Ne.symm here]

theorem takeOver_undisturbed {env : Environment} {o : Outcome} (origin : o.CameFrom env) :
    takeOver env o = o.environment := by
  refine NameMap.ext fun name => ?_
  rw [takeOver_get?]
  split
  · rename_i member
    obtain ⟨value, found⟩ := origin.bound name member
    rw [found, Option.some_or]
  · rename_i absent
    exact (origin.others name absent).symm

theorem takeOver_cleared (o : Outcome) :
    takeOver NameMap.empty o =
      o.environment.filter fun name _ => o.report.committed.contains name := by
  refine NameMap.ext fun name => ?_
  rw [takeOver_get?, NameMap.get?_filter, NameMap.get?_empty, Option.or_none]
  simp only [List.contains_iff_mem]

/-- What an idle kitchen is after a run that ended with an outcome. -/
def after (k : Kitchen) (o : Outcome) : Kitchen :=
  { k with environment := o.environment, log := o.report.log }

theorem bake_idle {k : Kitchen} (idle : k.isRunning = false) (clock : Clock) :
    k.bake clock =
      let o := k.recipe.bake k.baker.registry k.baker.config clock k.environment
      .ok (o.report, k.after o) := by
  obtain ⟨⟨registry, config, running⟩, recipe, env, log⟩ := k
  cases idle
  unfold bake
  split
  · rename_i why refused
    cases refused
  · rename_i held accepted
    cases accepted
    simp only [finish, Baker.finish, Baker.bakeWith, after,
      takeOver_undisturbed (recipe.bake_cameFrom env)]

end RecipeEngine.Kitchen
