import RecipeEngine.Proofs.Bake.Rerun
import RecipeEngine.Proofs.Kitchen.TakeOver

namespace RecipeEngine.Kitchen

/-- Where no step writes what it or an earlier step reads, a second run with no edit before it
reports what the first reported, times apart, and changes nothing. -/
theorem bake_twice {k : Kitchen} (idle : k.isRunning = false)
    (standard : k.baker.registry = .builtin) (quiet : k.recipe.NoFeedback k.baker.config.lead)
    (clock later : Clock) :
    ∃ first once second twice,
      k.bake clock = .ok (first, once) ∧ once.bake later = .ok (second, twice) ∧
        second.timeless = first.timeless ∧ twice.environment = once.environment := by
  obtain ⟨reports, environments⟩ := Recipe.bake_again quiet k.environment clock later
  have firstRun := bake_idle idle clock
  have secondRun := bake_idle
    (k := k.after (k.recipe.bake .builtin k.baker.config clock k.environment)) idle later
  simp only [after, standard] at firstRun secondRun
  exact ⟨_, _, _, _, firstRun, secondRun, reports, environments⟩

/-- A kitchen with a rate that is computed into a total. -/
def totalling : Kitchen where
  baker := { registry := .builtin, config := {} }
  recipe :=
    [⟨"s1", "input-constant", NameMap.ofList [("value", .text "5")], "rate"⟩,
     ⟨"s2", "constant-math", NameMap.ofList [("expression", .text "rate + base")], "total"⟩]
  environment := NameMap.ofList [("base", .string "2")]

theorem compile_total : Formula.compile "rate + base" =
    .ok ⟨"rate + base", .binary .add (.name "rate") (.name "base")⟩ :=
  Formula.compile_of_parse [⟨.name "rate", 0⟩, ⟨.symbol .plus, 5⟩, ⟨.name "base", 7⟩]
    (by rfl) (by rfl)

theorem totalling_noFeedback : totalling.recipe.NoFeedback "var_" := by
  have given : Arguments.required (NameMap.ofList [("expression", Json.text "rate + base")])
      "expression" = .ok "rate + base" := by rfl
  have rate : Step.outputName ⟨"s1", "input-constant", NameMap.ofList [("value", .text "5")],
      "rate"⟩ "var_" = "rate" := by rfl
  have total : Step.outputName ⟨"s2", "constant-math",
      NameMap.ofList [("expression", .text "rate + base")], "total"⟩ "var_" = "total" := by rfl
  constructor <;>
    simp [totalling, Step.reads, Arguments.formulaNames, given, compile_total, Expression.names,
      rate, total]

theorem bake_twice_totalling :
    totalling.isRunning = false ∧ totalling.baker.registry = .builtin ∧
      totalling.recipe.NoFeedback totalling.baker.config.lead ∧
      ∃ first once second twice,
        totalling.bake (fun _ => ⟨"09:00", 3⟩) = .ok (first, once) ∧
          once.bake (fun _ => ⟨"10:00", 4⟩) = .ok (second, twice) ∧
          second.timeless = first.timeless ∧ twice.environment = once.environment :=
  ⟨rfl, rfl, totalling_noFeedback, bake_twice rfl rfl totalling_noFeedback _ _⟩

end RecipeEngine.Kitchen
