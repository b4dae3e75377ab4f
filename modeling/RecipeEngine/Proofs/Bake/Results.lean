import RecipeEngine.Proofs.Bake.Exchange
import RecipeEngine.Proofs.Recipe.OutputNames

namespace RecipeEngine

namespace Recipe

variable {registry : Registry} {config : Config} {clock : Clock} {env : Environment}
  {before : Recipe} {step first second : Step} {value one : Value}

theorem Yields.kept (yields : Yields registry config clock env before step value) {rest : Recipe}
    (untouched : step.outputName config.lead ∉ rest.outputs config.lead) :
    ((before ++ step :: rest).bake registry config clock env).environment.get?
      (step.outputName config.lead) = some value := by
  have parts : before ++ step :: rest = before ++ [step] ++ rest := by simp
  have bound : ((before ++ [step]).bake registry config clock env).environment.get?
      (step.outputName config.lead) = some value := by
    rw [yields.bake_concat]
    exact NameMap.get?_insert_self _ _ _
  rw [parts, bake, Outcome.follow_append registry config clock rfl]
  dsimp only
  split
  · exact (Outcome.follow_untouched _ untouched).trans bound
  · exact bound

/-- Two names that are made from ids agree, whatever they start with, exactly if the ids have the
same stem. So where the stems differ neither result of a run takes the place of the other; where
they agree the second one is found under the name of the first. -/
theorem madeUp_results_apart (firstBlank : Text.isAllBlank first.output = true)
    (secondBlank : Text.isAllBlank second.output = true) :
    (∀ lead, first.outputName lead = second.outputName lead ↔
      Step.stem first.id = Step.stem second.id) ∧
    ∀ (registry : Registry) (config : Config) (clock : Clock) (env : Environment)
      (before between after : Recipe) (one : Value),
      Yields registry config clock env before first one →
      let last := ((before ++ first :: (between ++ second :: after)).bake registry config clock
        env).environment
      (Step.stem first.id ≠ Step.stem second.id →
        first.outputName config.lead ∉ (between ++ after).outputs config.lead →
        last.get? (first.outputName config.lead) = some one) ∧
      ∀ two, Yields registry config clock env (before ++ first :: between) second two →
        second.outputName config.lead ∉ after.outputs config.lead →
        last.get? (second.outputName config.lead) = some two ∧
          (Step.stem first.id = Step.stem second.id →
            last.get? (first.outputName config.lead) = some two) := by
  have names := Step.outputName_eq_iff firstBlank secondBlank
  refine ⟨names, fun registry config clock env before between after one firstYields => ⟨?_, ?_⟩⟩
  · intro apart others
    refine firstYields.kept fun member => ?_
    have different := mt (names config.lead).mp apart
    simp only [outputs, List.map_append, List.map_cons, List.mem_append, List.mem_cons,
      not_or] at others member
    rcases member with earlier | here | later
    · exact others.1 earlier
    · exact different here
    · exact others.2 later
  · intro two secondYields others
    have found := secondYields.kept others
    rw [List.append_assoc, List.cons_append] at found
    exact ⟨found, fun same => (names config.lead).mpr same ▸ found⟩

def sales (id value : String) : Step :=
  ⟨id, "input-constant", NameMap.ofList [("value", .text value)], ""⟩

theorem madeUp_results_apart_sales :
    let first := sales "2023-sales" "7"
    let second := sales "2024-sales" "9"
    let last := (Recipe.bake .builtin {} (fun _ => ⟨"09:00", 3⟩) [first, second]
      NameMap.empty).environment
    (Text.isAllBlank first.output = true ∧ Text.isAllBlank second.output = true ∧
      Yields .builtin {} (fun _ => ⟨"09:00", 3⟩) NameMap.empty [] first (.string "7") ∧
      Yields .builtin {} (fun _ => ⟨"09:00", 3⟩) NameMap.empty [first] second (.string "9") ∧
      Step.stem first.id ≠ Step.stem second.id) ∧
    first.outputName "var_" ≠ second.outputName "var_" ∧
      last.get? (first.outputName "var_") = some (.string "7") ∧
      last.get? (second.outputName "var_") = some (.string "9") := by
  intro first second last
  have firstBlank : Text.isAllBlank first.output = true := rfl
  have secondBlank : Text.isAllBlank second.output = true := rfl
  have firstYields : Yields .builtin {} (fun _ => ⟨"09:00", 3⟩) NameMap.empty [] first
      (.string "7") := ⟨rfl, rfl⟩
  have secondYields : Yields .builtin {} (fun _ => ⟨"09:00", 3⟩) NameMap.empty [first] second
      (.string "9") := ⟨rfl, rfl⟩
  have apart : Step.stem first.id ≠ Step.stem second.id := by decide
  obtain ⟨names, results⟩ := madeUp_results_apart firstBlank secondBlank
  obtain ⟨stays, later⟩ := results .builtin {} (fun _ => ⟨"09:00", 3⟩) NameMap.empty [] [] [] _
    firstYields
  exact ⟨⟨firstBlank, secondBlank, firstYields, secondYields, apart⟩,
    mt (names "var_").mp apart, stays apart List.not_mem_nil,
    (later _ secondYields List.not_mem_nil).1⟩

/-- Ids that differ behind their first eight letters and digits share a name, and the first result
is lost. -/
theorem not_madeUp_results_apart :
    let first := sales "sales-2023" "7"
    let second := sales "sales-2024" "9"
    let run := Recipe.bake .builtin {} (fun _ => ⟨"09:00", 3⟩) [first, second] NameMap.empty
    (first.outputName "var_" = "var_sales202" ∧ second.outputName "var_" = "var_sales202" ∧
      run.report.haltedAt = none ∧
      run.report.committed = [first.outputName "var_", second.outputName "var_"] ∧
      run.environment.get? (first.outputName "var_") = some (.string "9")) ∧
    ¬ ∀ first second : Step, Text.isAllBlank first.output = true →
      Text.isAllBlank second.output = true → first.id ≠ second.id →
      ∀ lead, first.outputName lead ≠ second.outputName lead := by
  intro first second run
  have same : first.outputName "var_" = second.outputName "var_" := by decide
  refine ⟨⟨by decide, by decide, rfl, rfl, ?_⟩, fun apart => ?_⟩
  · rw [same]
    exact NameMap.get?_insert_self _ _ _
  · exact apart first second rfl rfl (by decide) "var_" same

end Recipe

end RecipeEngine
