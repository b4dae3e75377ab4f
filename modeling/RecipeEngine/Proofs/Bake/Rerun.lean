import RecipeEngine.Proofs.Bake.Run
import RecipeEngine.Proofs.Operation.Reads

namespace RecipeEngine

def Entry.timeless (entry : Entry) : Entry := { entry with stamp := ⟨"", 0⟩ }

def Report.timeless (report : Report) : Report :=
  { report with log := report.log.map Entry.timeless }

/-- No step of a recipe writes what it or an earlier step reads. -/
structure Recipe.NoFeedback (recipe : Recipe) (lead : String) : Prop where
  within : ∀ step ∈ recipe, step.outputName lead ∉ step.reads
  across : recipe.Pairwise fun earlier later => later.outputName lead ∉ earlier.reads

instance (recipe : Recipe) (lead : String) : Decidable (recipe.NoFeedback lead) :=
  decidable_of_iff
    ((∀ step ∈ recipe, step.outputName lead ∉ step.reads) ∧
      recipe.Pairwise fun earlier later => later.outputName lead ∉ earlier.reads)
    ⟨fun ⟨within, across⟩ => ⟨within, across⟩, fun quiet => ⟨quiet.within, quiet.across⟩⟩

theorem Recipe.NoFeedback.head {step : Step} {rest : Recipe} {lead name : String}
    (quiet : Recipe.NoFeedback (step :: rest) lead) (read : name ∈ step.reads) :
    name ∉ Recipe.outputs (step :: rest) lead := by
  intro written
  obtain ⟨writer, member, rfl⟩ := List.mem_map.mp written
  rcases List.mem_cons.mp member with rfl | later
  · exact quiet.within writer List.mem_cons_self read
  · exact (List.pairwise_cons.mp quiet.across).1 writer later read

theorem Recipe.NoFeedback.tail {step : Step} {rest : Recipe} {lead : String}
    (quiet : Recipe.NoFeedback (step :: rest) lead) : Recipe.NoFeedback rest lead :=
  ⟨fun later member => quiet.within later (List.mem_cons_of_mem _ member),
    (List.pairwise_cons.mp quiet.across).2⟩

namespace Outcome

variable {first second : Outcome}

theorem length_eq_of_timeless (reports : second.report.timeless = first.report.timeless) :
    second.report.log.length = first.report.log.length := by
  have logs := congrArg (fun report => report.log.length) reports
  simpa [Report.timeless] using logs

theorem isSuccess_eq_of_timeless (reports : second.report.timeless = first.report.timeless) :
    second.report.isSuccess = first.report.isSuccess := by
  have halts := congrArg Report.haltedAt reports
  simp only [Report.timeless] at halts
  rw [Report.isSuccess, Report.isSuccess, halts]

variable (registry : Registry) (config : Config) (clock later : Clock)

/-- A step that comes out the same in two runs is recorded the same, and binds the same value or
none in both. -/
theorem advance_alike {step : Step}
    (reports : second.report.timeless = first.report.timeless)
    (same : step.attempt registry second.environment = step.attempt registry first.environment) :
    (second.advance registry config later step).report.timeless =
        (first.advance registry config clock step).report.timeless ∧
      ∀ name,
        (second.advance registry config later step).environment.get? name =
            (first.advance registry config clock step).environment.get? name ∨
          (second.advance registry config later step).environment.get? name =
              second.environment.get? name ∧
            (first.advance registry config clock step).environment.get? name =
              first.environment.get? name := by
  have lengths := length_eq_of_timeless reports
  simp only [Report.timeless, Report.mk.injEq] at reports
  obtain ⟨logs, halted, skipped, committed⟩ := reports
  unfold advance
  rw [same]
  cases step.attempt registry first.environment with
  | result value =>
    refine ⟨?_, fun name => ?_⟩
    · simp [commit, Report.timeless, Log.success, Log.successEntry, Entry.timeless, logs, lengths,
        halted, skipped, committed]
    · by_cases here : step.outputName config.lead = name
      · left
        simp only [commit, here, NameMap.get?_insert_self]
      · right
        simp only [commit, NameMap.get?_insert_of_ne _ _ here, and_self]
  | failed why =>
    refine ⟨?_, fun name => Or.inr ⟨rfl, rfl⟩⟩
    simp [halt, Report.timeless, Log.failure, Log.failureEntry, Entry.timeless, logs, lengths,
      skipped, committed]
  | unknown =>
    cases config.unknownOperations with
    | skip =>
      refine ⟨?_, fun name => Or.inr ⟨rfl, rfl⟩⟩
      simp [skip, Report.timeless, logs, halted, skipped, committed]
    | fail =>
      refine ⟨?_, fun name => Or.inr ⟨rfl, rfl⟩⟩
      simp [halt, Report.timeless, Log.failure, Log.failureEntry, Entry.timeless, logs, lengths,
        skipped, committed]

/-- The second run keeps up with the first: every name holds what it holds at this point of the
first run, or already what it holds at the end of it. -/
theorem follow_again {recipe : Recipe} (quiet : recipe.NoFeedback config.lead)
    (reports : second.report.timeless = first.report.timeless)
    (ahead : ∀ name, second.environment.get? name = first.environment.get? name ∨
      second.environment.get? name =
        (follow .builtin config clock first recipe).environment.get? name) :
    (follow .builtin config later second recipe).report.timeless =
        (follow .builtin config clock first recipe).report.timeless ∧
      (follow .builtin config later second recipe).environment =
        (follow .builtin config clock first recipe).environment := by
  induction recipe generalizing first second with
  | nil => exact ⟨reports, NameMap.ext fun name => (ahead name).elim id id⟩
  | cons step rest ih =>
    have agree : Environment.AgreeOn step.reads second.environment first.environment := by
      intro name read
      rcases ahead name with now | done
      · exact now
      · rw [done, follow_untouched first (quiet.head read)]
    obtain ⟨recorded, bound⟩ :=
      advance_alike .builtin config clock later reports (Step.attempt_congr agree)
    have success := isSuccess_eq_of_timeless recorded
    simp only [follow] at ahead ⊢
    rw [success]
    split at ahead
    · rename_i continues
      rw [if_pos continues, if_pos continues]
      refine ih quiet.tail recorded fun name => ?_
      rcases bound name with same | ⟨kept, before⟩
      · exact Or.inl same
      · rw [kept, before]
        exact ahead name
    · rename_i halts
      rw [if_neg halts, if_neg halts]
      refine ⟨recorded, NameMap.ext fun name => ?_⟩
      rcases bound name with same | ⟨kept, before⟩
      · exact same
      · rw [kept]
        rcases ahead name with now | done
        · rw [now, before]
        · exact done

end Outcome

/-- A second run in the environment that the first left reports the same and leaves the same. -/
theorem Recipe.bake_again {recipe : Recipe} {config : Config}
    (quiet : recipe.NoFeedback config.lead) (env : Environment) (clock later : Clock) :
    let o := recipe.bake .builtin config clock env
    (recipe.bake .builtin config later o.environment).report.timeless = o.report.timeless ∧
      (recipe.bake .builtin config later o.environment).environment = o.environment :=
  Outcome.follow_again config clock later quiet rfl fun _ => Or.inr rfl

end RecipeEngine
