import RecipeEngine.Proofs.Bake.Composition

namespace RecipeEngine

/-- An outcome accounts for the steps that a run passed and the one, if any, at which it halted. -/
structure Outcome.Accounts (registry : Registry) (config : Config) (passed : Recipe)
    (halting : Option Step) (o : Outcome) : Prop where
  numbered : o.report.log.map Entry.seq = List.range o.report.log.length
  logged : o.report.log.map (fun entry => (entry.step, entry.operation)) =
    (passed.filter (·.isRegistered registry) ++ halting.toList).map
      fun step => (step.id, step.operation)
  statuses : o.report.log.statuses =
    (passed.filter (·.isRegistered registry)).map (fun _ => .success) ++
      halting.toList.map fun _ => .error
  skipped : o.report.skipped = (passed.filter fun step => !step.isRegistered registry).map Step.id
  /-- Steps are passed over only where the settings say so. -/
  passedOver : ∀ step ∈ passed, step.isRegistered registry = false →
    config.unknownOperations = .skip
  committed : o.report.committed =
    (passed.filter (·.isRegistered registry)).map (·.outputName config.lead)
  /-- The entries of results name the variables that are reported as bound. -/
  names : (o.report.log.filter Entry.isSuccess).map Entry.outputName = o.report.committed.map some
  haltedAt : o.report.haltedAt = halting.map Step.id
  /-- A step that cannot be run ends the run only where the settings say so. -/
  stopped : ∀ step ∈ halting, step.isRegistered registry = false → config.unknownOperations = .fail

namespace Outcome

variable {registry : Registry} {config : Config} {passed : Recipe} {o : Outcome} {step : Step}

theorem accounts_start (env : Environment) : (start env).Accounts registry config [] none := by
  constructor <;> simp [start, Report.start, Log.statuses]

theorem Accounts.commit (accounts : o.Accounts registry config passed none)
    (registered : step.isRegistered registry = true) (clock : Clock) (value : Value) :
    (o.commit config clock step value).Accounts registry config (passed ++ [step]) none where
  numbered := by
    simp [Outcome.commit, Log.success, Log.successEntry, accounts.numbered, List.range_succ]
  logged := by
    simpa [Outcome.commit, Log.success, Log.successEntry, registered] using accounts.logged
  statuses := by
    simpa [Outcome.commit, Log.success, Log.successEntry, Log.statuses, registered]
      using accounts.statuses
  skipped := by simpa [Outcome.commit, registered] using accounts.skipped
  passedOver := by
    intro other member unregistered
    rcases List.mem_append.mp member with earlier | last
    · exact accounts.passedOver other earlier unregistered
    · rw [List.mem_singleton.mp last, registered] at unregistered
      cases unregistered
  committed := by simp [Outcome.commit, registered, accounts.committed]
  names := by
    simp [Outcome.commit, Log.success, Log.successEntry, Entry.isSuccess, List.filter_append,
      ← accounts.names]
  haltedAt := accounts.haltedAt
  stopped := accounts.stopped

theorem Accounts.halt (accounts : o.Accounts registry config passed none)
    (stopped : step.isRegistered registry = false → config.unknownOperations = .fail)
    (clock : Clock) (why : Failure) :
    (o.halt clock step why).Accounts registry config passed (some step) where
  numbered := by
    simp [Outcome.halt, Log.failure, Log.failureEntry, accounts.numbered, List.range_succ]
  logged := by
    simpa [Outcome.halt, Log.failure, Log.failureEntry] using accounts.logged
  statuses := by
    simpa [Outcome.halt, Log.failure, Log.failureEntry, Log.statuses] using accounts.statuses
  skipped := accounts.skipped
  passedOver := accounts.passedOver
  committed := accounts.committed
  names := by
    simpa [Outcome.halt, Log.failure, Log.failureEntry, Entry.isSuccess, List.filter_append]
      using accounts.names
  haltedAt := rfl
  stopped := by
    intro other here
    rwa [← Option.some.inj here]

theorem Accounts.skip (accounts : o.Accounts registry config passed none)
    (unregistered : step.isRegistered registry = false)
    (policy : config.unknownOperations = .skip) :
    (o.skip step).Accounts registry config (passed ++ [step]) none where
  numbered := accounts.numbered
  logged := by simpa [Outcome.skip, unregistered] using accounts.logged
  statuses := by simpa [Outcome.skip, unregistered] using accounts.statuses
  skipped := by simp [Outcome.skip, unregistered, accounts.skipped]
  passedOver := fun _ _ _ => policy
  committed := by simpa [Outcome.skip, unregistered] using accounts.committed
  names := accounts.names
  haltedAt := accounts.haltedAt
  stopped := accounts.stopped

theorem Accounts.advance (accounts : o.Accounts registry config passed none) (clock : Clock)
    (step : Step) :
    (o.advance registry config clock step).Accounts registry config (passed ++ [step]) none ∨
      (o.advance registry config clock step).Accounts registry config passed (some step) := by
  rcases o.advance_cases registry config clock step with
    ⟨value, given, next⟩ | ⟨why, fails, next⟩ | ⟨unknown, passes, next⟩ <;> rw [next]
  · left
    exact accounts.commit (Step.isRegistered_of_result given) clock value
  · right
    refine accounts.halt (fun unregistered => ?_) _ why
    have unknown := (Step.attempt_eq_unknown_iff o.environment).mpr unregistered
    cases policy : config.unknownOperations with
    | fail => rfl
    | skip => simp [Step.failure?, unknown, policy] at fails
  · left
    refine accounts.skip ((Step.attempt_eq_unknown_iff o.environment).mp unknown) ?_
    cases policy : config.unknownOperations with
    | skip => rfl
    | fail => simp [Step.failure?, unknown, policy] at passes

end Outcome

namespace Recipe

/-- The steps of a recipe of which a run accounts: those it passed, the one at which it halted, and
those after that one, which leave no trace. -/
theorem bake_coherent (registry : Registry) (config : Config) (clock : Clock) (recipe : Recipe)
    (env : Environment) :
    ∃ passed halting untried, recipe = passed ++ Option.toList halting ++ untried ∧
      (halting = none → untried = []) ∧
      (recipe.bake registry config clock env).Accounts registry config passed halting ∧
      (halting.isSome → ∀ others : Recipe,
        (passed ++ halting.toList ++ others).bake registry config clock env =
          recipe.bake registry config clock env) := by
  -- From the end of the recipe: a run that has halted ignores one more step, and a run that has not
  -- takes it in the state that the steps before left.
  induction recipe using List.reverseRecOn with
  | nil => exact ⟨[], none, [], rfl, fun _ => rfl, Outcome.accounts_start env, by simp⟩
  | append_singleton recipe step ih =>
    obtain ⟨passed, halting, untried, split, complete, accounts, traceless⟩ := ih
    cases halting with
    | some failed =>
      have last := bake_prolonged accounts.haltedAt [step]
      refine ⟨passed, some failed, untried ++ [step], by simp [split], by simp, ?_, ?_⟩
      · exact last.symm ▸ accounts
      · exact fun _ others => (traceless rfl others).trans last.symm
    | none =>
      have whole : recipe = passed := by simpa [complete rfl] using split
      have next := bake_concat accounts.haltedAt step
      rcases accounts.advance clock step with passes | halts
      · rw [← next, ← whole] at passes
        exact ⟨recipe ++ [step], none, [], by simp, fun _ => rfl, passes, by simp⟩
      · rw [← next, ← whole] at halts
        refine ⟨recipe, some step, [], by simp, by simp, halts, fun _ others => ?_⟩
        exact bake_prolonged halts.haltedAt others

end Recipe

end RecipeEngine
