import RecipeEngine.Bake.Run

namespace RecipeEngine

/-- Why a step ends a run in an environment, if it does. -/
def Step.failure? (registry : Registry) (config : Config) (env : Environment) (step : Step) :
    Option Failure :=
  match step.attempt registry env, config.unknownOperations with
  | .failed why, _ => some why
  | .unknown, .fail => some (.unknownOperation step.operation)
  | _, _ => none

def Step.isRegistered (registry : Registry) (step : Step) : Bool :=
  registry.contains step.operation

/-- The clock of a step that fails: it has measured nothing if the operation is not registered. -/
def Step.timing (registry : Registry) (clock : Clock) (step : Step) : Clock :=
  if step.isRegistered registry then clock else clock.unmeasured

theorem Step.attempt_eq_unknown_iff {registry : Registry} {step : Step} (env : Environment) :
    step.attempt registry env = .unknown ↔ step.isRegistered registry = false := by
  unfold attempt isRegistered Registry.contains
  cases registry.get? step.operation with
  | none => simp
  | some op => cases ran : op.run step.arguments env <;> simp [ran]

theorem Step.attempt_eq_result_iff {registry : Registry} {env : Environment} {step : Step}
    {value : Value} :
    step.attempt registry env = .result value ↔
      ∃ op, registry.get? step.operation = some op ∧ op.run step.arguments env = .ok value := by
  unfold attempt
  cases registry.get? step.operation with
  | none => simp
  | some op => cases ran : op.run step.arguments env <;> simp [ran]

theorem Step.isRegistered_of_result {registry : Registry} {env : Environment} {step : Step}
    {value : Value} (given : step.attempt registry env = .result value) :
    step.isRegistered registry = true := by
  obtain ⟨op, found, -⟩ := Step.attempt_eq_result_iff.mp given
  rw [isRegistered, Registry.contains, found, Option.isSome_some]

theorem Step.timing_of_failed {registry : Registry} {env : Environment} {step : Step}
    {why : Failure} (failed : step.attempt registry env = .failed why) (clock : Clock) :
    step.timing registry clock = clock := by
  cases registered : step.isRegistered registry with
  | true => rw [timing, if_pos registered]
  | false =>
    rw [(Step.attempt_eq_unknown_iff env).mpr registered] at failed
    cases failed

theorem Step.timing_of_unknown {registry : Registry} {env : Environment} {step : Step}
    (unknown : step.attempt registry env = .unknown) (clock : Clock) :
    step.timing registry clock = clock.unmeasured := by
  rw [timing, (Step.attempt_eq_unknown_iff env).mp unknown, if_neg Bool.false_ne_true]

/-- The names to which the steps of a recipe bind their results. -/
def Recipe.outputs (recipe : Recipe) (lead : String) : List String :=
  recipe.map (·.outputName lead)

variable {registry : Registry} {config : Config} {clock : Clock}

namespace Outcome

/-- A step binds its result, ends the run or is passed over. -/
theorem advance_cases (registry : Registry) (config : Config) (clock : Clock) (o : Outcome)
    (step : Step) :
    (∃ value, step.attempt registry o.environment = .result value ∧
      o.advance registry config clock step = o.commit config clock step value) ∨
    (∃ why, step.failure? registry config o.environment = some why ∧
      o.advance registry config clock step = o.halt (step.timing registry clock) step why) ∨
    (step.attempt registry o.environment = .unknown ∧
      step.failure? registry config o.environment = none ∧
      o.advance registry config clock step = o.skip step) := by
  unfold advance Step.failure?
  cases attempt : step.attempt registry o.environment with
  | result value => exact Or.inl ⟨value, rfl, rfl⟩
  | failed why =>
    exact Or.inr (Or.inl ⟨why, rfl, by rw [Step.timing_of_failed attempt]⟩)
  | unknown =>
    cases config.unknownOperations with
    | skip => exact Or.inr (Or.inr ⟨rfl, rfl, rfl⟩)
    | fail => exact Or.inr (Or.inl ⟨_, rfl, by rw [Step.timing_of_unknown attempt]⟩)

theorem follow_invariant {motive : Outcome → Prop} {recipe : Recipe} {o : Outcome}
    (before : motive o)
    (preserved : ∀ o step, step ∈ recipe → motive o →
      motive (o.advance registry config clock step)) :
    motive (follow registry config clock o recipe) := by
  induction recipe generalizing o with
  | nil => exact before
  | cons step rest ih =>
    have next := preserved o step List.mem_cons_self before
    simp only [follow]
    split
    · exact ih next fun o later member => preserved o later (List.mem_cons_of_mem _ member)
    · exact next

theorem follow_untouched {recipe : Recipe} {name : String} (o : Outcome)
    (untouched : name ∉ recipe.outputs config.lead) :
    (follow registry config clock o recipe).environment.get? name = o.environment.get? name := by
  refine follow_invariant (motive := fun now => now.environment.get? name = o.environment.get? name)
    rfl fun now step member same => ?_
  have different : step.outputName config.lead ≠ name := fun here =>
    untouched (here ▸ List.mem_map_of_mem member)
  rcases now.advance_cases registry config clock step with
    ⟨value, -, next⟩ | ⟨why, -, next⟩ | ⟨-, -, next⟩ <;> rw [next]
  · simp only [commit, NameMap.get?_insert_of_ne _ _ different, same]
  · exact same
  · exact same

/-- The names that a run reports as bound are bound, and all others are as they were in the
environment where it began. -/
structure CameFrom (env : Environment) (o : Outcome) : Prop where
  bound : ∀ name ∈ o.report.committed, ∃ value, o.environment.get? name = some value
  others : ∀ name, name ∉ o.report.committed → o.environment.get? name = env.get? name

theorem CameFrom.advance {env : Environment} {o : Outcome} (origin : o.CameFrom env) (step : Step) :
    (o.advance registry config clock step).CameFrom env := by
  rcases o.advance_cases registry config clock step with
    ⟨value, -, next⟩ | ⟨why, -, next⟩ | ⟨-, -, next⟩ <;> rw [next]
  · refine ⟨fun name member => ?_, fun name absent => ?_⟩
    · by_cases here : step.outputName config.lead = name
      · exact ⟨value, by simp only [commit, here, NameMap.get?_insert_self]⟩
      · have earlier : name ∈ o.report.committed := by
          simpa [commit, Ne.symm here] using member
        obtain ⟨former, found⟩ := origin.bound name earlier
        exact ⟨former, by simp only [commit, NameMap.get?_insert_of_ne _ _ here, found]⟩
    · simp only [commit, List.mem_append, List.mem_singleton, not_or] at absent
      simp only [commit, NameMap.get?_insert_of_ne _ _ (Ne.symm absent.2)]
      exact origin.others name absent.1
  · exact ⟨origin.bound, origin.others⟩
  · exact ⟨origin.bound, origin.others⟩

/-- From `o` on, a run ends at a step in the state that the steps before it left. -/
inductive Halts (registry : Registry) (config : Config) (clock : Clock) :
    Outcome → Recipe → Outcome → Step → Failure → Prop
  | here {o : Outcome} {step : Step} {rest : Recipe} {why : Failure}
      (fails : step.failure? registry config o.environment = some why) :
      Halts registry config clock o (step :: rest) o step why
  | later {o last : Outcome} {step halted : Step} {rest : Recipe} {why : Failure}
      (passes : step.failure? registry config o.environment = none)
      (halts : Halts registry config clock (o.advance registry config clock step) rest last halted
        why) :
      Halts registry config clock o (step :: rest) last halted why

theorem advance_of_failure {o : Outcome} {step : Step} {why : Failure}
    (fails : step.failure? registry config o.environment = some why) :
    o.advance registry config clock step = o.halt (step.timing registry clock) step why := by
  rcases o.advance_cases registry config clock step with
    ⟨value, given, -⟩ | ⟨other, found, next⟩ | ⟨-, passes, -⟩
  · simp [Step.failure?, given] at fails
  · rw [next, Option.some.inj (found.symm.trans fails)]
  · rw [passes] at fails
    cases fails

theorem advance_haltedAt (clock : Clock) {o : Outcome} {step : Step}
    (passes : step.failure? registry config o.environment = none) :
    (o.advance registry config clock step).report.haltedAt = o.report.haltedAt := by
  rcases o.advance_cases registry config clock step with
    ⟨value, -, next⟩ | ⟨why, found, -⟩ | ⟨-, -, next⟩
  · rw [next]
    rfl
  · rw [passes] at found
    cases found
  · rw [next]
    rfl

theorem Halts.follow_eq {o last : Outcome} {recipe : Recipe} {halted : Step} {why : Failure}
    (halts : Halts registry config clock o recipe last halted why)
    (going : o.report.haltedAt = none) :
    follow registry config clock o recipe =
      last.halt (halted.timing registry clock) halted why := by
  induction halts with
  | here fails =>
    simp only [follow, advance_of_failure fails]
    rfl
  | later passes _ ih =>
    have still := (advance_haltedAt clock passes).trans going
    simp only [follow, Report.isSuccess, still, Option.isNone_none, if_true]
    exact ih still

theorem exists_halts {recipe : Recipe} {o : Outcome} {id : String}
    (going : o.report.haltedAt = none)
    (halted : (follow registry config clock o recipe).report.haltedAt = some id) :
    ∃ last step why, Halts registry config clock o recipe last step why := by
  induction recipe generalizing o with
  | nil =>
    rw [follow, going] at halted
    cases halted
  | cons step rest ih =>
    cases outcome : step.failure? registry config o.environment with
    | some why => exact ⟨o, step, why, .here outcome⟩
    | none =>
      have still := (advance_haltedAt clock outcome).trans going
      simp only [follow, Report.isSuccess, still, Option.isNone_none, if_true] at halted
      obtain ⟨last, failed, why, halts⟩ := ih still halted
      exact ⟨last, failed, why, .later outcome halts⟩

end Outcome

theorem Recipe.bake_cameFrom (recipe : Recipe) (env : Environment) :
    (recipe.bake registry config clock env).CameFrom env :=
  Outcome.follow_invariant ⟨fun _ member => absurd member List.not_mem_nil, fun _ _ => rfl⟩
    fun _ step _ origin => origin.advance step

theorem Recipe.bake_haltedAt_iff {recipe : Recipe} {env : Environment} {id : String} :
    (recipe.bake registry config clock env).report.haltedAt = some id ↔
      ∃ last step why,
        Outcome.Halts registry config clock (.start env) recipe last step why ∧
          recipe.bake registry config clock env = last.halt (step.timing registry clock) step why ∧
          step.id = id := by
  constructor
  · intro halted
    obtain ⟨last, step, why, halts⟩ := Outcome.exists_halts rfl halted
    have ended := halts.follow_eq rfl
    refine ⟨last, step, why, halts, ended, ?_⟩
    rw [Recipe.bake, ended] at halted
    exact Option.some.inj halted
  · rintro ⟨last, step, why, -, ended, rfl⟩
    rw [ended]
    rfl

end RecipeEngine
