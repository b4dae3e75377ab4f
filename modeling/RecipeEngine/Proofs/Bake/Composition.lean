import Mathlib.Data.List.Induction
import RecipeEngine.Proofs.Bake.Run

namespace RecipeEngine

theorem Report.isSuccess_iff {report : Report} :
    report.isSuccess = true ↔ report.haltedAt = none :=
  Option.isNone_iff_eq_none

/-- An entry of a run that begins after so many others. -/
def Entry.after (count : Nat) (entry : Entry) : Entry := { entry with seq := count + entry.seq }

/-- The clock of a run that begins after so many entries. -/
def Clock.after (clock : Clock) (count : Nat) : Clock := fun seq => clock (count + seq)

namespace Outcome

/-- Two runs as one, the second begun in the environment that the first left. -/
def andThen (first second : Outcome) : Outcome where
  environment := second.environment
  report :=
    { log := first.report.log ++ second.report.log.map (Entry.after first.report.log.length)
      haltedAt := second.report.haltedAt
      skipped := first.report.skipped ++ second.report.skipped
      committed := first.report.committed ++ second.report.committed }

@[simp] theorem isSuccess_andThen (first second : Outcome) :
    (first.andThen second).report.isSuccess = second.report.isSuccess := rfl

theorem andThen_start {o : Outcome} (going : o.report.haltedAt = none) :
    o.andThen (.start o.environment) = o := by
  obtain ⟨env, log, haltedAt, skipped, committed⟩ := o
  cases going
  simp [andThen, start, Report.start]

/-- A step at which a run ends is the one that its report names. -/
theorem halt_of_haltedAt {registry : Registry} {config : Config} {clock : Clock} {o : Outcome}
    {step : Step} {id : String} (going : o.report.haltedAt = none)
    (halted : (o.advance registry config clock step).report.haltedAt = some id) :
    step.id = id ∧ ∃ why,
      o.advance registry config clock step = o.halt (step.timing registry clock) step why := by
  rcases o.advance_cases registry config clock step with
    ⟨value, -, next⟩ | ⟨why, -, next⟩ | ⟨-, -, next⟩ <;> rw [next] at halted
  · cases going.symm.trans halted
  · exact ⟨Option.some.inj halted, why, next⟩
  · cases going.symm.trans halted

variable (registry : Registry) (config : Config) (clock : Clock)

/-- A step after two runs does what it does after the second of them. -/
theorem advance_andThen (first o : Outcome) (step : Step) :
    (first.andThen o).advance registry config clock step =
      first.andThen
        (o.advance registry config (clock.after first.report.log.length) step) := by
  have sameEnvironment : (first.andThen o).environment = o.environment := rfl
  unfold advance
  rw [sameEnvironment]
  cases step.attempt registry o.environment with
  | result value =>
    simp [commit, andThen, Log.success, Log.successEntry, Entry.after, Clock.after]
  | failed why =>
    simp [halt, andThen, Log.failure, Log.failureEntry, Entry.after, Clock.after]
  | unknown =>
    cases config.unknownOperations with
    | skip => simp [skip, andThen]
    | fail =>
      simp [halt, andThen, Log.failure, Log.failureEntry, Entry.after, Clock.after,
        Clock.unmeasured]

theorem follow_andThen (first o : Outcome) (recipe : Recipe) :
    follow registry config clock (first.andThen o) recipe =
      first.andThen
        (follow registry config (clock.after first.report.log.length) o recipe) := by
  induction recipe generalizing o with
  | nil => rfl
  | cons step rest ih =>
    simp only [follow, advance_andThen, isSuccess_andThen, ih]
    split <;> rfl

theorem follow_append {o : Outcome} (going : o.report.isSuccess = true) (first second : Recipe) :
    follow registry config clock o (first ++ second) =
      let reached := follow registry config clock o first
      if reached.report.isSuccess then follow registry config clock reached second
      else reached := by
  induction first generalizing o with
  | nil => simp only [List.nil_append, follow, going, if_true]
  | cons step rest ih =>
    simp only [List.cons_append, follow]
    by_cases success : (o.advance registry config clock step).report.isSuccess = true
    · simp only [if_pos success]
      exact ih success
    · simp only [if_neg success]

end Outcome

namespace Recipe

variable (registry : Registry) (config : Config) (clock : Clock) (env : Environment)

theorem bake_append (first second : Recipe) :
    (first ++ second).bake registry config clock env =
      let reached := first.bake registry config clock env
      if reached.report.isSuccess then
        reached.andThen (second.bake registry config
          (clock.after reached.report.log.length) reached.environment)
      else reached := by
  unfold bake
  rw [Outcome.follow_append registry config clock rfl]
  dsimp only
  split
  · rename_i going
    -- What has been reached is a run of its own, with one after it that has yet to begin.
    conv_lhs => rw [← Outcome.andThen_start (Report.isSuccess_iff.mp going)]
    exact Outcome.follow_andThen registry config clock _ _ _
  · rfl

variable {registry config clock env}

theorem bake_prolonged {recipe : Recipe} {id : String}
    (halted : (recipe.bake registry config clock env).report.haltedAt = some id) (more : Recipe) :
    (recipe ++ more).bake registry config clock env = recipe.bake registry config clock env := by
  rw [bake_append]
  simp only [Report.isSuccess, halted, Option.isNone_some, Bool.false_eq_true, if_false]

/-- One more step at the end of a recipe that does not halt. -/
theorem bake_concat {recipe : Recipe}
    (going : (recipe.bake registry config clock env).report.haltedAt = none) (step : Step) :
    (recipe ++ [step]).bake registry config clock env =
      (recipe.bake registry config clock env).advance registry config clock step := by
  have success := Report.isSuccess_iff.mpr going
  unfold bake at success ⊢
  rw [Outcome.follow_append registry config clock rfl, if_pos success]
  simp only [Outcome.follow, ite_self]

variable (registry config clock env)

/-- The run of a recipe that starts with `before` and then `step` ends at that step. -/
structure EndsAt (before : Recipe) (step : Step) : Prop where
  reached : (before.bake registry config clock env).report.haltedAt = none
  failed : ((before ++ [step]).bake registry config clock env).report.haltedAt = some step.id

variable {registry config clock env} {before : Recipe} {step : Step}

theorem EndsAt.bake_eq (ends : EndsAt registry config clock env before step) (rest : Recipe) :
    ∃ why, (before ++ step :: rest).bake registry config clock env =
      (before.bake registry config clock env).halt (step.timing registry clock) step why := by
  have whole : before ++ step :: rest = before ++ [step] ++ rest := by simp
  have failed := ends.failed
  rw [bake_concat ends.reached] at failed
  rw [whole, bake_prolonged ends.failed, bake_concat ends.reached]
  exact (Outcome.halt_of_haltedAt ends.reached failed).2

/-- A run that ends early ends at the step that its report names. -/
theorem exists_endsAt {recipe : Recipe} {id : String}
    (halted : (recipe.bake registry config clock env).report.haltedAt = some id) :
    ∃ before step rest, recipe = before ++ step :: rest ∧ step.id = id ∧
      EndsAt registry config clock env before step := by
  -- From the end of the recipe, since a run that has halted ignores what follows.
  induction recipe using List.reverseRecOn with
  | nil => cases halted
  | append_singleton recipe step ih =>
    cases former : (Recipe.bake registry config clock recipe env).report.haltedAt with
    | some other =>
      rw [bake_prolonged former] at halted
      obtain ⟨before, failed, rest, rfl, named, ends⟩ := ih halted
      exact ⟨before, failed, rest ++ [step], by simp, named, ends⟩
    | none =>
      have failed := halted
      rw [bake_concat former] at failed
      obtain ⟨named, -⟩ := Outcome.halt_of_haltedAt former failed
      exact ⟨recipe, step, [], rfl, named, former, named ▸ halted⟩

/-- A run that passes some steps does not end at one of them. -/
theorem EndsAt.length_le {early kept more : Recipe} {failing : Step}
    (ends : EndsAt registry config clock env early failing)
    (going : (kept.bake registry config clock env).report.haltedAt = none)
    (within : early ++ [failing] <+: kept ++ more) : kept.length ≤ early.length := by
  -- Otherwise the step at which the run ends is among those that it passes.
  refine Nat.le_of_not_lt fun shorter => ?_
  have inside : early ++ [failing] <+: kept :=
    List.prefix_of_prefix_length_le within (List.prefix_append kept more)
      (by simpa [Nat.succ_le_iff] using shorter)
  obtain ⟨rest, rfl⟩ := inside
  rw [bake_prolonged ends.failed, ends.failed] at going
  cases going

/-- The entries of the steps before the one at which a run ends are the first entries of the run
of every recipe with the same steps before that one. -/
theorem EndsAt.log_prefix (ends : EndsAt registry config clock env before step)
    (rest edited : Recipe) :
    ((before ++ step :: rest).bake registry config clock env).report.log.dropLast <+:
      ((before ++ edited).bake registry config clock env).report.log := by
  obtain ⟨why, halted⟩ := ends.bake_eq rest
  have earlier : ((before ++ step :: rest).bake registry config clock env).report.log.dropLast =
      (before.bake registry config clock env).report.log := by
    rw [halted]
    exact List.dropLast_concat
  rw [earlier, bake_append registry config clock env before edited,
    if_pos (Report.isSuccess_iff.mpr ends.reached)]
  exact List.prefix_append _ _

/-- The run of a recipe in two parts is the run of the first part if that halts, else the runs of
both as one. So a run keeps the entries of the steps before its end when the recipe is changed only
from there on, and does not end before. -/
theorem bake_sequential (registry : Registry) (config : Config) (clock : Clock)
    (env : Environment) :
    (∀ first second : Recipe,
      (first ++ second).bake registry config clock env =
        let reached := first.bake registry config clock env
        if reached.report.isSuccess then
          reached.andThen (second.bake registry config
            (clock.after reached.report.log.length) reached.environment)
        else reached) ∧
      ∀ (recipe : Recipe) (id : String),
        (recipe.bake registry config clock env).report.haltedAt = some id →
        ∃ before step rest, recipe = before ++ step :: rest ∧ step.id = id ∧
          EndsAt registry config clock env before step ∧
          ∀ edited : Recipe,
            (recipe.bake registry config clock env).report.log.dropLast <+:
              ((before ++ edited).bake registry config clock env).report.log ∧
            ∀ early failing, EndsAt registry config clock env early failing →
              early ++ [failing] <+: before ++ edited → before.length ≤ early.length := by
  refine ⟨bake_append registry config clock env, fun recipe id halted => ?_⟩
  obtain ⟨before, step, rest, rfl, named, ends⟩ := exists_endsAt halted
  refine ⟨before, step, rest, rfl, named, ends, fun edited => ⟨ends.log_prefix rest edited, ?_⟩⟩
  exact fun early failing sooner within => sooner.length_le ends.reached within

/-- A constant, a sort that takes it for a table, and a formula that is not reached. -/
def sortOfConstant : Recipe :=
  [⟨"s1", "input-constant", NameMap.ofList [("type", .text "int"), ("value", .text "5")], "five"⟩,
   ⟨"s2", "op_sort_rows", NameMap.ofList [("inputTable", .text "five"), ("column", .text "x")],
    "sorted"⟩,
   ⟨"s3", "constant-math", NameMap.ofList [("expression", .text "five + 1")], "six"⟩]

theorem bake_sequential_sortOfConstant :
    (sortOfConstant.bake .builtin {} (fun _ => ⟨"09:00", 3⟩) NameMap.empty).report.haltedAt =
        some "s2" ∧
      ∃ before step rest, sortOfConstant = before ++ step :: rest ∧ step.id = "s2" ∧
        EndsAt .builtin {} (fun _ => ⟨"09:00", 3⟩) NameMap.empty before step ∧
        ∀ edited : Recipe,
          (sortOfConstant.bake .builtin {} (fun _ => ⟨"09:00", 3⟩)
              NameMap.empty).report.log.dropLast <+:
            ((before ++ edited).bake .builtin {} (fun _ => ⟨"09:00", 3⟩)
              NameMap.empty).report.log ∧
          ∀ early failing,
            EndsAt .builtin {} (fun _ => ⟨"09:00", 3⟩) NameMap.empty early failing →
            early ++ [failing] <+: before ++ edited → before.length ≤ early.length :=
  ⟨by rfl, (bake_sequential .builtin {} _ _).2 sortOfConstant "s2" (by rfl)⟩

end Recipe

end RecipeEngine
