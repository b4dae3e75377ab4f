import RecipeEngine.Proofs.Bake.Run

namespace RecipeEngine

namespace Environment

/-- The environment with a recorded result bound to its name; entries of failures, and those that
keep no copy, record none. -/
def record (env : Environment) (entry : Entry) : Environment :=
  match entry.status, entry.outputName, entry.output with
  | .success, some name, some value => env.insert name value
  | _, _, _ => env

/-- The environment with all recorded results bound, in the order of the log. -/
def replay (env : Environment) (log : Log) : Environment :=
  log.foldl record env

theorem replay_append (env : Environment) (log : Log) (entry : Entry) :
    env.replay (log ++ [entry]) = (env.replay log).record entry := by
  simp only [replay, List.foldl_append, List.foldl_cons, List.foldl_nil]

theorem get?_record (env : Environment) {entry : Entry} {name : String}
    (unnamed : entry.isSuccess = true → entry.outputName ≠ some name) :
    (env.record entry).get? name = env.get? name := by
  unfold record
  split
  · rename_i bound value success named kept
    have apart : bound ≠ name := fun same =>
      unnamed (by simp [Entry.isSuccess, success]) (named.trans (congrArg some same))
    exact NameMap.get?_insert_of_ne env value apart
  · rfl

theorem contains_record {env : Environment} {name : String} (bound : env.contains name = true)
    (entry : Entry) : (env.record entry).contains name = true := by
  unfold record
  split
  · rename_i other value success named kept
    rw [NameMap.contains, NameMap.get?_insert]
    split
    · rfl
    · exact bound
  · exact bound

theorem get?_replay (env : Environment) {log : Log} {name : String}
    (unnamed : ∀ entry ∈ log, entry.isSuccess = true → entry.outputName ≠ some name) :
    (env.replay log).get? name = env.get? name := by
  induction log generalizing env with
  | nil => rfl
  | cons first rest ih =>
    have later := ih (env.record first) fun entry member =>
      unnamed entry (List.mem_cons_of_mem _ member)
    exact later.trans (get?_record env (unnamed first List.mem_cons_self))

theorem contains_replay {env : Environment} {name : String} (bound : env.contains name = true)
    (log : Log) : (env.replay log).contains name = true := by
  induction log generalizing env with
  | nil => exact bound
  | cons first rest ih => exact ih (contains_record bound first)

end Environment

def Entry.bare (entry : Entry) : Entry := { entry with output := none }

def Report.bare (report : Report) : Report :=
  { report with log := report.log.map Entry.bare }

namespace Outcome

variable {registry : Registry} {config : Config} {clock : Clock}

/-- The environment is what the log records over the one where the run began, and every success is
recorded with its name and its value. -/
structure Replays (env : Environment) (o : Outcome) : Prop where
  environment : o.environment = env.replay o.report.log
  recorded : ∀ entry ∈ o.report.log, entry.isSuccess = true →
    ∃ name value, entry.outputName = some name ∧ entry.output = some value

theorem Replays.commit {env : Environment} {o : Outcome} (replays : o.Replays env)
    (keeping : config.snapshots = true) (step : Step) (value : Value) :
    (o.commit config clock step value).Replays env where
  environment := by
    simp only [Outcome.commit, Log.success, Environment.replay_append, ← replays.environment,
      keeping, if_true]
    rfl
  recorded := by
    intro entry member success
    rcases List.mem_append.mp member with earlier | last
    · exact replays.recorded entry earlier success
    · rw [List.mem_singleton.mp last]
      exact ⟨_, value, rfl, if_pos keeping⟩

theorem Replays.halt {env : Environment} {o : Outcome} (replays : o.Replays env) (step : Step)
    (why : Failure) : (o.halt clock step why).Replays env where
  environment := by
    simp only [Outcome.halt, Log.failure, Environment.replay_append, ← replays.environment]
    rfl
  recorded := by
    intro entry member success
    rcases List.mem_append.mp member with earlier | last
    · exact replays.recorded entry earlier success
    · rw [List.mem_singleton.mp last] at success
      cases success

theorem Replays.advance {env : Environment} {o : Outcome} (replays : o.Replays env)
    (keeping : config.snapshots = true) (step : Step) :
    (o.advance registry config clock step).Replays env := by
  rcases o.advance_cases registry config clock step with
    ⟨value, -, next⟩ | ⟨why, -, next⟩ | ⟨-, -, next⟩ <;> rw [next]
  · exact replays.commit keeping step value
  · exact replays.halt step why
  · exact ⟨replays.environment, replays.recorded⟩

def bare (o : Outcome) : Outcome := { o with report := o.report.bare }

@[simp] theorem isSuccess_bare (o : Outcome) :
    o.bare.report.isSuccess = o.report.isSuccess := rfl

variable (registry config clock)

/-- A step of a run that keeps no copies does what it does in a run that keeps them. -/
theorem advance_bare (o : Outcome) (step : Step) :
    o.bare.advance registry { config with snapshots := false } clock step =
      (o.advance registry { config with snapshots := true } clock step).bare := by
  have sameEnvironment : o.bare.environment = o.environment := rfl
  unfold advance
  rw [sameEnvironment]
  cases step.attempt registry o.environment with
  | result value => simp [commit, bare, Report.bare, Log.success, Log.successEntry, Entry.bare]
  | failed why => simp [halt, bare, Report.bare, Log.failure, Log.failureEntry, Entry.bare]
  | unknown =>
    cases config.unknownOperations with
    | skip => simp [skip, bare, Report.bare]
    | fail => simp [halt, bare, Report.bare, Log.failure, Log.failureEntry, Entry.bare]

theorem follow_bare (o : Outcome) (recipe : Recipe) :
    follow registry { config with snapshots := false } clock o.bare recipe =
      (follow registry { config with snapshots := true } clock o recipe).bare := by
  induction recipe generalizing o with
  | nil => rfl
  | cons step rest ih =>
    simp only [follow, advance_bare, isSuccess_bare, ih]
    split <;> rfl

end Outcome

namespace Recipe

theorem bake_replays (registry : Registry) {config : Config} (keeping : config.snapshots = true)
    (clock : Clock) (recipe : Recipe) (env : Environment) :
    (recipe.bake registry config clock env).Replays env :=
  Outcome.follow_invariant ⟨rfl, fun _ absent => absurd absent List.not_mem_nil⟩
    fun _ step _ replays => replays.advance keeping step

/-- The log of a run that keeps copies replays to the environment that the run left: every success
binds its value to its name, all other variables are as before, and none is gone. A run that keeps
none differs only in the copies that its entries lack. -/
theorem bake_logged (registry : Registry) (config : Config) (clock : Clock) (recipe : Recipe)
    (env : Environment) :
    let kept := recipe.bake registry { config with snapshots := true } clock env
    let plain := recipe.bake registry { config with snapshots := false } clock env
    kept.environment = env.replay kept.report.log ∧
      (∀ entry ∈ kept.report.log, entry.isSuccess = true →
        ∃ name value, entry.outputName = some name ∧ entry.output = some value) ∧
      (∀ name, (∀ entry ∈ kept.report.log, entry.isSuccess = true →
          entry.outputName ≠ some name) → kept.environment.get? name = env.get? name) ∧
      (∀ name, env.contains name = true → kept.environment.contains name = true) ∧
      plain.environment = kept.environment ∧ plain.report = kept.report.bare := by
  intro kept plain
  have replays : kept.Replays env := bake_replays registry rfl clock recipe env
  have same : plain = kept.bare := Outcome.follow_bare registry config clock (.start env) recipe
  refine ⟨replays.environment, replays.recorded, fun name unnamed => ?_, fun name bound => ?_, ?_,
    ?_⟩
  · rw [replays.environment]
    exact Environment.get?_replay env unnamed
  · rw [replays.environment]
    exact Environment.contains_replay bound _
  · rw [same]
    rfl
  · rw [same]
    rfl

end Recipe

end RecipeEngine
