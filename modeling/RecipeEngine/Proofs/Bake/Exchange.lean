import RecipeEngine.Proofs.Bake.Composition
import RecipeEngine.Proofs.Operation.Reads

namespace RecipeEngine

def Step.entry (config : Config) (clock : Clock) (step : Step) (value : Value) (seq : Nat) : Entry :=
  Log.successEntry seq step.id step.operation (step.outputName config.lead)
    (if config.snapshots then some value else none) (clock seq)

namespace Recipe

/-- The run of a recipe that starts with `before` and then `step` gets to that step, which gives a
value. -/
structure Yields (registry : Registry) (config : Config) (clock : Clock) (env : Environment)
    (before : Recipe) (step : Step) (value : Value) : Prop where
  reached : (before.bake registry config clock env).report.haltedAt = none
  given : step.attempt registry (before.bake registry config clock env).environment = .result value

variable {registry : Registry} {config : Config} {clock : Clock} {env : Environment}
  {before : Recipe} {first second : Step} {one two : Value}

theorem Yields.bake_concat {step : Step} {value : Value}
    (yields : Yields registry config clock env before step value) :
    (before ++ [step]).bake registry config clock env =
      (before.bake registry config clock env).commit config clock step value := by
  rw [Recipe.bake_concat yields.reached, Outcome.advance, yields.given]

/-- A step gives what it would give without the step right before it, whose result it does not
read. -/
theorem Yields.of_unread (firstYields : Yields .builtin config clock env before first one)
    (secondYields : Yields .builtin config clock env (before ++ [first]) second two)
    (unread : first.outputName config.lead ∉ second.reads) :
    Yields .builtin config clock env before second two where
  reached := firstYields.reached
  given := by
    have given := secondYields.given
    rw [firstYields.bake_concat] at given
    rw [← given]
    exact (Step.attempt_congr (NameMap.agreeOn_insert unread one)).symm

/-- A step gives what it gave also after a step whose result it does not read. -/
theorem Yields.concat (firstYields : Yields .builtin config clock env before first one)
    (secondYields : Yields .builtin config clock env before second two)
    (unread : second.outputName config.lead ∉ first.reads) :
    Yields .builtin config clock env (before ++ [second]) first one where
  reached := by
    rw [secondYields.bake_concat]
    exact secondYields.reached
  given := by
    rw [secondYields.bake_concat, ← firstYields.given]
    exact Step.attempt_congr (NameMap.agreeOn_insert unread two)

/-- The run of a recipe of which two neighbouring steps give values. -/
theorem Yields.bake_pair (firstYields : Yields registry config clock env before first one)
    (secondYields : Yields registry config clock env (before ++ [first]) second two)
    (after : Recipe) :
    let base := before.bake registry config clock env
    let count := base.report.log.length
    let rest := after.bake registry config (clock.after (count + 2))
      ((base.environment.insert (first.outputName config.lead) one).insert
        (second.outputName config.lead) two)
    (before ++ [first, second] ++ after).bake registry config clock env =
      { environment := rest.environment
        report :=
          { log := base.report.log ++
              [first.entry config clock one count, second.entry config clock two (count + 1)] ++
              rest.report.log.map (Entry.after (count + 2))
            haltedAt := rest.report.haltedAt
            skipped := base.report.skipped ++ rest.report.skipped
            committed := base.report.committed ++
              [first.outputName config.lead, second.outputName config.lead] ++
              rest.report.committed } } := by
  have pair : before ++ [first, second] = before ++ [first] ++ [second] := by simp
  have going : ((before ++ [first] ++ [second]).bake registry config clock env).report.isSuccess =
      true := by
    rw [secondYields.bake_concat]
    exact Report.isSuccess_iff.mpr secondYields.reached
  rw [pair, bake_append, if_pos going, secondYields.bake_concat, firstYields.bake_concat]
  simp [Outcome.andThen, Outcome.commit, Log.success, Step.entry]

/-- Two neighbouring steps that give values can change places if neither reads what the other
writes and they write different variables. -/
theorem bake_exchange (firstYields : Yields .builtin config clock env before first one)
    (secondYields : Yields .builtin config clock env (before ++ [first]) second two)
    (firstUnread : first.outputName config.lead ∉ second.reads)
    (secondUnread : second.outputName config.lead ∉ first.reads)
    (apart : first.outputName config.lead ≠ second.outputName config.lead) (after : Recipe) :
    let was := (before ++ [first, second] ++ after).bake .builtin config clock env
    let now := (before ++ [second, first] ++ after).bake .builtin config clock env
    Yields .builtin config clock env before second two ∧
      Yields .builtin config clock env (before ++ [second]) first one ∧
      now.environment = was.environment ∧
      now.report.haltedAt = was.report.haltedAt ∧
      now.report.skipped = was.report.skipped ∧
      now.report.log.statuses = was.report.log.statuses ∧
      ∃ earlier later : Log,
        was.report.log = earlier ++ [first.entry config clock one earlier.length,
          second.entry config clock two (earlier.length + 1)] ++ later ∧
        now.report.log = earlier ++ [second.entry config clock two earlier.length,
          first.entry config clock one (earlier.length + 1)] ++ later := by
  have secondFirst := firstYields.of_unread secondYields firstUnread
  have firstSecond := firstYields.concat secondFirst secondUnread
  have was := firstYields.bake_pair secondYields after
  have now := secondFirst.bake_pair firstSecond after
  dsimp only at was now ⊢
  -- Both orders leave the same variables and as many entries, so the steps after them run the same.
  rw [NameMap.insert_comm _ one two apart] at was
  rw [was, now]
  refine ⟨secondFirst, firstSecond, rfl, rfl, rfl, ?_, _, _, rfl, rfl⟩
  simp [Log.statuses, Step.entry, Log.successEntry]

def northernShops : Table :=
  ⟨["city"], [NameMap.ofList [("city", .text "north")]]⟩

def shops : Environment :=
  NameMap.ofList
    [("place", .string "harbour"),
     ("shops", .table
       { northernShops with rows := NameMap.ofList [("city", .text "south")] :: northernShops.rows })]

def keeping : Step where
  id := "s1"
  operation := "op_filter_rows"
  arguments := NameMap.ofList
    [("inputTable", .text "shops"), ("column", .text "city"), ("value", .text "north")]
  output := "kept"

def copying : Step where
  id := "s2"
  operation := "constant-math"
  arguments := NameMap.ofList [("expression", .text "place")]
  output := "copy"

theorem bake_exchange_shops :
    Yields .builtin {} (fun _ => ⟨"09:00", 3⟩) shops [] keeping (.table northernShops) ∧
      Yields .builtin {} (fun _ => ⟨"09:00", 3⟩) shops [keeping] copying (.string "harbour") ∧
      keeping.outputName "var_" ∉ copying.reads ∧ copying.outputName "var_" ∉ keeping.reads ∧
      keeping.outputName "var_" ≠ copying.outputName "var_" ∧
      let was := Recipe.bake .builtin {} (fun _ => ⟨"09:00", 3⟩) [keeping, copying, keeping] shops
      let now := Recipe.bake .builtin {} (fun _ => ⟨"09:00", 3⟩) [copying, keeping, keeping] shops
      Yields .builtin {} (fun _ => ⟨"09:00", 3⟩) shops [] copying (.string "harbour") ∧
        Yields .builtin {} (fun _ => ⟨"09:00", 3⟩) shops [copying] keeping
          (.table northernShops) ∧
        now.environment = was.environment ∧
        now.report.haltedAt = was.report.haltedAt ∧
        now.report.skipped = was.report.skipped ∧
        now.report.log.statuses = was.report.log.statuses ∧
        ∃ earlier later : Log,
          was.report.log = earlier ++
            [keeping.entry {} (fun _ => ⟨"09:00", 3⟩) (.table northernShops) earlier.length,
              copying.entry {} (fun _ => ⟨"09:00", 3⟩) (.string "harbour")
                (earlier.length + 1)] ++ later ∧
          now.report.log = earlier ++
            [copying.entry {} (fun _ => ⟨"09:00", 3⟩) (.string "harbour") earlier.length,
              keeping.entry {} (fun _ => ⟨"09:00", 3⟩) (.table northernShops)
                (earlier.length + 1)] ++ later := by
  have first : Yields .builtin {} (fun _ => ⟨"09:00", 3⟩) shops [] keeping
      (.table northernShops) := ⟨rfl, rfl⟩
  have second : Yields .builtin {} (fun _ => ⟨"09:00", 3⟩) shops [keeping] copying
      (.string "harbour") := ⟨rfl, rfl⟩
  exact ⟨first, second, by decide, by decide, by decide,
    bake_exchange first second (by decide) (by decide) (by decide) [keeping]⟩

end Recipe

end RecipeEngine
