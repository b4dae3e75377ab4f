import RecipeEngine.Proofs.Bake.Run
import RecipeEngine.Proofs.Csv.Columns
import RecipeEngine.Proofs.Table.WellFormed

namespace RecipeEngine

def GivesWellFormed (x : Except Failure Value) : Prop :=
  ∀ value, x = .ok value → value.WellFormed

namespace GivesWellFormed

theorem ok {value : Value} (wellFormed : value.WellFormed) : GivesWellFormed (.ok value) := by
  intro other given
  exact Except.ok.inj given ▸ wellFormed

theorem error (why : Failure) : GivesWellFormed (.error why) := by
  intro value given
  cases given

theorem bind {α : Type} {x : Except Failure α} {f : α → Except Failure Value}
    (rest : ∀ a, x = .ok a → GivesWellFormed (f a)) : GivesWellFormed (x >>= f) := by
  cases x with
  | error why => exact error why
  | ok a => exact rest a rfl

theorem map_table {x : Except Failure Table} (tables : ∀ t, x = .ok t → t.WellFormed) :
    GivesWellFormed (x.map .table) := by
  cases x with
  | error why => exact error why
  | ok t => exact ok (tables t rfl)

end GivesWellFormed

theorem Regression.summary_wellFormed (line : Line Float) : (summary line).WellFormed := by
  refine ⟨by simp [summary], fun row member name bound => ?_⟩
  have metrics : ∃ label cell, row = metric label cell := by
    simp only [summary, List.mem_cons, List.not_mem_nil, or_false] at member
    rcases member with rfl | rfl | rfl | rfl <;> exact ⟨_, _, rfl⟩
  obtain ⟨label, cell, rfl⟩ := metrics
  simpa [summary] using NameMap.mem_names_ofList bound

namespace Builtin

variable {args : Arguments} {env : Environment}

theorem constantValue_wellFormed (type raw : String) : (constantValue type raw).WellFormed := by
  unfold constantValue
  split
  · exact trivial
  · split <;> exact trivial

theorem table_wellFormed (wellFormed : env.WellFormed) {argument : String} {t : Table}
    (found : args.table argument env = .ok t) : t.WellFormed := by
  unfold Arguments.table at found
  cases named : args.required argument with
  | error why => simp [named, bind, Except.bind] at found
  | ok name =>
    simp only [named, bind, Except.bind] at found
    exact wellFormed.table found

theorem runFilter_wellFormed (wellFormed : env.WellFormed) :
    GivesWellFormed (runFilter args env) := by
  refine .bind fun t found => .bind fun column _ => .bind fun _ _ => .bind fun name _ =>
    .bind fun value _ => .ok ?_
  exact (table_wellFormed wellFormed found).filter column (condition name value)

theorem runSort_wellFormed (wellFormed : env.WellFormed) : GivesWellFormed (runSort args env) := by
  refine .bind fun t found => .bind fun column _ => .bind fun _ _ => .bind fun direction _ =>
    .ok ?_
  exact (table_wellFormed wellFormed found).sort column _

theorem runColumnMath_wellFormed (wellFormed : env.WellFormed) :
    GivesWellFormed (runColumnMath args env) := by
  refine .bind fun t found => .bind fun source _ => .map_table fun computed done => ?_
  unfold Table.computeColumn at done
  cases compiled : Formula.compile source with
  | error why => simp [compiled, Except.map] at done
  | ok formula =>
    simp only [compiled, Except.map, Except.ok.injEq] at done
    exact done ▸ (table_wellFormed wellFormed found).compute

theorem runRegression_wellFormed : GivesWellFormed (runRegression args env) := by
  refine .bind fun t _ => .bind fun x _ => .bind fun y _ => .bind fun _ _ => .bind fun _ _ => ?_
  split
  · exact .ok (Regression.summary_wellFormed _)
  · exact .error _

theorem run_wellFormed (wellFormed : env.WellFormed) {op : Operation} (member : op ∈ operations) :
    GivesWellFormed (op.run args env) := by
  simp only [operations, List.mem_cons, List.not_mem_nil, or_false] at member
  rcases member with rfl | rfl | rfl | rfl | rfl | rfl | rfl
  · exact .map_table fun t read => Csv.toTable_wellFormed read
  · exact .bind fun type _ => .ok (constantValue_wellFormed type _)
  · exact runFilter_wellFormed wellFormed
  · exact runColumnMath_wellFormed wellFormed
  · exact runSort_wellFormed wellFormed
  · exact .bind fun source _ => .bind fun formula _ => .bind fun answer _ =>
      .ok (Value.ofScalar_wellFormed _)
  · exact runRegression_wellFormed

end Builtin

theorem Step.wellFormed_of_result {env : Environment} (wellFormed : env.WellFormed) {step : Step}
    {value : Value} (given : step.attempt .builtin env = .result value) : value.WellFormed := by
  obtain ⟨op, found, ran⟩ := Step.attempt_eq_result_iff.mp given
  have member := (Registry.mem_of_get? found).1
  rw [Registry.builtin_listing] at member
  exact Builtin.run_wellFormed wellFormed member value ran

/-- All tables of which a log keeps copies are well formed. -/
def Log.WellFormed (log : Log) : Prop :=
  ∀ entry ∈ log, ∀ value, entry.output = some value → value.WellFormed

theorem Log.WellFormed.append {log : Log} (wellFormed : log.WellFormed) {entry : Entry}
    (fits : ∀ value, entry.output = some value → value.WellFormed) :
    Log.WellFormed (log ++ [entry]) := by
  intro other member
  rcases List.mem_append.mp member with earlier | last
  · exact wellFormed other earlier
  · rw [List.mem_singleton.mp last]
    exact fits

structure Outcome.WellFormed (o : Outcome) : Prop where
  environment : o.environment.WellFormed
  log : o.report.log.WellFormed

theorem Outcome.WellFormed.advance {o : Outcome} (wellFormed : o.WellFormed) (config : Config)
    (clock : Clock) (step : Step) : (o.advance .builtin config clock step).WellFormed := by
  rcases o.advance_cases .builtin config clock step with
    ⟨value, given, next⟩ | ⟨why, -, next⟩ | ⟨-, -, next⟩ <;> rw [next]
  · have fits := Step.wellFormed_of_result wellFormed.environment given
    refine ⟨wellFormed.environment.insert _ fits, wellFormed.log.append fun copy kept => ?_⟩
    simp only [Log.successEntry] at kept
    split at kept
    · exact Option.some.inj kept ▸ fits
    · cases kept
  · refine ⟨wellFormed.environment, wellFormed.log.append fun copy kept => ?_⟩
    cases kept
  · exact ⟨wellFormed.environment, wellFormed.log⟩

/-- Runs and updates keep the tables of an environment well formed. -/
theorem Environment.WellFormed.bake_and_updates {env : Environment} (wellFormed : env.WellFormed)
    (config : Config) (clock : Clock) (recipe : Recipe) (updates : List Environment.Update) :
    (recipe.bake .builtin config clock env).environment.WellFormed ∧
      (recipe.bake .builtin config clock env).report.log.WellFormed ∧
      (updates.foldl Environment.updated env).WellFormed := by
  have start : (Outcome.start env).WellFormed :=
    ⟨wellFormed, fun _ member => absurd member List.not_mem_nil⟩
  have final : (recipe.bake .builtin config clock env).WellFormed :=
    Outcome.follow_invariant start fun _ step _ before => before.advance config clock step
  exact ⟨final.environment, final.log, wellFormed.foldl_updated updates⟩

def Environment.shop : Environment :=
  NameMap.insert (NameMap.insert NameMap.empty "place" (.string "harbour")) "shops"
    (.table ⟨["city"], [NameMap.ofList [("city", .text "north")]]⟩)

def Step.placing : Step where
  id := "s1"
  operation := "op_column_math"
  arguments := NameMap.ofList
    [("inputTable", .text "shops"), ("expression", .text "place"),
     ("newColumnName", .text "where")]
  output := "places"

theorem Environment.WellFormed.bake_and_updates_shop :
    Environment.shop.WellFormed ∧
      (Recipe.bake .builtin {} (fun _ => ⟨"09:00", 3⟩) [.placing]
        Environment.shop).environment.WellFormed ∧
      (Recipe.bake .builtin {} (fun _ => ⟨"09:00", 3⟩) [.placing]
        Environment.shop).report.log.WellFormed ∧
      Environment.WellFormed
        (List.foldl Environment.updated Environment.shop
          [.cell "shops" 0 "city" (.text "south"), .cell "shops" 0 "street" (.text "quay"),
            .scalar "shops" (.text "none"), .scalar "place" (.text "hill")]) := by
  have wellFormed : Environment.shop.WellFormed :=
    (Environment.wellFormed_empty.insert "place"
      (show Value.WellFormed (.string "harbour") from trivial)).insert "shops"
      (show Table.WellFormed _ by decide)
  exact ⟨wellFormed, wellFormed.bake_and_updates {} (fun _ => ⟨"09:00", 3⟩) [.placing] _⟩

end RecipeEngine
