import RecipeEngine.Proofs.Bake.Run
import RecipeEngine.Proofs.Document.Checked
import RecipeEngine.Proofs.Text.Trim

namespace RecipeEngine

namespace WrittenStep

variable {registry : Registry} {lead newId : String} {written : WrittenStep}

theorem toStep_operation : (written.toStep registry lead newId).operation = written.operation := by
  unfold toStep
  dsimp only
  split <;> rfl

theorem toStep_arguments {op : Operation} (found : registry.get? written.operation = some op) :
    (written.toStep registry lead newId).arguments = op.defaults.merge written.arguments := by
  unfold toStep
  rw [found]
  dsimp only
  split <;> rfl

/-- The output that is written, if it is not blank, is the name that the result is bound to. -/
theorem toStep_outputName {other : String}
    (named : (Text.trim (written.output.getD "")).isEmpty = false) :
    (written.toStep registry lead newId).outputName other = Text.trim (written.output.getD "") := by
  have visible : Text.isAllBlank (written.output.getD "") = false := by
    cases blank : Text.isAllBlank (written.output.getD "") with
    | false => rfl
    | true =>
      rw [Text.trim_of_isAllBlank blank] at named
      cases named
  have full : (written.output.getD "").isEmpty = false := by
    cases void : (written.output.getD "").isEmpty with
    | false => rfl
    | true =>
      rw [String.isEmpty_iff.mp void] at visible
      cases visible
  unfold toStep
  simp only [full, Bool.false_eq_true, if_false, Step.outputName, visible]

end WrittenStep

namespace Document

variable {config : Config} {clock : Clock} {lead newId : String} {known : KnownVariables}
  {ids : List String} {written : WrittenStep} {o : Outcome}

theorem seeds_trueIn (seeds : NameMap Value) :
    KnownVariables.TrueIn (seeds.map fun value => some value.kind) seeds [] := by
  intro name kind? found
  rw [NameMap.get?_map] at found
  obtain ⟨value, stored, rfl⟩ := Option.map_eq_some_iff.mp found
  exact ⟨value, stored, Or.inr rfl⟩

/-- A step without faults gives a value, or fails in a way that was not to be foreseen. -/
theorem attempt_of_no_faults (lead newId : String)
    (clean : stepFaults .builtin ids known written = [])
    (holds : known.TrueIn o.environment o.report.committed) :
    (∃ value, (written.toStep .builtin lead newId).attempt .builtin o.environment =
        .result value) ∨
      ∃ why, (written.toStep .builtin lead newId).attempt .builtin o.environment = .failed why ∧
        why.Unforeseen o.report.committed := by
  have checks := (List.append_eq_nil_iff.mp clean).2
  cases found : Registry.builtin.get? written.operation with
  | none => simp [found] at checks
  | some op =>
    simp only [found, argumentFaults, List.filterMap_eq_nil_iff] at checks
    have member := (Registry.mem_of_get? found).1
    rw [Registry.builtin_listing] at member
    have fails := run_fails holds member checks
    unfold Step.attempt
    rw [WrittenStep.toStep_operation, found]
    simp only [WrittenStep.toStep_arguments found]
    cases ran : op.run (op.defaults.merge written.arguments) o.environment with
    | ok value => exact Or.inl ⟨value, rfl⟩
    | error why => exact Or.inr ⟨why, rfl, fails why ran⟩

/-- What is known after a step is true when its result has been bound. -/
theorem knownAfter_trueIn (holds : known.TrueIn o.environment o.report.committed) (value : Value) :
    (knownAfter .builtin known written).TrueIn
      (o.commit config clock (written.toStep .builtin lead newId) value).environment
      (o.commit config clock (written.toStep .builtin lead newId) value).report.committed := by
  intro name kind? found
  by_cases here : (written.toStep .builtin lead newId).outputName config.lead = name
  · refine ⟨value, ?_, Or.inl ?_⟩
    · simp only [Outcome.commit, here, NameMap.get?_insert_self]
    · simp [Outcome.commit, here]
  · have before : known.get? name = some kind? := by
      unfold knownAfter at found
      dsimp only at found
      split at found
      · rename_i named
        have nonempty : (Text.trim (written.output.getD "")).isEmpty = false := by
          simpa using (Bool.and_eq_true_iff.mp named).2
        rw [WrittenStep.toStep_outputName nonempty] at here
        rw [NameMap.get?_insert_of_ne _ _ here] at found
        exact found
      · exact found
    obtain ⟨former, stored, bound⟩ := holds name kind? before
    refine ⟨former, ?_, bound.imp_left fun member => ?_⟩
    · simp only [Outcome.commit, NameMap.get?_insert_of_ne _ _ here, stored]
    · exact List.mem_append_left _ member

theorem steps_sound (config : Config) (clock : Clock) (lead : String) (newId : Nat → String)
    {steps : List WrittenStep} {position : Nat}
    (clean : issuesFrom .builtin position ids known steps = [])
    (holds : known.TrueIn o.environment o.report.committed) :
    (Outcome.follow .builtin config clock o
        (stepsFrom .builtin lead newId position steps)).report.skipped = o.report.skipped ∧
      ∀ last step why, Outcome.Halts .builtin config clock o
        (stepsFrom .builtin lead newId position steps) last step why →
        why.Unforeseen last.report.committed := by
  induction steps generalizing position ids known o with
  | nil =>
    refine ⟨rfl, fun last step why halts => ?_⟩
    cases halts
  | cons written rest ih =>
    obtain ⟨now, later⟩ := List.append_eq_nil_iff.mp clean
    rw [List.map_eq_nil_iff] at now
    simp only [stepsFrom]
    rcases attempt_of_no_faults lead (newId position) now holds with
      ⟨value, given⟩ | ⟨why, given, unforeseen⟩
    · have next : o.advance .builtin config clock
          (written.toStep .builtin lead (newId position)) =
            o.commit config clock (written.toStep .builtin lead (newId position)) value := by
        simp only [Outcome.advance, given]
      obtain ⟨skipped, excused⟩ := ih later (knownAfter_trueIn holds value)
      refine ⟨?_, fun last step why halts => ?_⟩
      · simp only [Outcome.follow, next]
        split
        · exact skipped
        · rfl
      · cases halts with
        | here fails => simp [Step.failure?, given] at fails
        | later _ halts =>
          rw [next] at halts
          exact excused last step why halts
    · have fails : (written.toStep .builtin lead (newId position)).failure? .builtin config
          o.environment = some why := by simp only [Step.failure?, given]
      refine ⟨?_, fun last step other halts => ?_⟩
      · simp only [Outcome.follow, Outcome.advance_of_failure fails]
        rfl
      · cases halts with
        | here found =>
          rw [← Option.some.inj (fails.symm.trans found)]
          exact unforeseen
        | later passes _ =>
          rw [passes] at fails
          cases fails

/-- A document without issues skips no step, and ends for none of the reasons that issues name;
only a variable that the run itself has bound can turn out to be of a wrong kind. -/
theorem validate_sound {document : Document} (clean : document.validate .builtin = [])
    (config : Config) (clock : Clock) (lead : String) (newId : Nat → String) :
    let recipe := document.recipe .builtin lead newId
    (recipe.bake .builtin config clock document.environment).report.skipped = [] ∧
      ∀ last step why,
        Outcome.Halts .builtin config clock (.start document.environment) recipe last step why →
          (∀ operation, why ≠ .unknownOperation operation) ∧
          (∀ argument value options, why ≠ .invalidOption argument value options) ∧
          (∀ name, why ≠ .variableNotFound name) ∧
          ∀ name expected found, why = .wrongKind name expected found →
            name ∈ last.report.committed := by
  obtain ⟨skipped, excused⟩ := steps_sound (o := .start document.environment) config clock lead
    newId clean (seeds_trueIn document.seeds)
  refine ⟨skipped, fun last step why halts => ?_⟩
  have unforeseen := excused last step why halts
  refine ⟨?_, ?_, ?_, ?_⟩
  · rintro operation rfl
    exact unforeseen
  · rintro argument value options rfl
    exact unforeseen
  · rintro name rfl
    exact unforeseen
  · rintro name expected found rfl
    exact unforeseen

/-- A table that a first step replaces by a string before a second one sorts it. -/
def replacedTable : Document where
  seeds := NameMap.ofList [("prices", .table Table.empty)]
  steps :=
    [⟨"input-constant", some "s1", some "prices", NameMap.ofList [("value", .text "none")]⟩,
     ⟨"op_sort_rows", some "s2", some "sorted",
      NameMap.ofList [("inputTable", .text "prices"), ("column", .text "price")]⟩]

theorem validate_sound_replacedTable :
    replacedTable.validate .builtin = [] ∧
      let recipe := replacedTable.recipe .builtin "out_" fun _ => "s0"
      (recipe.bake .builtin {} (fun _ => ⟨"09:00", 3⟩) replacedTable.environment).report.skipped =
          [] ∧
        ∀ last step why,
          Outcome.Halts .builtin {} (fun _ => ⟨"09:00", 3⟩) (.start replacedTable.environment)
            recipe last step why →
            (∀ operation, why ≠ .unknownOperation operation) ∧
            (∀ argument value options, why ≠ .invalidOption argument value options) ∧
            (∀ name, why ≠ .variableNotFound name) ∧
            ∀ name expected found, why = .wrongKind name expected found →
              name ∈ last.report.committed :=
  ⟨rfl, validate_sound rfl _ _ _ _⟩

end Document

end RecipeEngine
