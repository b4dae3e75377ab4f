import RecipeEngine.Proofs.Bake.Exchange
import RecipeEngine.Proofs.Document.Soundness

namespace RecipeEngine

namespace Recipe

/-- The outcome of the steps of a recipe before a position. -/
def reach (registry : Registry) (config : Config) (clock : Clock) (env : Environment)
    (recipe : Recipe) (position : Nat) : Outcome :=
  Recipe.bake registry config clock (recipe.take position) env

/-- The steps of a recipe before a position all give values. -/
def SucceedsTo (registry : Registry) (config : Config) (clock : Clock) (env : Environment)
    (recipe : Recipe) (position : Nat) : Prop :=
  ∀ i < position, ∃ step value, recipe[i]? = some step ∧
    Yields registry config clock env (recipe.take i) step value

variable {registry : Registry} {config : Config} {clock : Clock} {env : Environment}
  {recipe : Recipe} {position : Nat} {step : Step}

theorem take_add_one_of_getElem? (here : recipe[position]? = some step) :
    recipe.take (position + 1) = recipe.take position ++ [step] := by
  rw [List.take_add_one, here, Option.toList_some]

theorem Yields.reach_add_one {value : Value} (here : recipe[position]? = some step)
    (yields : Yields registry config clock env (recipe.take position) step value) :
    recipe.reach registry config clock env (position + 1) =
      (recipe.reach registry config clock env position).commit config clock step value := by
  rw [reach, take_add_one_of_getElem? here, yields.bake_concat]
  rfl

theorem SucceedsTo.reached (succeeds : recipe.SucceedsTo registry config clock env position) :
    (recipe.reach registry config clock env position).report.haltedAt = none := by
  cases position with
  | zero => rfl
  | succ position =>
    obtain ⟨step, value, here, yields⟩ := succeeds position (Nat.lt_succ_self position)
    rw [yields.reach_add_one here]
    exact yields.reached

/-- A run ends at a step that fails after the steps before it have passed. -/
theorem bake_of_failed {why : Failure}
    (reached : (recipe.reach registry config clock env position).report.haltedAt = none)
    (here : recipe[position]? = some step)
    (failed : step.attempt registry (recipe.reach registry config clock env position).environment =
      .failed why) :
    recipe.bake registry config clock env =
      (recipe.reach registry config clock env position).halt clock step why := by
  have stopped : Recipe.bake registry config clock (recipe.take (position + 1)) env =
      (recipe.reach registry config clock env position).halt clock step why := by
    rw [take_add_one_of_getElem? here, bake_concat reached]
    show Outcome.advance registry config clock (recipe.reach registry config clock env position)
      step = _
    rw [Outcome.advance, failed]
  have halted : (Recipe.bake registry config clock (recipe.take (position + 1))
      env).report.haltedAt = some step.id := by
    rw [stopped]
    rfl
  conv_lhs => rw [← List.take_append_drop (position + 1) recipe, bake_prolonged halted]
  exact stopped

end Recipe

/-- Whether no output is written for a step, so that its result gets a name made from its id. -/
def WrittenStep.isUnnamed (written : WrittenStep) : Bool :=
  (Text.trim (written.output.getD "")).isEmpty

namespace Document

/-- The ids that are written at the steps before a position. -/
def idsBefore (document : Document) (position : Nat) : List String :=
  (document.steps.take position).foldl (fun ids written => written.id.toList ++ ids) []

/-- What is known of the variables before the step at a position. -/
def knownBefore (document : Document) (registry : Registry) (position : Nat) : KnownVariables :=
  (document.steps.take position).foldl (knownAfter registry)
    (document.seeds.map fun value => some value.kind)

def issuesAt (document : Document) (registry : Registry) (position : Nat) : List Issue :=
  match document.steps[position]? with
  | some written =>
    (stepFaults registry (document.idsBefore position) (document.knownBefore registry position)
      written).map (⟨label position written, ·⟩)
  | none => []

/-- A step before a position has no output written, and its result gets a certain name. -/
def MakesUp (document : Document) (registry : Registry) (lead : String) (newId : Nat → String)
    (position : Nat) (name : String) : Prop :=
  ∃ i < position, ∃ written, document.steps[i]? = some written ∧ written.isUnnamed = true ∧
    (written.toStep registry lead (newId i)).outputName lead = name

section Issues

variable {registry : Registry}

theorem issuesFrom_append (position : Nat) (ids : List String) (known : KnownVariables)
    (first second : List WrittenStep) :
    issuesFrom registry position ids known (first ++ second) =
      issuesFrom registry position ids known first ++
        issuesFrom registry (position + first.length)
          (first.foldl (fun ids written => written.id.toList ++ ids) ids)
          (first.foldl (knownAfter registry) known) second := by
  induction first generalizing position ids known with
  | nil => rfl
  | cons written rest ih =>
    simp only [List.cons_append, issuesFrom, ih, List.append_assoc, List.foldl_cons,
      List.length_cons, Nat.add_assoc, Nat.add_comm 1]

theorem validate_take_succ (document : Document) {position : Nat}
    (within : position < document.steps.length) :
    ({ document with steps := document.steps.take (position + 1) } : Document).validate registry =
      ({ document with steps := document.steps.take position } : Document).validate registry ++
        document.issuesAt registry position := by
  have here := List.getElem?_eq_getElem within
  have count : (document.steps.take position).length = position :=
    List.length_take_of_le within.le
  simp only [validate, List.take_add_one, here, Option.toList_some, issuesFrom_append, count,
    Nat.zero_add, issuesFrom, List.append_nil]
  rw [issuesAt, here]
  rfl

/-- The issues of a document are those of its steps, one after the other. -/
theorem validate_eq_flatMap (document : Document) :
    document.validate registry =
      (List.range document.steps.length).flatMap (document.issuesAt registry) := by
  have upTo : ∀ position ≤ document.steps.length,
      ({ document with steps := document.steps.take position } : Document).validate registry =
        (List.range position).flatMap (document.issuesAt registry) := by
    intro position within
    induction position with
    | zero => rfl
    | succ position ih =>
      rw [validate_take_succ document within, ih (Nat.le_of_succ_le within), List.range_succ,
        List.flatMap_append, List.flatMap_singleton]
  have whole := upTo document.steps.length le_rfl
  rwa [List.take_length] at whole

end Issues

section Recipe

variable {registry : Registry} {lead : String} {newId : Nat → String}

theorem getElem?_stepsFrom (start : Nat) (steps : List WrittenStep) (i : Nat) :
    (stepsFrom registry lead newId start steps)[i]? =
      (steps[i]?).map fun written => written.toStep registry lead (newId (start + i)) := by
  induction steps generalizing start i with
  | nil => rfl
  | cons written rest ih =>
    cases i with
    | zero => rfl
    | succ i => simp only [stepsFrom, List.getElem?_cons_succ, ih, Nat.add_assoc, Nat.add_comm 1]

theorem getElem?_recipe (document : Document) (registry : Registry) (lead : String)
    (newId : Nat → String) (i : Nat) :
    (document.recipe registry lead newId)[i]? =
      (document.steps[i]?).map fun written => written.toStep registry lead (newId i) := by
  rw [recipe, getElem?_stepsFrom, Nat.zero_add]

end Recipe

section Bound

variable {document : Document} {config : Config} {clock : Clock} {newId : Nat → String}
  {position : Nat} {name : String} {written : WrittenStep}

theorem makesUp_add_one {registry : Registry} {lead : String}
    (here : document.steps[position]? = some written) :
    document.MakesUp registry lead newId (position + 1) name ↔
      document.MakesUp registry lead newId position name ∨ written.isUnnamed = true ∧
        (written.toStep registry lead (newId position)).outputName lead = name := by
  constructor
  · rintro ⟨i, before, earlier, there, unnamed, called⟩
    rcases Nat.lt_succ_iff_lt_or_eq.mp before with sooner | rfl
    · exact Or.inl ⟨i, sooner, earlier, there, unnamed, called⟩
    · rw [← Option.some.inj (there.symm.trans here)]
      exact Or.inr ⟨unnamed, called⟩
  · rintro (⟨i, before, rest⟩ | ⟨unnamed, called⟩)
    · exact ⟨i, Nat.lt_succ_of_lt before, rest⟩
    · exact ⟨position, Nat.lt_succ_self position, written, here, unnamed, called⟩

theorem knownBefore_add_one {registry : Registry}
    (here : document.steps[position]? = some written) :
    document.knownBefore registry (position + 1) =
      knownAfter registry (document.knownBefore registry position) written := by
  rw [knownBefore, List.take_add_one, here, Option.toList_some, List.foldl_append, List.foldl_cons,
    List.foldl_nil, knownBefore]

/-- A step of a registered operation makes its written output known, and nothing else. -/
theorem exists_knownAfter {registry : Registry} {known : KnownVariables}
    (registered : registry.contains written.operation = true) :
    (∃ kind?, (knownAfter registry known written).get? name = some kind?) ↔
      (∃ kind?, known.get? name = some kind?) ∨
        written.isUnnamed = false ∧ Text.trim (written.output.getD "") = name := by
  unfold knownAfter WrittenStep.isUnnamed
  cases unnamed : (Text.trim (written.output.getD "")).isEmpty with
  | true => simp [registered, unnamed]
  | false =>
    simp only [registered, unnamed, Bool.not_false, Bool.and_true, if_true, true_and]
    rw [NameMap.exists_get?_insert, or_comm]

/-- After steps that have all succeeded the variables are those that the check knows and those
whose names were made up. -/
theorem bound_iff
    (succeeds : (document.recipe .builtin config.lead newId).SucceedsTo .builtin config clock
      document.environment position) (name : String) :
    (∃ value, ((document.recipe .builtin config.lead newId).reach .builtin config clock
        document.environment position).environment.get? name = some value) ↔
      (∃ kind?, (document.knownBefore .builtin position).get? name = some kind?) ∨
        document.MakesUp .builtin config.lead newId position name := by
  induction position with
  | zero =>
    have none : ¬ document.MakesUp .builtin config.lead newId 0 name :=
      fun ⟨_, before, _⟩ => Nat.not_lt_zero _ before
    rw [or_iff_left none]
    show (∃ value, document.seeds.get? name = some value) ↔
      ∃ kind?, (document.seeds.map fun value => some value.kind).get? name = some kind?
    rw [NameMap.get?_map]
    cases document.seeds.get? name <;> simp
  | succ position ih =>
    have before := ih fun i earlier => succeeds i (Nat.lt_succ_of_lt earlier)
    obtain ⟨step, value, here, yields⟩ := succeeds position (Nat.lt_succ_self position)
    rw [yields.reach_add_one here]
    rw [getElem?_recipe] at here
    obtain ⟨written, there, rfl⟩ := Option.map_eq_some_iff.mp here
    have registered := Step.isRegistered_of_result yields.given
    rw [Step.isRegistered, WrittenStep.toStep_operation] at registered
    rw [knownBefore_add_one there, exists_knownAfter registered, makesUp_add_one there]
    show (∃ bound, (NameMap.insert _ _ value).get? name = some bound) ↔ _
    rw [NameMap.exists_get?_insert, before]
    -- The result is bound to the written output, which becomes known, or else to a made-up name.
    cases unnamed : written.isUnnamed with
    | true =>
      simp only [Bool.true_eq_false, false_and, or_false, true_and]
      rw [or_comm, or_assoc]
    | false =>
      rw [WrittenStep.toStep_outputName unnamed]
      simp only [Bool.false_eq_true, false_and, or_false, true_and]
      rw [or_assoc, or_left_comm]

end Bound

section Missing

variable {known : KnownVariables} {args : Arguments} {env : Environment} {name : String}

/-- Only an argument for a variable is reported missing, and only if its variable is not known. -/
theorem argumentFault?_eq_missing {spec : ArgumentSpec}
    (fault : argumentFault? known args spec = some (.variableNotFound name)) :
    (∃ accepts, spec.kind = .variableRef accepts) ∧ args.required spec.name = .ok name ∧
      known.get? name = none := by
  unfold argumentFault? at fault
  split at fault
  · rename_i options kind
    unfold Arguments.select at fault
    cases given : args.present? spec.name with
    | none => simp [given] at fault
    | some raw =>
      simp only [given] at fault
      split at fault <;> rename_i read
      · cases fault
      · split at read
        · cases read
        · cases read
          cases fault
  · rename_i accepts kind
    obtain ⟨raw, given, fault⟩ := Option.bind_eq_some_iff.mp fault
    cases found : known.get? (Text.trim raw) with
    | none =>
      simp only [found, Option.some.injEq, Failure.variableNotFound.injEq] at fault
      subst fault
      refine ⟨⟨accepts, kind⟩, ?_, found⟩
      rw [Arguments.required, given]
    | some kind? =>
      cases kind? with
      | none => simp [found] at fault
      | some kind =>
        simp only [found] at fault
        split at fault
        · cases fault
        · cases fault
  · cases fault

theorem table_of_missing {argument : String} (named : args.required argument = .ok name)
    (unbound : env.get? name = none) :
    args.table argument env = .error (.variableNotFound name) := by
  rw [Arguments.table, named]
  show Environment.table env name = _
  rw [Environment.table, unbound]

/-- The built-in operations read their tables first, and fail as that fails. -/
theorem run_of_table_error {op : Operation} (member : op ∈ Builtin.operations) {spec : ArgumentSpec}
    (declared : spec ∈ op.arguments) {accepts : Option (List Kind)}
    (kind : spec.kind = .variableRef accepts) {why : Failure}
    (failed : args.table spec.name env = .error why) : op.run args env = .error why := by
  simp only [Builtin.operations, List.mem_cons, List.not_mem_nil, or_false] at member
  rcases member with rfl | rfl | rfl | rfl | rfl | rfl | rfl <;>
    simp only [Builtin.fromCsv, Builtin.constant, Builtin.filterRows, Builtin.columnMath,
      Builtin.sortRows, Builtin.constantMath, Builtin.linearRegression, List.mem_cons,
      List.not_mem_nil, or_false] at declared
  · rcases declared with rfl | rfl <;> cases kind
  · rcases declared with rfl | rfl <;> cases kind
  · rcases declared with rfl | rfl | rfl | rfl
    · exact congrArg (· >>= _) failed
    all_goals cases kind
  · rcases declared with rfl | rfl | rfl
    · exact congrArg (· >>= _) failed
    all_goals cases kind
  · rcases declared with rfl | rfl | rfl
    · exact congrArg (· >>= _) failed
    all_goals cases kind
  · cases declared
    cases kind
  · rcases declared with rfl | rfl | rfl
    · exact congrArg (· >>= _) failed
    all_goals cases kind

theorem missing_mem_stepFaults {registry : Registry} {ids : List String} {written : WrittenStep}
    (fault : .variableNotFound name ∈ stepFaults registry ids known written) :
    ∃ op, registry.get? written.operation = some op ∧ ∃ spec ∈ op.arguments,
      argumentFault? known (op.defaults.merge written.arguments) spec =
        some (.variableNotFound name) := by
  rcases List.mem_append.mp fault with repeated | other
  · unfold repeatedId at repeated
    split at repeated
    · split at repeated
      · simp at repeated
      · cases repeated
    · cases repeated
  · cases found : registry.get? written.operation with
    | none => simp [found] at other
    | some op =>
      simp only [found] at other
      exact ⟨op, rfl, List.mem_filterMap.mp other⟩

/-- A step with a fault for a missing variable fails for want of it wherever it is not bound. -/
theorem attempt_of_missing {ids : List String} {written : WrittenStep}
    (fault : .variableNotFound name ∈ stepFaults .builtin ids known written)
    (unbound : env.get? name = none) (lead newId : String) :
    (written.toStep .builtin lead newId).attempt .builtin env =
      .failed (.variableNotFound name) := by
  obtain ⟨op, found, spec, declared, faulty⟩ := missing_mem_stepFaults fault
  obtain ⟨⟨accepts, kind⟩, named, -⟩ := argumentFault?_eq_missing faulty
  have listed := (Registry.mem_of_get? found).1
  rw [Registry.builtin_listing] at listed
  have ran := run_of_table_error listed declared kind (table_of_missing named unbound)
  rw [Step.attempt, WrittenStep.toStep_operation, found, WrittenStep.toStep_arguments found]
  simp only [ran]

theorem unknown_of_missing {registry : Registry} {ids : List String} {written : WrittenStep}
    (fault : .variableNotFound name ∈ stepFaults registry ids known written) :
    ¬ ∃ kind?, known.get? name = some kind? := by
  obtain ⟨op, -, spec, -, faulty⟩ := missing_mem_stepFaults fault
  obtain ⟨-, -, unknown⟩ := argumentFault?_eq_missing faulty
  rintro ⟨kind?, found⟩
  cases unknown.symm.trans found

end Missing

/-- The issues of a document are those of its steps in turn. A step with an issue for a missing
variable fails for want of it, if the steps before have all succeeded, unless the name of the
variable was made up for one of them; then the variable is there. -/
theorem missing_unless_made_up (document : Document) (config : Config) (clock : Clock)
    (newId : Nat → String) :
    document.validate .builtin =
        (List.range document.steps.length).flatMap (document.issuesAt .builtin) ∧
      let recipe := document.recipe .builtin config.lead newId
      ∀ position, ∀ issue ∈ document.issuesAt .builtin position, ∀ name,
        issue.failure = .variableNotFound name →
        recipe.SucceedsTo .builtin config clock document.environment position →
        let reached := recipe.reach .builtin config clock document.environment position
        ((∃ value, reached.environment.get? name = some value) ↔
            document.MakesUp .builtin config.lead newId position name) ∧
          (¬ document.MakesUp .builtin config.lead newId position name →
            ∃ step, recipe[position]? = some step ∧
              recipe.bake .builtin config clock document.environment =
                reached.halt clock step (.variableNotFound name)) := by
  refine ⟨validate_eq_flatMap document, fun position issue reported name missing succeeds => ?_⟩
  unfold issuesAt at reported
  split at reported
  · rename_i written there
    obtain ⟨fault, member, rfl⟩ := List.mem_map.mp reported
    cases (missing : fault = .variableNotFound name)
    have bound := bound_iff succeeds name
    rw [or_iff_right (unknown_of_missing member)] at bound
    refine ⟨bound, fun honest => ?_⟩
    have unbound := Option.eq_none_iff_forall_ne_some.mpr (not_exists.mp (mt bound.mp honest))
    have here := document.getElem?_recipe .builtin config.lead newId position
    rw [there, Option.map_some] at here
    exact ⟨_, here, Recipe.bake_of_failed succeeds.reached here
      (attempt_of_missing member unbound _ _)⟩
  · cases reported

/-- A table whose output is not written, a step that reads it under the name made up for it, and one
that reads it under a name that nothing has. -/
def unwrittenOutput : Document where
  seeds := NameMap.empty
  steps :=
    [⟨"op_from_csv", some "load", none, NameMap.ofList [("csvContent", .text "a\nx")]⟩,
     ⟨"op_filter_rows", some "keep", some "kept",
      NameMap.ofList
        [("inputTable", .text "var_load"), ("column", .text "a"), ("value", .text "x")]⟩,
     ⟨"op_sort_rows", some "order", some "ordered",
      NameMap.ofList [("inputTable", .text "people"), ("column", .text "a")]⟩]

theorem unwrittenOutput_succeedsTo :
    (unwrittenOutput.recipe .builtin "var_" fun _ => "s0").SucceedsTo .builtin {}
      (fun _ => ⟨"09:00", 3⟩) unwrittenOutput.environment 2 := by
  intro i before
  match i, before with
  | 0, _ => exact ⟨_, .table ⟨["a"], [NameMap.ofList [("a", .text "x")]]⟩, rfl, rfl, rfl⟩
  | 1, _ => exact ⟨_, .table ⟨["a"], [NameMap.ofList [("a", .text "x")]]⟩, rfl, rfl, rfl⟩

theorem missing_unless_made_up_people :
    let recipe := unwrittenOutput.recipe .builtin "var_" fun _ => "s0"
    let reached := recipe.reach .builtin {} (fun _ => ⟨"09:00", 3⟩) unwrittenOutput.environment 2
    (⟨"order", .variableNotFound "people"⟩ ∈ unwrittenOutput.issuesAt .builtin 2 ∧
      recipe.SucceedsTo .builtin {} (fun _ => ⟨"09:00", 3⟩) unwrittenOutput.environment 2 ∧
      ¬ unwrittenOutput.MakesUp .builtin "var_" (fun _ => "s0") 2 "people") ∧
    ∃ step, recipe[2]? = some step ∧
      recipe.bake .builtin {} (fun _ => ⟨"09:00", 3⟩) unwrittenOutput.environment =
        reached.halt (fun _ => ⟨"09:00", 3⟩) step (.variableNotFound "people") := by
  have reported : ⟨"order", .variableNotFound "people"⟩ ∈ unwrittenOutput.issuesAt .builtin 2 :=
    List.mem_singleton.mpr rfl
  have honest : ¬ unwrittenOutput.MakesUp .builtin "var_" (fun _ => "s0") 2 "people" := by
    rintro ⟨i, before, written, there, unnamed, called⟩
    match i, before with
    | 0, _ =>
      cases there
      exact absurd called (by decide)
    | 1, _ =>
      cases there
      exact absurd unnamed (by decide)
  refine ⟨⟨reported, unwrittenOutput_succeedsTo, honest⟩, ?_⟩
  exact ((missing_unless_made_up unwrittenOutput {} (fun _ => ⟨"09:00", 3⟩) fun _ => "s0").2 2 _
    reported "people" rfl unwrittenOutput_succeedsTo).2 honest

/-- A variable that is reported missing can be there. -/
theorem not_missing_of_reported :
    ¬ ∀ (document : Document) (config : Config) (clock : Clock) (newId : Nat → String),
      config.lead = "var_" →
      let recipe := document.recipe .builtin config.lead newId
      ∀ position, ∀ issue ∈ document.issuesAt .builtin position, ∀ name,
        issue.failure = .variableNotFound name →
        recipe.SucceedsTo .builtin config clock document.environment position →
        let reached := recipe.reach .builtin config clock document.environment position
        ∃ step why, recipe[position]? = some step ∧
          step.attempt .builtin reached.environment = .failed why := by
  intro claimed
  have reported : ⟨"keep", .variableNotFound "var_load"⟩ ∈ unwrittenOutput.issuesAt .builtin 1 :=
    List.mem_singleton.mpr rfl
  have succeeds := fun i before => unwrittenOutput_succeedsTo i (Nat.lt_succ_of_lt before)
  obtain ⟨step, why, here, failed⟩ := claimed unwrittenOutput {} (fun _ => ⟨"09:00", 3⟩)
    (fun _ => "s0") rfl 1 _ reported "var_load" rfl succeeds
  obtain ⟨other, value, there, yields⟩ := unwrittenOutput_succeedsTo 1 (by decide)
  cases here.symm.trans there
  cases failed.symm.trans yields.given

end Document

end RecipeEngine
