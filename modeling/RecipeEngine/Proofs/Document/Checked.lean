import RecipeEngine.Document.Validation

namespace RecipeEngine

def FailsBy {α : Type} (sort : Failure → Prop) (x : Except Failure α) : Prop :=
  ∀ why, x = .error why → sort why

namespace FailsBy

variable {α β : Type} {sort : Failure → Prop}

theorem ok (a : α) : FailsBy sort (.ok a) := by
  intro why failed
  cases failed

theorem error {why : Failure} (fits : sort why) : FailsBy sort (.error why : Except Failure α) := by
  intro other failed
  cases failed
  exact fits

theorem bind {x : Except Failure α} {f : α → Except Failure β} (first : FailsBy sort x)
    (rest : ∀ a, x = .ok a → FailsBy sort (f a)) : FailsBy sort (x >>= f) := by
  cases x with
  | error why => exact error (first why rfl)
  | ok a => exact rest a rfl

theorem map {x : Except Failure α} {f : α → β} (first : FailsBy sort x) :
    FailsBy sort (x.map f) := by
  cases x with
  | error why => exact error (first why rfl)
  | ok a => exact ok (f a)

theorem mapError {ε : Type} {x : Except ε α} {f : ε → Failure} (fits : ∀ cause, sort (f cause)) :
    FailsBy sort (x.mapError f) := by
  cases x with
  | error cause => exact error (fits cause)
  | ok a => exact ok a

end FailsBy

section Sorts

variable {sort : Failure → Prop} {args : Arguments} {name : String}

theorem Arguments.required_failsBy (missing : sort (.missingArgument name)) :
    FailsBy sort (args.required name) := by
  unfold Arguments.required
  split
  · exact .ok _
  · exact .error missing

theorem Arguments.select_failsBy {options : List String}
    (invalid : ∀ value, sort (.invalidOption name value options)) (default : String) :
    FailsBy sort (args.select name options default) := by
  unfold Arguments.select
  split
  · exact .ok _
  · split
    · exact .ok _
    · exact .error (invalid _)

theorem Table.requireColumn_failsBy {t : Table} {column : String}
    (absent : sort (.columnNotFound column t.columns)) : FailsBy sort (t.requireColumn column) := by
  unfold Table.requireColumn
  split
  · exact .ok _
  · exact .error absent

end Sorts

/-- The failures that a check cannot rule out: not those of operations, options and variables that
are not there, and a variable of a wrong kind only if the run has bound it. -/
def Failure.Unforeseen (committed : List String) : Failure → Prop
  | .unknownOperation _ | .invalidOption .. | .variableNotFound _ => False
  | .wrongKind name _ _ => name ∈ committed
  | _ => True

/-- What is known of the variables is true in a run: they are bound, and those that the run has not
bound are of the kinds known. -/
def KnownVariables.TrueIn (known : KnownVariables) (env : Environment) (committed : List String) :
    Prop :=
  ∀ name kind?, known.get? name = some kind? →
    ∃ value, env.get? name = some value ∧ (name ∈ committed ∨ kind? = some value.kind)

namespace Document

section Leaves

variable {committed : List String} {args : Arguments}

theorem required_fails (name : String) :
    FailsBy (Failure.Unforeseen committed) (args.required name) :=
  Arguments.required_failsBy trivial

theorem requireColumn_fails (t : Table) (column : String) :
    FailsBy (Failure.Unforeseen committed) (t.requireColumn column) :=
  Table.requireColumn_failsBy trivial

theorem compile_fails (source : String) :
    FailsBy (Failure.Unforeseen committed) (Formula.compile source) := by
  unfold Formula.compile
  split
  · exact .error trivial
  · exact .ok _

theorem evaluate_fails (formula : Formula) (scope : Scope) :
    FailsBy (Failure.Unforeseen committed) (formula.evaluate scope) := by
  unfold Formula.evaluate
  split
  · exact .error trivial
  · exact .ok _

theorem toTable_fails (text : String) (hasHeader : Bool) :
    FailsBy (Failure.Unforeseen committed) (Csv.toTable text hasHeader) := by
  unfold Csv.toTable
  dsimp only
  split
  · exact .mapError fun _ => trivial
  · exact .ok _

end Leaves

section Checked

variable {known : KnownVariables} {env : Environment} {committed : List String} {args : Arguments}

theorem select_fails {sort : Failure → Prop} {name label : String} {options : List String}
    {description : Option String} {written : Option Json}
    (checked : argumentFault? known args ⟨name, label, .select options, description, written⟩ = none)
    (default : String) : FailsBy sort (args.select name options default) := by
  intro why failed
  unfold argumentFault? at checked
  unfold Arguments.select at checked failed
  cases given : args.present? name with
  | none => simp [given] at failed
  | some raw =>
    simp only [given] at checked failed
    split at failed
    · cases failed
    · rename_i outside
      rw [if_neg outside] at checked
      cases checked

/-- A table argument that passed the check names a variable that holds a table, unless the run has
bound it to something else. -/
theorem table_fails (holds : known.TrueIn env committed) {name label description : String}
    (checked : argumentFault? known args (Builtin.tableArgument name label description) = none) :
    FailsBy (Failure.Unforeseen committed) (args.table name env) := by
  refine .bind (required_fails name) fun name' read => ?_
  simp only [argumentFault?, Builtin.tableArgument] at checked
  unfold Arguments.required at read
  cases given : args.present? name with
  | none => simp [given] at read
  | some raw =>
    simp only [given, Except.ok.injEq] at read
    subst read
    simp only [given, Option.bind_some] at checked
    cases found : known.get? (Text.trim raw) with
    | none => simp [found] at checked
    | some kind? =>
      obtain ⟨value, stored, bound⟩ := holds _ _ found
      unfold Environment.table
      cases value with
      | table t =>
        simp only [stored]
        exact .ok t
      | number x =>
        simp only [stored]
        refine .error (bound.elim id fun same => ?_)
        simp [found, same, Value.kind] at checked
      | string s =>
        simp only [stored]
        refine .error (bound.elim id fun same => ?_)
        simp [found, same, Value.kind] at checked

theorem filter_fails (holds : known.TrueIn env committed)
    (checked : ∀ spec ∈ Builtin.filterRows.arguments, argumentFault? known args spec = none) :
    FailsBy (Failure.Unforeseen committed) (Builtin.runFilter args env) := by
  have input := checked _ (List.mem_cons_self ..)
  have operator := checked ⟨"operator", "Condition", .select Builtin.conditionNames, none,
    some (.text "equals")⟩ (by simp [Builtin.filterRows])
  refine .bind (table_fails holds input) fun t _ => ?_
  refine .bind (required_fails _) fun column _ => ?_
  refine .bind (requireColumn_fails t column) fun _ _ => ?_
  refine .bind (select_fails operator _) fun condition _ => ?_
  refine .bind ?_ fun value _ => .ok _
  unfold Builtin.conditionValue
  split
  · exact required_fails _
  · exact .ok _

theorem sort_fails (holds : known.TrueIn env committed)
    (checked : ∀ spec ∈ Builtin.sortRows.arguments, argumentFault? known args spec = none) :
    FailsBy (Failure.Unforeseen committed) (Builtin.runSort args env) := by
  have input := checked _ (List.mem_cons_self ..)
  have direction := checked ⟨"direction", "Direction", .select Builtin.directionNames, none,
    some (.text "Ascending")⟩ (by simp [Builtin.sortRows])
  refine .bind (table_fails holds input) fun t _ => ?_
  refine .bind (required_fails _) fun column _ => ?_
  refine .bind (requireColumn_fails t column) fun _ _ => ?_
  exact .bind (select_fails direction _) fun _ _ => .ok _

theorem columnMath_fails (holds : known.TrueIn env committed)
    (checked : ∀ spec ∈ Builtin.columnMath.arguments, argumentFault? known args spec = none) :
    FailsBy (Failure.Unforeseen committed) (Builtin.runColumnMath args env) := by
  have input := checked _ (List.mem_cons_self ..)
  refine .bind (table_fails holds input) fun t _ => ?_
  refine .bind (required_fails _) fun source _ => ?_
  exact .map (.map (compile_fails _))

theorem regression_fails (holds : known.TrueIn env committed)
    (checked : ∀ spec ∈ Builtin.linearRegression.arguments, argumentFault? known args spec = none) :
    FailsBy (Failure.Unforeseen committed) (Builtin.runRegression args env) := by
  have input := checked _ (List.mem_cons_self ..)
  have coordinate : ∀ t column,
      FailsBy (Failure.Unforeseen committed) (Builtin.requireCoordinate t column) := by
    intro t column
    unfold Builtin.requireCoordinate
    split
    · exact .ok _
    · exact requireColumn_fails t column
  refine .bind (table_fails holds input) fun t _ => ?_
  refine .bind (required_fails _) fun x _ => ?_
  refine .bind (required_fails _) fun y _ => ?_
  refine .bind (coordinate t x) fun _ _ => ?_
  refine .bind (coordinate t y) fun _ _ => ?_
  split
  · exact .ok _
  · exact .error trivial

/-- The failures left to a built-in operation whose arguments passed the check. -/
theorem run_fails (holds : known.TrueIn env committed) {op : Operation}
    (member : op ∈ Builtin.operations)
    (checked : ∀ spec ∈ op.arguments, argumentFault? known args spec = none) :
    FailsBy (Failure.Unforeseen committed) (op.run args env) := by
  simp only [Builtin.operations, List.mem_cons, List.not_mem_nil, or_false] at member
  rcases member with rfl | rfl | rfl | rfl | rfl | rfl | rfl
  · exact .map (toTable_fails _ _)
  · exact .bind (select_fails (checked _ List.mem_cons_self) _) fun type _ => .ok _
  · exact filter_fails holds checked
  · exact columnMath_fails holds checked
  · exact sort_fails holds checked
  · exact .bind (required_fails _) fun source _ => .bind (compile_fails _) fun formula _ =>
      .bind (evaluate_fails _ _) fun answer _ => .ok _
  · exact regression_fails holds checked

end Checked

end Document

end RecipeEngine
