import RecipeEngine.Operation.Builtin
import RecipeEngine.Proofs.Expression.Rendering
import RecipeEngine.Proofs.Operation.Arguments
import RecipeEngine.Proofs.Table.Compute

namespace RecipeEngine

open Text (isBlank)

/-- A text is its own argument if no white space stands at its ends. -/
theorem Arguments.required_of_ends {args : Arguments} {name s : String} {c : Char}
    (given : args.text? name = some s) (head : s.toList.head? = some c)
    (first : ¬ isBlank c = true) (last : ∀ d ∈ s.toList.getLast?, ¬ isBlank d = true) :
    args.required name = .ok s := by
  have trimmed : Text.trim s = s := by
    rw [Text.trim_eq_self_iff, head]
    refine ⟨fun d here => ?_, last⟩
    cases here
    exact first
  have visible : s ≠ "" := by
    rintro rfl
    cases head
  exact (required_eq_self_iff given).mpr ⟨trimmed, visible⟩

def quotedName (name : String) : String := "`" ++ name ++ "`"

theorem toList_quotedName (name : String) :
    (quotedName name).toList = (Token.name name).source := by
  simp [quotedName, Token.source]

def Expression.ofName (name : String) : Expression :=
  if name = "true" then .truth true else if name = "false" then .truth false else .name name

theorem Parser.parse_name (stop position : Nat) (name : String) :
    parse stop [⟨.name name, position⟩] = .ok (Expression.ofName name) := by
  have leaf : Grammar.Derives .primary 255 [.name name] (Expression.ofName name) := by
    unfold Expression.ofName
    split
    · rename_i same
      exact same ▸ .yes
    · rename_i other
      split
      · rename_i same
        exact same ▸ .no
      · rename_i other'
        exact .name other other'
  have low : (Expression.ofName name).height ≤ 256 := by
    unfold Expression.ofName
    split
    · simp [Expression.height]
    · split <;> simp [Expression.height]
  exact parse_eq_ok_iff.mpr ⟨.alone (.noPrefix (.noExponent leaf)), low⟩

theorem Formula.compile_quotedName {name : String} (plain : '\x60' ∉ name.toList) :
    compile (quotedName name) = .ok ⟨quotedName name, .ofName name⟩ := by
  refine compile_of_parse [⟨.name name, 0⟩] ?_ (Parser.parse_name _ 0 name)
  rw [toList_quotedName]
  exact Lexer.tokens_source (t := .name name) plain

/-- A row after a column was computed from a name between backticks: all other cells are as they
were, and the column has a copy of the cell of that name if there was one. A word for a truth value
is copied itself. -/
structure Row.Copied (name column : String) (before after : Row) : Prop where
  others : ∀ other, other ≠ column → after.get? other = before.get? other
  cell : name ≠ "true" → name ≠ "false" →
    ∀ cell, before.get? name = some cell → after.get? column = some cell
  word : name = "true" ∨ name = "false" → after.get? column = some (.text name)

theorem Row.Computed.copied {name column : String} {env : Environment} {before after : Row}
    (computed : Row.Computed (.ofName name) column env before after) :
    Row.Copied name column before after where
  others := computed.others
  cell noTrue noFalse cell held := by
    have value : (Expression.ofName name).eval (before.over env) = .ok (.ofScalar cell) := by
      rw [Expression.ofName, if_neg noTrue, if_neg noFalse, Expression.eval, Expression.lookup,
        Row.over, held]
    rw [computed.answered _ value]
    cases cell <;> rfl
  word isWord := by
    rcases isWord with rfl | rfl
    · exact computed.answered (.truth true) rfl
    · exact computed.answered (.truth false) rfl

namespace Builtin

/-- A name between backticks compiles, and a column computed from it is a copy of the column of that
name wherever this has a cell, except that the words for the truth values are truth values. -/
theorem columnMath_quotedName {name : String} (plain : '\x60' ∉ name.toList) :
    Formula.compile (quotedName name) = .ok ⟨quotedName name, .ofName name⟩ ∧
    ∀ (args : Arguments) (env : Environment) (t : Table),
      args.table "inputTable" env = .ok t → args.text? "expression" = some (quotedName name) →
      ∃ column result, column = (args.required "newColumnName").toOption.getD defaultColumn ∧
        columnMath.run args env = .ok (.table result) ∧
        result.columns = (if column ∈ t.columns then t.columns else t.columns ++ [column]) ∧
        List.Forall₂ (Row.Copied name column) t.rows result.rows := by
  have compiled := Formula.compile_quotedName plain
  refine ⟨compiled, fun args env t table given => ?_⟩
  have head : (quotedName name).toList.head? = some '\x60' := by
    rw [toList_quotedName]
    rfl
  have last : (quotedName name).toList.getLast? = some '\x60' := by
    have whole : (Token.name name).source = ('\x60' :: name.toList) ++ ['\x60'] := rfl
    rw [toList_quotedName, whole, List.getLast?_concat]
  have expression : args.required "expression" = .ok (quotedName name) := by
    refine Arguments.required_of_ends given head (by decide) fun c here => ?_
    rw [last] at here
    cases here
    decide
  generalize named : (args.required "newColumnName").toOption.getD defaultColumn = column
  have computed := Table.computed_compute t ⟨quotedName name, .ofName name⟩ column env
  refine ⟨column, _, rfl, ?_, Table.columns_compute t env.scope,
    computed.rows.imp fun _ _ => Row.Computed.copied⟩
  show runColumnMath args env = _
  unfold runColumnMath
  simp only [table, expression, bind, Except.bind, Table.computeColumn_of_compile compiled,
    Except.map]
  rw [← named]
  cases args.required "newColumnName" <;> rfl

/-- Ballots with a column whose name is a word for a truth value. -/
def ballots : Environment :=
  NameMap.ofList [("ballots", .table
    ⟨["true", "Unit Price"], [NameMap.ofList [("true", .text "yes"), ("Unit Price", .number 3)]]⟩)]

def copying (name : String) : Arguments :=
  NameMap.ofList [("inputTable", .text "ballots"), ("expression", .text (quotedName name))]

theorem columnMath_quotedName_price :
    '\x60' ∉ "Unit Price".toList ∧
    Formula.compile "`Unit Price`" = .ok ⟨"`Unit Price`", .name "Unit Price"⟩ ∧
    ∃ t result, (copying "Unit Price").table "inputTable" ballots = .ok t ∧
      (copying "Unit Price").text? "expression" = some "`Unit Price`" ∧
      columnMath.run (copying "Unit Price") ballots = .ok (.table result) ∧
      List.Forall₂ (Row.Copied "Unit Price" "Result") t.rows result.rows := by
  have plain : '\x60' ∉ "Unit Price".toList := by decide
  obtain ⟨compiled, copies⟩ := columnMath_quotedName plain
  obtain ⟨column, result, rfl, run, -, rows⟩ := copies (copying "Unit Price") ballots _ rfl rfl
  exact ⟨plain, compiled, _, result, rfl, rfl, run, rows⟩

/-- A column called `true` is not reached: the copy of it holds the word. -/
theorem not_columnMath_quotedName_true :
    '\x60' ∉ "true".toList ∧
    Formula.compile "`true`" = .ok ⟨"`true`", .truth true⟩ ∧
    (∃ result, columnMath.run (copying "true") ballots = .ok (.table result) ∧
      result.rows.map (·.get? "true") = [some (.text "yes")] ∧
      result.rows.map (·.get? "Result") = [some (.text "true")]) ∧
    ¬ ∀ name, '\x60' ∉ name.toList →
      ∃ f, Formula.compile (quotedName name) = .ok f ∧ f.tree = .name name := by
  have plain : '\x60' ∉ "true".toList := by decide
  have compiled : Formula.compile "`true`" = .ok ⟨"`true`", .truth true⟩ :=
    Formula.compile_quotedName plain
  refine ⟨plain, compiled, ⟨_, rfl, rfl, rfl⟩, fun reached => ?_⟩
  obtain ⟨f, compiles, isName⟩ := reached "true" plain
  cases compiled.symm.trans compiles
  cases isName

end Builtin

end RecipeEngine
