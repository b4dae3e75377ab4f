import RecipeEngine.Proofs.Expression.QuotedName

namespace RecipeEngine

open Text (isBlank isLetter isLetterOrNumber)

namespace Text

theorem isLetter_of_isAlpha {c : Char} (letter : c.isAlpha = true) : isLetter c = true := by
  have := toNat_of_isAlpha letter
  rw [isLetter, if_pos (by omega), letter]

theorem not_isDigit_of_isLetter {c : Char} (letter : isLetter c = true) : ¬ c.isDigit = true := by
  intro digit
  have low := toNat_of_isDigit digit
  rw [isLetter, if_pos (by omega)] at letter
  have := toNat_of_isAlpha letter
  omega

theorem isLetterOrNumber_of_isAlphanum {c : Char} (inWord : c.isAlphanum = true) :
    isLetterOrNumber c = true := by
  have low : c.toNat < 0x80 := by
    rcases Bool.or_eq_true_iff.mp inWord with letter | digit
    · have := toNat_of_isAlpha letter
      omega
    · have := toNat_of_isDigit digit
      omega
  rw [isLetterOrNumber, if_pos low, inWord]

theorem isLetterOrNumber_of_isLetter {c : Char} (letter : isLetter c = true) :
    isLetterOrNumber c = true := by
  unfold isLetter at letter
  unfold isLetterOrNumber
  split
  · rename_i low
    rw [if_pos low] at letter
    rw [Char.isAlphanum, letter, Bool.true_or]
  · rename_i high
    rw [if_neg high] at letter
    rw [letter, Bool.true_or]

end Text

namespace Lexer

theorem continuesName_of_startsName {c : Char} (starts : startsName c = true) :
    continuesName c = true := by
  rcases Bool.or_eq_true_iff.mp starts with letter | underscore
  · rw [continuesName, Text.isLetterOrNumber_of_isLetter letter, Bool.true_or]
  · rw [continuesName, underscore, Bool.or_true]

theorem visible_of_startsName {c : Char} (starts : startsName c = true) : ¬ isBlank c = true := by
  intro blank
  cases (continuesName_of_startsName starts).symm.trans (not_continuesName_of_isBlank blank)

theorem lexeme_word {c : Char} (starts : startsName c = true) (rest : List Char) :
    lexeme c rest =
      .ok (wordToken (c :: rest.takeWhile continuesName), (rest.takeWhile continuesName).length) := by
  have noNumber : ¬ (c.isDigit || c = '.') = true := by
    intro numeral
    rcases Bool.or_eq_true_iff.mp numeral with digit | point
    · rcases Bool.or_eq_true_iff.mp starts with letter | underscore
      · exact Text.not_isDigit_of_isLetter letter digit
      · cases of_decide_eq_true underscore
        exact absurd digit (by decide)
    · cases of_decide_eq_true point
      exact absurd starts (by decide)
  have noQuote : ¬ (c = '"' || c = '\'') = true := by
    intro quote
    rcases Bool.or_eq_true_iff.mp quote with double | single
    · cases of_decide_eq_true double
      exact absurd starts (by decide)
    · cases of_decide_eq_true single
      exact absurd starts (by decide)
  have noBacktick : c ≠ '\x60' := by
    rintro rfl
    exact absurd starts (by decide)
  rw [lexeme, if_neg noNumber, if_neg noQuote, if_neg noBacktick, if_pos starts]

theorem tokens_word {c : Char} {rest : List Char} (starts : startsName c = true)
    (goesOn : ∀ d ∈ rest, continuesName d = true) :
    tokens (c :: rest) = .ok [⟨wordToken (c :: rest), 0⟩] := by
  have whole : rest.takeWhile continuesName = rest := List.takeWhile_eq_self_iff.mpr goesOn
  have read := lexeme_word starts rest
  rw [whole] at read
  exact tokens_single (visible_of_startsName starts) read

theorem tokens_plainName {name : String} (plain : isPlainName name = true) :
    tokens name.toList = .ok [⟨wordToken name.toList, 0⟩] := by
  unfold isPlainName at plain
  split at plain
  · cases plain
  · rename_i c rest shape
    obtain ⟨first, others⟩ := Bool.and_eq_true_iff.mp plain
    rw [shape]
    refine tokens_word ?_ fun d member => ?_
    · rcases Bool.or_eq_true_iff.mp first with letter | underscore
      · rw [startsName, Text.isLetter_of_isAlpha letter, Bool.true_or]
      · rw [startsName, underscore, Bool.or_true]
    · rcases Bool.or_eq_true_iff.mp (List.all_eq_true.mp others d member) with inWord | underscore
      · rw [continuesName, Text.isLetterOrNumber_of_isAlphanum inWord, Bool.true_or]
      · rw [continuesName, underscore, Bool.or_true]

def operatorWords : List String := ["and", "or", "not"]

theorem wordToken_name {name : String} (other : name ∉ operatorWords) :
    wordToken name.toList = .name name := by
  simp only [operatorWords, List.mem_cons, List.not_mem_nil, or_false, not_or] at other
  obtain ⟨noAnd, noOr, noNot⟩ := other
  rw [wordToken, if_neg fun same => noAnd (String.toList_injective same),
    if_neg fun same => noOr (String.toList_injective same),
    if_neg fun same => noNot (String.toList_injective same), String.ofList_toList]

end Lexer

namespace Formula

open Lexer (operatorWords)

/-- A plain name that is no operator compiles to the tree of a name that stands alone. -/
theorem compile_of_isPlainName {name : String} (plain : isPlainName name = true)
    (other : name ∉ operatorWords) : compile name = .ok ⟨name, .ofName name⟩ := by
  refine compile_of_parse [⟨.name name, 0⟩] ?_ (Parser.parse_name _ 0 name)
  rw [Lexer.tokens_plainName plain, Lexer.wordToken_name other]

theorem compile_of_mem_operatorWords {name : String} (operator : name ∈ operatorWords) :
    ∃ position found, compile name =
      .error (.expressionSyntax name position (SyntaxProblem.message (.missingValue found))) := by
  simp only [operatorWords, List.mem_cons, List.not_mem_nil, or_false] at operator
  rcases operator with rfl | rfl | rfl
  · exact ⟨0, some (.symbol .and), rfl⟩
  · exact ⟨0, some (.symbol .or), rfl⟩
  · exact ⟨3, none, rfl⟩

def truthWords : List String := ["true", "false"]

theorem compile_of_mem_truthWords {name : String} (word : name ∈ truthWords) :
    compile name = .ok ⟨name, .truth (name = "true")⟩ := by
  simp only [truthWords, List.mem_cons, List.not_mem_nil, or_false] at word
  rcases word with rfl | rfl
  · exact compile_of_isPlainName (by decide) (by decide)
  · exact compile_of_isPlainName (by decide) (by decide)

theorem ofName_of_not_mem {name : String} (other : name ∉ truthWords) :
    Expression.ofName name = .name name := by
  simp only [truthWords, List.mem_cons, List.not_mem_nil, or_false, not_or] at other
  rw [Expression.ofName, if_neg other.1, if_neg other.2]

theorem evaluate_name {source name : String} {scope : Scope} {cell : Scalar}
    (held : scope name = some cell) :
    evaluate ⟨source, .name name⟩ scope = .ok (.ofScalar cell) := by
  rw [evaluate, Expression.eval, Expression.lookup, held]

/-- A plain name compiles to the tree of that name exactly if it is none of the five words, and then
gives the cell of that name in a row, or the variable of that name where there is no such cell or no
row. The words for the truth values compile to these, and the operators do not compile. -/
theorem compile_plainName {name : String} (plain : isPlainName name = true) :
    (compile name = .ok ⟨name, .name name⟩ ↔ name ∉ operatorWords ∧ name ∉ truthWords) ∧
      (name ∉ operatorWords → name ∉ truthWords → ∃ f, compile name = .ok f ∧
        ∀ (env : Environment) (cell : Scalar),
          (∀ row : Row, row.over env name = some cell →
            f.evaluate (env.scope.withRow row) = .ok (.ofScalar cell)) ∧
          (env.scalar? name = some cell → f.evaluate env.scope = .ok (.ofScalar cell))) ∧
      (name ∈ truthWords → compile name = .ok ⟨name, .truth (name = "true")⟩) ∧
      (name ∈ operatorWords → ∃ position found, compile name =
        .error (.expressionSyntax name position
          (SyntaxProblem.message (.missingValue found)))) := by
  have named (noOperator : name ∉ operatorWords) (noTruth : name ∉ truthWords) :
      compile name = .ok ⟨name, .name name⟩ :=
    ofName_of_not_mem noTruth ▸ compile_of_isPlainName plain noOperator
  refine ⟨⟨fun compiled => ⟨fun operator => ?_, fun word => ?_⟩, fun ⟨one, two⟩ => named one two⟩,
    fun one two => ⟨_, named one two, fun env cell => ⟨fun row held => ?_, evaluate_name⟩⟩,
    compile_of_mem_truthWords, compile_of_mem_operatorWords⟩
  · obtain ⟨position, found, failed⟩ := compile_of_mem_operatorWords operator
    cases compiled.symm.trans failed
  · cases compiled.symm.trans (compile_of_mem_truthWords word)
  · rw [Row.over_eq_withRow] at held
    exact evaluate_name held

def knots : Environment := NameMap.ofList [("not_1", .number 3)]

def bowline : Row := NameMap.ofList [("not_1", .text "bowline")]

theorem compile_plainName_knots :
    isPlainName "not_1" = true ∧ "not_1" ∉ operatorWords ∧ "not_1" ∉ truthWords ∧
      bowline.over knots "not_1" = some (.text "bowline") ∧
      knots.scalar? "not_1" = some (.number 3) ∧
      (∃ f, compile "not_1" = .ok f ∧
        f.evaluate (knots.scope.withRow bowline) = .ok (.text "bowline") ∧
        f.evaluate knots.scope = .ok (.number 3)) ∧
      "true" ∈ truthWords ∧ compile "true" = .ok ⟨"true", .truth true⟩ ∧
      "or" ∈ operatorWords ∧ ∃ position found, compile "or" = .error
        (.expressionSyntax "or" position (SyntaxProblem.message (.missingValue found))) := by
  have plain : isPlainName "not_1" = true := by decide
  have noOperator : "not_1" ∉ operatorWords := by decide
  have noTruth : "not_1" ∉ truthWords := by decide
  have cell : bowline.over knots "not_1" = some (.text "bowline") := rfl
  have value : knots.scalar? "not_1" = some (.number 3) := rfl
  have word : "true" ∈ truthWords := by decide
  have operator : "or" ∈ operatorWords := by decide
  obtain ⟨f, compiled, reads⟩ := (compile_plainName plain).2.1 noOperator noTruth
  exact ⟨plain, noOperator, noTruth, cell, value,
    ⟨f, compiled, (reads knots _).1 bowline cell, (reads knots _).2 value⟩, word,
    (compile_plainName (by decide)).2.2.1 word, operator,
    (compile_plainName (by decide)).2.2.2 operator⟩

/-- An operator passes for a plain name and cannot be read without backticks. -/
theorem not_compile_plainName_and :
    isPlainName "and" = true ∧
      compile "and" = .error (.expressionSyntax "and" 0 "expected a value, found 'and'") ∧
      ¬ ∀ name, isPlainName name = true → compile name = .ok ⟨name, .name name⟩ := by
  have plain : isPlainName "and" = true := by decide
  have failed : compile "and" =
      .error (.expressionSyntax "and" 0 "expected a value, found 'and'") := rfl
  refine ⟨plain, failed, fun reached => ?_⟩
  cases (reached "and" plain).symm.trans failed

end Formula

end RecipeEngine
