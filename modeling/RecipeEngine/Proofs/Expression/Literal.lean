import RecipeEngine.Expression.Formula
import RecipeEngine.Proofs.Expression.Lexing
import RecipeEngine.Proofs.Expression.Parsing
import RecipeEngine.Proofs.Number.Negation

namespace RecipeEngine

open Numeral Text

namespace Lexer

theorem numberTail_plain {cs : List Char} (plain : ∀ c ∈ cs, (c.isDigit || c = '.') = true)
    (exponent : Bool) (rest : List Char) :
    numberTail exponent false (cs ++ rest) = cs ++ numberTail exponent false rest := by
  induction cs with
  | nil => rfl
  | cons c cs ih =>
    obtain ⟨first, later⟩ := List.forall_mem_cons.mp plain
    rw [List.cons_append, numberTail, if_pos first, ih later, List.cons_append]

theorem numberTail_digits {digits : List Char} (isDigits : Digits digits) (exponent : Bool)
    (rest : List Char) :
    numberTail exponent false (digits ++ rest) = digits ++ numberTail exponent false rest :=
  numberTail_plain (fun c member => by simp [isDigits c member]) exponent rest

/-- After the letter a sign is taken, if there is one, and then the digits. -/
theorem numberTail_power {negative : Bool} {sign digits rest : List Char}
    (signed : SpellsSign negative sign) (isDigits : Digits digits) (some : digits ≠ [])
    (ends : Ends Char.isDigit rest) :
    numberTail true true (sign ++ (digits ++ rest)) = sign ++ digits := by
  have taken : numberTail true false (digits ++ rest) = digits := by
    rw [numberTail_digits isDigits, numberTail_ends ends, List.append_nil]
  cases signed with
  | plus | minus => exact congrArg (List.cons _) taken
  | none =>
    obtain ⟨c, tail, rfl⟩ := List.exists_cons_of_ne_nil some
    have first : (c.isDigit || c = '.') = true := by simp [isDigits c List.mem_cons_self]
    rw [List.cons_append, numberTail, if_pos first] at taken
    rw [List.nil_append, List.cons_append, numberTail, if_pos first, taken]
    rfl

theorem numberTail_exponent {power : Option (Bool × List Char)} {exponent rest : List Char}
    (spelled : SpellsPower power exponent) (ends : Ends Char.isDigit rest) :
    numberTail false false (exponent ++ rest) = exponent := by
  cases spelled with
  | none => exact numberTail_ends ends false false
  | letter isLetter signed isDigits some =>
    have taken := numberTail_power signed isDigits some ends
    rw [List.cons_append, List.append_assoc]
    rcases isLetter with rfl | rfl <;> exact congrArg (List.cons _) taken

theorem numberTail_fraction {fraction point : List Char} (spelled : SpellsFraction fraction point)
    (rest : List Char) :
    numberTail false false (point ++ rest) = point ++ numberTail false false rest := by
  cases spelled with
  | none => rfl
  | point isDigits => exact congrArg (List.cons _) (numberTail_digits isDigits false rest)

theorem numberTail_numeral {n : Numeral} {body rest : List Char} (spelled : Spells n body)
    (ends : Ends Char.isDigit rest) : numberTail false false (body ++ rest) = body := by
  cases spelled with
  | parts isDigits point exponent =>
    rw [List.append_assoc, List.append_assoc, numberTail_digits isDigits,
      numberTail_fraction point, numberTail_exponent exponent ends]

theorem lexeme_numeral {n : Numeral} {c : Char} {tail rest : List Char}
    (spelled : Spells n (c :: tail)) (ends : Ends Char.isDigit rest) :
    lexeme c (tail ++ rest) = .ok (.number (n.value.toFloat false), tail.length) := by
  obtain ⟨_, _, same, begins⟩ := spelled.begins
  cases same
  have first : (c.isDigit || c = '.') = true := by simpa using begins
  have taken := numberTail_numeral spelled ends
  rw [List.cons_append, numberTail, if_pos first, List.cons.injEq] at taken
  have read : readAll? (c :: tail) = some (n.value.toFloat false) :=
    readAll?_eq_some_iff.mpr ⟨false, n, .parts .none spelled, rfl⟩
  rw [lexeme, if_pos first, taken.2]
  dsimp only
  rw [read]

theorem tokensFrom_numeral {n : Numeral} {body right : List Char} (spelled : Spells n body)
    (blanks : Blanks right) (position : Nat) :
    tokensFrom 0 position (body ++ right) = .ok [⟨.number (n.value.toFloat false), position⟩] := by
  obtain ⟨c, tail, rfl, begins⟩ := spelled.begins
  rw [List.cons_append, tokensFrom, if_neg (not_isBlank_of_begins begins),
    lexeme_numeral spelled ((ends_of_blanks blanks).ascii isDigitClass_isDecimalDigit)]
  dsimp only
  rw [tokensFrom_length, tokensFrom_allBlank blanks]

theorem tokensFrom_sign {c : Char} {s : Symbol} (visible : ¬ isBlank c = true)
    {rest : List Char} (read : lexeme c rest = .ok (.symbol s, 0)) {position : Nat}
    {ts : List Located} (later : tokensFrom 0 (position + c.utf8Size) rest = .ok ts) :
    tokensFrom 0 position (c :: rest) = .ok (⟨.symbol s, position⟩ :: ts) := by
  rw [tokensFrom, if_neg visible, read]
  dsimp only
  rw [later]

end Lexer

namespace Parser

open Grammar

theorem parse_number (stop position : Nat) (x : Float) :
    parse stop [⟨.number x, position⟩] = .ok (.number x) :=
  parse_eq_ok_iff.mpr ⟨.alone (.noPrefix (.noExponent .number)), by simp [Expression.height]⟩

theorem parse_signed {s : Symbol} {op : UnaryOp} (member : (s, op) ∈ before)
    (stop position position' : Nat) (x : Float) :
    parse stop [⟨.symbol s, position⟩, ⟨.number x, position'⟩] = .ok (.unary op (.number x)) :=
  parse_eq_ok_iff.mpr
    ⟨.alone (.prefixed member (.noPrefix (.noExponent .number))), by simp [Expression.height]⟩

end Parser

theorem Expression.ofSource_of_tokens {cs : List Char} {ts : List Located} {e : Expression}
    (lexed : Lexer.tokens cs = .ok ts) (parsed : ∀ stop, Parser.parse stop ts = .ok e) :
    Expression.ofSource cs = .ok e := by
  rw [ofSource, lexed]
  exact parsed _

/-- A signed numeral between white space is an expression whose answer is the number it writes. -/
theorem Expression.ofSource_of_writes {cs : List Char} {negative : Bool} {n : Numeral}
    (written : Writes negative n (trimChars cs)) :
    ∃ e, Expression.ofSource cs = .ok e ∧
      ∀ scope, e.eval scope = .ok (.number (n.value.toFloat negative)) := by
  obtain ⟨left, right, leftBlanks, rightBlanks, whole, dropped⟩ := exists_blanks_trimChars cs
  rw [dropped] at whole
  generalize trimChars cs = middle at written whole
  obtain ⟨signed, spelled⟩ := written
  have started : Lexer.tokens cs = _ := (congrArg (Lexer.tokensFrom 0 0) whole).trans
    (Lexer.tokensFrom_blanks leftBlanks 0 _)
  rw [List.append_assoc] at started
  cases signed with
  | none =>
    have lexed := started.trans (Lexer.tokensFrom_numeral spelled rightBlanks _)
    exact ⟨_, ofSource_of_tokens lexed fun stop => Parser.parse_number stop _ _, fun _ => rfl⟩
  | plus =>
    have lexed := started.trans (Lexer.tokensFrom_sign (by decide) rfl
      (Lexer.tokensFrom_numeral spelled rightBlanks _))
    have operator : (Symbol.plus, UnaryOp.plus) ∈ Grammar.before := by decide
    exact ⟨_, ofSource_of_tokens lexed fun stop => Parser.parse_signed operator stop _ _ _,
      fun _ => rfl⟩
  | minus =>
    have lexed := started.trans (Lexer.tokensFrom_sign (by decide) rfl
      (Lexer.tokensFrom_numeral spelled rightBlanks _))
    have operator : (Symbol.minus, UnaryOp.negate) ∈ Grammar.before := by decide
    refine ⟨_, ofSource_of_tokens lexed fun stop => Parser.parse_signed operator stop _ _ _,
      fun scope => ?_⟩
    rw [← Decimal.neg_toFloat]
    rfl

end RecipeEngine
