import RecipeEngine.Proofs.Expression.Literal
import RecipeEngine.Proofs.Number.Shortest

namespace RecipeEngine

open Numeral Text

namespace Token

def escaped (c : Char) : List Char :=
  if c = '\\' ∨ c = '"' then ['\\', c] else [c]

def source : Token → List Char
  | .number x => (NumberFormat.plain x).toList
  | .text s => '"' :: (s.toList.flatMap escaped ++ ['"'])
  | .name s => '\x60' :: (s.toList ++ ['\x60'])
  | .symbol s => s.spelling.toList

def sources (ts : List Token) : List Char :=
  [' '].intercalate (ts.map source)

/-- The tokens that have a source text of their own: finite numbers from zero on, the negative zero
excepted, and names without a backtick. -/
def IsLexical : Token → Prop
  | .number x => x.isFinite = true ∧ 0 ≤ x ∧ x ≠ -0.0
  | .name s => '\x60' ∉ s.toList
  | .text _ | .symbol _ => True

instance : DecidablePred IsLexical := fun t =>
  match t with
  | .number x => inferInstanceAs (Decidable (x.isFinite = true ∧ 0 ≤ x ∧ x ≠ -0.0))
  | .name s => inferInstanceAs (Decidable ('\x60' ∉ s.toList))
  | .text _ => inferInstanceAs (Decidable True)
  | .symbol _ => inferInstanceAs (Decidable True)

end Token

namespace Lexer

theorem textTail_escaped (cs : List Char) :
    textTail '"' (cs.flatMap Token.escaped ++ ['"']) =
      some (cs, (cs.flatMap Token.escaped ++ ['"']).length) := by
  induction cs with
  | nil => rfl
  | cons c cs ih =>
    rw [List.flatMap_cons, List.append_assoc, Token.escaped]
    split
    · rename_i special
      have same : unescape c = c := by rcases special with rfl | rfl <;> decide
      rw [List.cons_append, List.cons_append, textTail, List.nil_append, ih, Option.map_some, same]
      rfl
    · rename_i ordinary
      obtain ⟨plain, other⟩ := not_or.mp ordinary
      rw [List.cons_append, textTail_cons plain, if_neg other, List.nil_append, ih]
      rfl

theorem quotedNameTail_append {cs : List Char} (plain : '\x60' ∉ cs) :
    quotedNameTail (cs ++ ['\x60']) = some (cs, (cs ++ ['\x60']).length) := by
  induction cs with
  | nil => rfl
  | cons c cs ih =>
    obtain ⟨other, later⟩ := not_or.mp (mt List.mem_cons.mpr plain)
    rw [List.cons_append, quotedNameTail, if_neg (Ne.symm other), ih later]
    rfl

theorem tokens_single {c : Char} {rest : List Char} {token : Token} (visible : ¬ isBlank c = true)
    (read : lexeme c rest = .ok (token, rest.length)) : tokens (c :: rest) = .ok [⟨token, 0⟩] := by
  rw [tokens, ← List.append_nil rest,
    tokensFrom_lexeme visible (by rw [List.append_nil]; exact read)]
  rfl

theorem tokens_source {t : Token} (lexical : t.IsLexical) : tokens t.source = .ok [⟨t, 0⟩] := by
  cases t with
  | number x =>
    obtain ⟨finite, atLeast, other⟩ := lexical
    obtain ⟨n, body, spelled, text, value⟩ := NumberFormat.plain_spells finite
    rw [Dyadic.isNegative_eq_false finite atLeast other] at text value
    obtain ⟨c, rest, rfl, begins⟩ := spelled.begins
    have read := lexeme_numeral spelled ends_nil
    rw [List.append_nil, value] at read
    rw [Token.source, text, String.toList_ofList, if_neg Bool.false_ne_true]
    exact tokens_single (not_isBlank_of_begins begins) read
  | text s =>
    refine tokens_single (by decide) ?_
    rw [lexeme, if_neg (by decide), if_pos (by decide), textTail_escaped]
    dsimp only
    rw [String.ofList_toList]
  | name s =>
    refine tokens_single (by decide) ?_
    rw [lexeme, if_neg (by decide), if_neg (by decide), if_pos rfl, quotedNameTail_append lexical]
    dsimp only
    rw [String.ofList_toList]
  | symbol s => cases s <;> decide +kernel

/-- A rendered list of tokens is lexed as the tokens that it renders. -/
theorem tokens_sources {ts : List Token} (lexical : ∀ t ∈ ts, t.IsLexical) :
    (tokens (Token.sources ts)).map (List.map Located.token) = .ok ts := by
  induction ts with
  | nil => rfl
  | cons t ts ih =>
    obtain ⟨first, later⟩ := List.forall_mem_cons.mp lexical
    have alone := tokens_source first
    cases ts with
    | nil =>
      have whole : Token.sources [t] = t.source := List.append_nil _
      rw [whole, alone]
      rfl
    | cons u ts =>
      have joined : Token.sources (t :: u :: ts) =
          t.source ++ ' ' :: Token.sources (u :: ts) := by
        simp [Token.sources, List.intercalate]
      have rest := ih later
      rw [joined, tokens_append alone (by decide)]
      cases lexed : tokens (Token.sources (u :: ts)) with
      | error why =>
        rw [lexed] at rest
        cases rest
      | ok located =>
        rw [lexed] at rest
        have same : located.map Located.token = u :: ts := Except.ok.inj rest
        rw [← same]
        simp [Except.map, Located.shift]

/-- Some tokens whose texts hold what has a meaning elsewhere: a blank, a word, an escape. -/
def phrases : List Token :=
  [.name "not 1", .symbol .lessEqual, .number 0.1, .symbol .and, .text "\\n\"or", .symbol .less,
    .symbol .equal]

theorem tokens_sources_phrases :
    Token.sources phrases = "`not 1` <= 0.1 and \"\\\\n\\\"or\" < ==".toList ∧
      (∀ t ∈ phrases, t.IsLexical) ∧
      (tokens (Token.sources phrases)).map (List.map Located.token) = .ok phrases := by
  have lexical : ∀ t ∈ phrases, t.IsLexical := by decide +kernel
  exact ⟨by decide +kernel, lexical, tokens_sources lexical⟩

/-- The text of the negative zero has a sign, which is a token of its own. -/
theorem not_tokens_sources_negativeZero :
    (-0.0 : Float).isFinite = true ∧ (0 : Float) ≤ -0.0 ∧
      tokens (Token.sources [.number (-0.0)]) = .ok [⟨.symbol .minus, 0⟩, ⟨.number 0.0, 1⟩] ∧
      (tokens (Token.sources [.number (-0.0)])).map (List.map Located.token) ≠
        .ok [.number (-0.0)] := by
  have signed : tokens (Token.sources [.number (-0.0)]) =
      .ok [⟨.symbol .minus, 0⟩, ⟨.number 0.0, 1⟩] := by decide +kernel
  refine ⟨by decide, by decide, signed, ?_⟩
  rw [signed]
  exact nofun

end Lexer

end RecipeEngine
