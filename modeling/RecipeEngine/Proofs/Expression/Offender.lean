import RecipeEngine.Expression.Formula
import RecipeEngine.Proofs.Expression.Lexing
import RecipeEngine.Proofs.Expression.Lookahead

namespace RecipeEngine

namespace Parser

open Grammar

/-- The place of the first token that no sentence has after the tokens before it: at the start of
the token; at `stop`, the end of the text, if only the end has no sentence; at the start of a text
without tokens. -/
inductive Offends (stop : Nat) : List Located → Nat → Prop
  | empty : Offends stop [] 0
  | token {before t after} : Viable .conditional (tokens before) →
      ¬ Viable .conditional (tokens (before ++ [t])) → Offends stop (before ++ t :: after) t.start
  | ending {ts} : ts ≠ [] → Viable .conditional (tokens ts) → ¬ Sentence .conditional (tokens ts) →
      Offends stop ts stop

theorem phrase_of_sentence {ts : List Located} (sentence : Sentence .conditional (tokens ts))
    (stop : Nat) : ∃ n e, phrase stop (limit + n) (limit + n) ts = .ok ⟨e, e.height, []⟩ := by
  obtain ⟨depth, e, derivation⟩ := sentence
  have room : limit + (depth + e.height) = 255 + (depth + e.height) + 1 := by
    unfold limit
    omega
  have given : Gives stop (255 + (depth + e.height) + 1) .conditional (255 + (depth + e.height))
      (tokens ts) e := gives_of_derives (by omega) (derivation.deepen (by omega))
  have read := given ts [] rfl (by omega) nofun
  rw [List.append_nil] at read
  refine ⟨depth + e.height, e, ?_⟩
  rw [room]
  exact read

/-- A parser with enough room takes tokens that begin a sentence to their end, with some more tokens
after them. -/
theorem phrase_of_viable {used : List Located} (viable : Viable .conditional (tokens used))
    (stop : Nat) : ∃ more n e,
      phrase stop (limit + n) (limit + n) (used ++ more) = .ok ⟨e, e.height, []⟩ := by
  obtain ⟨more, sentence⟩ := viable
  have located : tokens (used ++ more.map (⟨·, 0⟩)) = tokens used ++ more := by
    simp [tokens, Function.comp_def]
  rw [← located] at sentence
  exact ⟨_, phrase_of_sentence sentence stop⟩

variable {stop : Nat} {ts : List Located} {why : SyntaxError}

/-- What a phrase has read or refused, it reads or refuses again with more room. -/
theorem phrase_retraces (stop : Nat) (ts : List Located) :
    Retraces stop (Viable .conditional) ts (phrase stop limit limit ts)
      (fun n => phrase stop (limit + n) (limit + n)) :=
  have positive : 0 < limit := by decide
  (phrase_operand_retraces positive limit).1 ts

/-- A parser that has refused the tokens refuses all others that begin alike, up to the first token
not read. -/
theorem offends_of_refused {used later : List Located} (some : used ++ later ≠ [])
    (viable : Viable .conditional (tokens used))
    (again : ∀ n later', look later' = look later → ∀ e,
      phrase stop (limit + n) (limit + n) (used ++ later') ≠ .ok ⟨e, e.height, []⟩) :
    Offends stop (used ++ later) (position stop later) := by
  cases later with
  | nil =>
    rw [List.append_nil] at some ⊢
    refine .ending some viable fun sentence => ?_
    obtain ⟨n, e, accepted⟩ := phrase_of_sentence sentence stop
    rw [← List.append_nil used] at accepted
    exact again n [] rfl e accepted
  | cons t after =>
    refine .token viable fun viable => ?_
    obtain ⟨more, n, e, accepted⟩ := phrase_of_viable viable stop
    rw [List.append_assoc] at accepted
    exact again n ([t] ++ more) rfl e accepted

/-- An error of the parser is before some of the tokens. Unless it is for depth, those read so far
begin a sentence, and no parser with more room takes them with others that begin alike. -/
theorem refused_of_parse (some : ts ≠ []) (refused : parse stop ts = .error why) :
    ∃ used later, ts = used ++ later ∧ why.position = position stop later ∧
      (why.problem = .nestedTooDeeply ∨ Viable .conditional (tokens used) ∧
        ∀ n later', look later' = look later → ∀ e,
          phrase stop (limit + n) (limit + n) (used ++ later') ≠ .ok ⟨e, e.height, []⟩) := by
  have retraces := phrase_retraces stop ts
  obtain ⟨first, rest, whole⟩ := List.exists_cons_of_ne_nil some
  rw [whole] at refused
  simp only [parse] at refused
  rw [← whole] at refused
  cases read : phrase stop limit limit ts with
  | error why' =>
    simp only [read, Except.error.injEq] at refused
    subst refused
    obtain ⟨used, later, split, place, tooDeep | ⟨viable, again⟩⟩ := retraces.fails read
    · exact ⟨used, later, split, place, .inl tooDeep⟩
    · refine ⟨used, later, split, place, .inr ⟨viable, fun n later' alike e accepted => ?_⟩⟩
      obtain ⟨_, stopped⟩ := again n later' alike
      cases stopped.symm.trans accepted
  | ok parsed =>
    simp only [read] at refused
    obtain ⟨_, -, taken⟩ := (phrase_operand_sound (by decide) limit).1 read
    obtain ⟨used, split, again⟩ := retraces.reads read
    have viable := Starts.of_mem (taken.sentence split)
    rw [rest_parsed] at split again
    split at refused
    · cases refused
    · rename_i extra tail left
      cases refused
      rw [left] at split again
      refine ⟨used, extra :: tail, split, rfl, .inr ⟨viable, fun n later' alike e accepted => ?_⟩⟩
      have same : later' = [] :=
        congrArg Parsed.rest (Except.ok.inj ((again n later' alike).symm.trans accepted))
      rw [same] at alike
      cases alike

/-- What the parser refuses for another reason than depth, it refuses at the first token that no
sentence has in its place. -/
theorem offends_of_parse (refused : parse stop ts = .error why)
    (shallow : why.problem ≠ .nestedTooDeeply) : Offends stop ts why.position := by
  by_cases none : ts = []
  · subst none
    cases refused
    exact .empty
  · obtain ⟨used, later, rfl, place, tooDeep | ⟨viable, again⟩⟩ := refused_of_parse none refused
    · exact absurd tooDeep shallow
    · rw [place]
      exact offends_of_refused none viable again

/-- Every error of the parser is where a token starts or at an end of the text. -/
theorem position_of_parse (refused : parse stop ts = .error why) :
    why.position = 0 ∨ why.position = stop ∨ ∃ t ∈ ts, why.position = t.start := by
  by_cases none : ts = []
  · subst none
    cases refused
    exact .inl rfl
  · obtain ⟨used, later, rfl, place, -⟩ := refused_of_parse none refused
    cases later with
    | nil => exact .inr (.inl place)
    | cons t after => exact .inr (.inr ⟨t, by simp, place⟩)

end Parser

namespace Lexer

theorem boundary_of_tokensFrom {skip position : Nat} {cs : List Char} {why : SyntaxError}
    (refused : tokensFrom skip position cs = .error why) :
    ∃ before after, cs = before ++ after ∧ why.position = position + byteCount before := by
  induction cs generalizing skip position with
  | nil => cases skip <;> cases refused
  | cons c rest ih =>
    have later : ∀ skip', tokensFrom skip' (position + c.utf8Size) rest = .error why →
        ∃ before after, c :: rest = before ++ after ∧
          why.position = position + byteCount before := by
      intro skip' refused
      obtain ⟨before, after, rfl, place⟩ := ih refused
      exact ⟨c :: before, after, rfl, by rw [place, byteCount_cons, Nat.add_assoc]⟩
    cases skip with
    | succ skip => exact later skip refused
    | zero =>
      rw [tokensFrom] at refused
      split at refused
      · exact later 0 refused
      · split at refused
        · cases refused
          exact ⟨[], c :: rest, rfl, rfl⟩
        · split at refused
          · rename_i failed
            cases refused
            exact later _ failed
          · cases refused

end Lexer

namespace Formula

open Lexer (IsBoundary byteCount)

/-- Every error of a source text is where a character starts, or at the end. -/
theorem boundary_of_ofSource {source : List Char} {why : SyntaxError}
    (refused : Expression.ofSource source = .error why) : IsBoundary source why.position := by
  unfold Expression.ofSource at refused
  split at refused
  · rename_i failed
    cases refused
    obtain ⟨before, after, split, place⟩ := Lexer.boundary_of_tokensFrom failed
    exact ⟨before, after, split, by rw [place, Nat.zero_add]⟩
  · rename_i ts lexed
    rcases Parser.position_of_parse refused with start | atEnd | ⟨t, member, place⟩
    · exact ⟨[], source, rfl, start.symm⟩
    · exact ⟨source, [], (List.append_nil source).symm, atEnd.symm⟩
    · rw [place]
      exact Lexer.start_boundary lexed member

/-- The errors of an expression point at what is wrong. The parser refuses a list of tokens, unless
for depth, at the first token that no sentence has in its place; and every error of a source text,
the lexer's as well, is at a byte offset of the text that no character spans. -/
theorem errors_point_at_offender :
    (∀ stop ts why, Parser.parse stop ts = .error why → why.problem ≠ .nestedTooDeeply →
      Parser.Offends stop ts why.position) ∧
    ∀ source failure, compile source = .error failure →
      ∃ why, Expression.ofSource source.toList = .error why ∧
        failure = .expressionSyntax source why.position why.problem.message ∧
        IsBoundary source.toList why.position ∧ why.position ≤ byteCount source.toList := by
  refine ⟨fun stop ts why => Parser.offends_of_parse, fun source failure refused => ?_⟩
  unfold compile at refused
  split at refused
  · rename_i why failed
    cases refused
    have boundary := boundary_of_ofSource failed
    exact ⟨why, failed, rfl, boundary, boundary.le_byteCount⟩
  · cases refused

/-- The tokens of a sum whose second operand is missing before a product. -/
def gap : List Located :=
  [⟨.name "é", 0⟩, ⟨.symbol .plus, 3⟩, ⟨.symbol .star, 5⟩, ⟨.name "b", 7⟩]

theorem errors_point_at_offender_gap :
    Lexer.tokens "é + * b".toList = .ok gap ∧
      Parser.parse 8 gap = .error ⟨5, .missingValue (some (.symbol .star))⟩ ∧
      Parser.Offends 8 gap 5 ∧
      ∃ why, Expression.ofSource "é + * b".toList = .error why ∧ why.position = 5 ∧
        IsBoundary "é + * b".toList why.position ∧ why.position ≤ byteCount "é + * b".toList := by
  have lexed : Lexer.tokens "é + * b".toList = .ok gap := by decide +kernel
  have parsed : Parser.parse 8 gap = .error ⟨5, .missingValue (some (.symbol .star))⟩ := by rfl
  have shallow : SyntaxProblem.missingValue (some (.symbol .star)) ≠ .nestedTooDeeply := by simp
  have refused : Expression.ofSource "é + * b".toList =
      .error ⟨5, .missingValue (some (.symbol .star))⟩ := by
    rw [Expression.ofSource, lexed]
    exact parsed
  have failed : compile "é + * b" =
      .error (.expressionSyntax "é + * b" 5 "expected a value, found '*'") := by
    rw [compile, refused]
    rfl
  obtain ⟨why, given, -, boundary, within⟩ := errors_point_at_offender.2 _ _ failed
  cases refused.symm.trans given
  exact ⟨lexed, parsed, errors_point_at_offender.1 8 gap _ parsed shallow, _, refused, rfl,
    boundary, within⟩

end Formula

end RecipeEngine
