import RecipeEngine.Expression.Lexer
import RecipeEngine.Expression.Parser
import RecipeEngine.Proofs.Number.Reading

namespace RecipeEngine

open Numeral Text

namespace Text

theorem inRanges_of_isLetterOrNumber {c : Char} (inWord : isLetterOrNumber c = true) :
    inRanges ((48, 57) :: (65, 90) :: (97, 122) :: (alphabeticRanges ++ numericRanges))
      c.toNat = true := by
  unfold isLetterOrNumber at inWord
  split at inWord
  · rw [inRanges_iff]
    rcases Bool.or_eq_true_iff.mp inWord with letter | digit
    · rcases Bool.or_eq_true_iff.mp letter with upper | lower
      · exact ⟨(65, 90), by simp, of_decide_eq_true upper⟩
      · obtain ⟨least, most⟩ := Bool.and_eq_true_iff.mp lower
        exact ⟨(97, 122), by simp, of_decide_eq_true least, of_decide_eq_true most⟩
    · exact ⟨(48, 57), by simp, toNat_of_isDigit digit⟩
  · simpa [inRanges, or_assoc] using Or.inr (Or.inr (Or.inr inWord))

theorem not_isLetterOrNumber_of_isBlank {c : Char} (blank : isBlank c = true) :
    isLetterOrNumber c = false := by
  rw [← Bool.not_eq_true]
  intro inWord
  have apart : ∀ first ∈ blankRanges,
      ∀ last ∈ (48, 57) :: (65, 90) :: (97, 122) :: (alphabeticRanges ++ numericRanges),
      first.2 < last.1 ∨ last.2 < first.1 := by decide +kernel
  have none := inRanges_eq_false apart blank
  rw [inRanges_of_isLetterOrNumber inWord] at none
  cases none

end Text

/-- A token of a text that stands `offset` bytes further on. -/
def Located.shift (offset : Nat) (t : Located) : Located :=
  ⟨t.token, offset + t.start⟩

/-- A problem of a text that stands `offset` bytes further on. -/
def SyntaxError.shift (offset : Nat) (why : SyntaxError) : SyntaxError :=
  ⟨offset + why.position, why.problem⟩

namespace Lexer

theorem not_continuesName_of_isBlank {c : Char} (blank : isBlank c = true) :
    continuesName c = false := by
  have inRange : c ≠ '_' := by
    rintro rfl
    exact absurd blank (by decide)
  simp [continuesName, not_isLetterOrNumber_of_isBlank blank, inRange]

/-- A text that may stand in the place of another one after a lexeme: it is empty, begins with white
space, or begins as the other does. -/
def Replaces (after' after : List Char) : Prop :=
  ∀ c ∈ after'.head?, isBlank c = true ∨ c ∈ after.head?

/-- A reader looks at the first `count` characters of a text and at what follows them only so far
as to see that it ends or goes on. -/
def LooksAt {α : Type} (read : List Char → α) (cs : List Char) (count : Nat) : Prop :=
  ∃ used after, cs = used ++ after ∧ used.length = count ∧
    ∀ after', Replaces after' after → read (used ++ after') = read cs

theorem numberTail_ends {rest : List Char} (ends : Ends Char.isDigit rest)
    (exponent signed : Bool) : numberTail exponent signed rest = [] := by
  cases rest with
  | nil => rfl
  | cons c tail =>
    obtain ⟨noDigit, noMark⟩ := ends c rfl
    simp only [IsMark, not_or] at noMark
    simp [numberTail, noDigit, noMark]

theorem numberTail_cons (exponent signed : Bool) (c : Char) :
    (∀ rest, numberTail exponent signed (c :: rest) = []) ∨
      ∃ exponent' signed', ∀ rest,
        numberTail exponent signed (c :: rest) = c :: numberTail exponent' signed' rest := by
  simp only [numberTail]
  split
  · exact .inr ⟨_, _, fun _ => rfl⟩
  · split
    · exact .inr ⟨_, _, fun _ => rfl⟩
    · split
      · exact .inr ⟨_, _, fun _ => rfl⟩
      · exact .inl fun _ => rfl

theorem Replaces.numberTail_eq_nil {after after' : List Char} (replaces : Replaces after' after)
    {exponent signed : Bool} (ended : numberTail exponent signed after = []) :
    numberTail exponent signed after' = [] := by
  cases after' with
  | nil => rfl
  | cons c rest =>
    rcases replaces c rfl with blank | same
    · refine numberTail_ends (fun d head => ?_) exponent signed
      cases head
      refine ⟨?_, not_mark_of_isBlank blank⟩
      rw [← Bool.not_eq_true]
      exact fun isDigit => not_isBlank_of_begins (.inl isDigit) blank
    · obtain ⟨tail, rfl⟩ := List.head?_eq_some_iff.mp same
      rcases numberTail_cons exponent signed c with stops | ⟨_, _, goesOn⟩
      · exact stops rest
      · rw [goesOn] at ended
        cases ended

theorem numberTail_looksAt (exponent signed : Bool) (cs : List Char) :
    LooksAt (numberTail exponent signed) cs (numberTail exponent signed cs).length := by
  induction cs generalizing exponent signed with
  | nil => exact ⟨[], [], rfl, rfl, fun after' replaces => replaces.numberTail_eq_nil rfl⟩
  | cons c rest ih =>
    rcases numberTail_cons exponent signed c with stops | ⟨exponent', signed', goesOn⟩
    · refine ⟨[], c :: rest, rfl, by rw [stops, List.length_nil], fun after' replaces => ?_⟩
      rw [stops]
      exact replaces.numberTail_eq_nil (stops rest)
    · obtain ⟨used, after, rfl, count, again⟩ := ih exponent' signed'
      refine ⟨c :: used, after, rfl, by rw [goesOn, List.length_cons, List.length_cons, count],
        fun after' replaces => ?_⟩
      rw [List.cons_append, goesOn, goesOn, again after' replaces]

theorem textTail_cons {quote c : Char} (plain : c ≠ '\\') (rest : List Char) :
    textTail quote (c :: rest) = if c = quote then some ([], 1)
      else (textTail quote rest).map fun (chars, count) => (c :: chars, count + 1) := by
  rw [textTail]
  · rintro rfl
    exact absurd rfl plain
  · rintro d tail rfl
    exact absurd rfl plain

theorem textTail_looksAt {quote : Char} {cs chars : List Char} {count : Nat}
    (read : textTail quote cs = some (chars, count)) : LooksAt (textTail quote) cs count := by
  fun_induction textTail quote cs generalizing chars count with
  | case1 => cases read
  | case2 => cases read
  | case3 c rest ih =>
    obtain ⟨⟨chars, count⟩, inner, same⟩ := Option.map_eq_some_iff.mp read
    cases same
    obtain ⟨used, after, rfl, length, again⟩ := ih inner
    refine ⟨'\\' :: c :: used, after, rfl, by simp [length], fun after' replaces => ?_⟩
    simp only [List.cons_append, textTail, again after' replaces]
  | case4 rest last escaped =>
    cases read
    have plain : quote ≠ '\\' := by
      intro backslash
      cases rest with
      | nil => exact last backslash rfl
      | cons d tail => exact escaped d tail backslash rfl
    refine ⟨[quote], rest, rfl, rfl, fun after' replaces => ?_⟩
    simp only [List.cons_append, textTail_cons plain, if_pos]
  | case5 c rest last escaped other ih =>
    have plain : c ≠ '\\' := by
      intro backslash
      cases rest with
      | nil => exact last backslash rfl
      | cons d tail => exact escaped d tail backslash rfl
    obtain ⟨⟨chars, count⟩, inner, same⟩ := Option.map_eq_some_iff.mp read
    cases same
    obtain ⟨used, after, rfl, length, again⟩ := ih inner
    refine ⟨c :: used, after, rfl, by simp [length], fun after' replaces => ?_⟩
    simp only [List.cons_append, textTail_cons plain, if_neg other, again after' replaces]

theorem quotedNameTail_looksAt {cs chars : List Char} {count : Nat}
    (read : quotedNameTail cs = some (chars, count)) : LooksAt quotedNameTail cs count := by
  induction cs generalizing chars count with
  | nil => cases read
  | cons c rest ih =>
    rw [quotedNameTail] at read
    split at read
    · rename_i backtick
      cases read
      refine ⟨[c], rest, rfl, rfl, fun after' _ => ?_⟩
      simp only [List.cons_append, quotedNameTail, if_pos backtick]
    · rename_i other
      obtain ⟨⟨chars, count⟩, inner, same⟩ := Option.map_eq_some_iff.mp read
      cases same
      obtain ⟨used, after, rfl, length, again⟩ := ih inner
      refine ⟨c :: used, after, rfl, by simp [length], fun after' replaces => ?_⟩
      simp only [List.cons_append, quotedNameTail, if_neg other, again after' replaces]

theorem takeWhile_looksAt (cs : List Char) :
    LooksAt (List.takeWhile continuesName) cs (cs.takeWhile continuesName).length := by
  refine ⟨cs.takeWhile continuesName, cs.dropWhile continuesName,
    List.takeWhile_append_dropWhile.symm, rfl, fun after' replaces => ?_⟩
  refine takeWhile_eq_left (fun c member => List.mem_takeWhile_imp member) fun c head => ?_
  rcases replaces c head with blank | same
  · exact not_continuesName_of_isBlank blank
  · have stopped := List.head?_dropWhile_not continuesName cs
    rw [Option.mem_def.mp same] at stopped
    exact stopped

/-- Only an equals sign makes another symbol of a symbol that stands alone. -/
theorem symbol?_alone {c : Char} {next : Option Char} {s : Symbol} {count : Nat}
    (read : symbol? c next = some (s, count)) :
    (count = 1 ∧ ∃ d, next = some d) ∨
      count = 0 ∧ ∀ next', (next' = some '=' → next = some '=') → symbol? c next' = some (s, 0) := by
  fun_cases symbol? c next
  case case21 => simp_all [symbol?]
  case case14 single | case16 single | case18 single =>
    simp only [symbol?, Option.some.injEq, Prod.mk.injEq] at read
    obtain ⟨rfl, rfl⟩ := read
    refine .inr ⟨rfl, fun next' follows => ?_⟩
    have single' : next' ≠ some '=' := fun second => single (follows second)
    simp [symbol?]
  all_goals cases read
  case case12 | case13 | case15 | case17 | case19 | case20 => exact .inl ⟨rfl, _, rfl⟩
  all_goals exact .inr ⟨rfl, fun _ _ => rfl⟩

theorem symbol?_looksAt {c : Char} {cs : List Char} {s : Symbol} {count : Nat}
    (read : symbol? c cs.head? = some (s, count)) :
    LooksAt (fun cs => symbol? c cs.head?) cs count := by
  rcases symbol?_alone read with ⟨rfl, d, head⟩ | ⟨rfl, alone⟩
  · obtain ⟨tail, rfl⟩ := List.head?_eq_some_iff.mp head
    exact ⟨[d], tail, rfl, rfl, fun _ _ => rfl⟩
  · refine ⟨[], cs, rfl, rfl, fun after' replaces => ?_⟩
    dsimp only
    rw [read]
    refine alone _ fun equals => (replaces '=' equals).resolve_left ?_
    decide

/-- A reader that goes by the answer of another one looks at no more. -/
theorem LooksAt.trans {α β : Type} {read : List Char → α} {again : List Char → β} {cs : List Char}
    {count : Nat} (looks : LooksAt read cs count)
    (goesBy : ∀ cs', read cs' = read cs → again cs' = again cs) : LooksAt again cs count := by
  obtain ⟨used, after, rfl, length, same⟩ := looks
  exact ⟨used, after, rfl, length, fun after' replaces => goesBy _ (same after' replaces)⟩

/-- A lexeme is decided by its own characters and by whether the next character belongs to it. -/
theorem lexeme_looksAt {c : Char} {cs : List Char} {token : Token} {count : Nat}
    (read : lexeme c cs = .ok (token, count)) : LooksAt (lexeme c) cs count := by
  unfold lexeme at read
  split at read
  · rename_i isNumber
    dsimp only at read
    split at read
    · cases read
      exact (numberTail_looksAt false false cs).trans fun cs' same => by
        simp only [lexeme, if_pos isNumber, same]
    · cases read
  · rename_i notNumber
    split at read
    · rename_i isQuote
      split at read
      · rename_i chars _ taken
        cases read
        exact (textTail_looksAt taken).trans fun cs' same => by
          simp only [lexeme, if_neg notNumber, if_pos isQuote, same]
      · cases read
    · rename_i notQuote
      split at read
      · rename_i isBacktick
        split at read
        · rename_i chars _ taken
          cases read
          exact (quotedNameTail_looksAt taken).trans fun cs' same => by
            simp only [lexeme, if_neg notNumber, if_neg notQuote, if_pos isBacktick, same]
        · cases read
      · rename_i notBacktick
        split at read
        · rename_i startsWord
          cases read
          exact (takeWhile_looksAt cs).trans fun cs' same => by
            simp only [lexeme, if_neg notNumber, if_neg notQuote, if_neg notBacktick,
              if_pos startsWord, same]
        · rename_i notWord
          split at read
          · rename_i s _ taken
            cases read
            exact (symbol?_looksAt taken).trans fun cs' same => by
              simp only [lexeme, if_neg notNumber, if_neg notQuote, if_neg notBacktick,
                if_neg notWord, same]
          · cases read

/-- A lexeme is read alike before any text that replaces what follows it. -/
theorem lexeme_replaces {c : Char} {used after after' : List Char} {token : Token}
    (read : lexeme c (used ++ after) = .ok (token, used.length))
    (replaces : Replaces after' after) : lexeme c (used ++ after') = .ok (token, used.length) := by
  obtain ⟨taken, rest, split, length, same⟩ := lexeme_looksAt read
  obtain ⟨rfl, rfl⟩ := List.append_inj split length.symm
  rw [same after' replaces, read]

@[simp] theorem byteCount_nil : byteCount [] = 0 := rfl

@[simp] theorem byteCount_cons (c : Char) (cs : List Char) :
    byteCount (c :: cs) = c.utf8Size + byteCount cs := rfl

@[simp] theorem byteCount_append (left right : List Char) :
    byteCount (left ++ right) = byteCount left + byteCount right := by
  induction left with
  | nil => simp
  | cons c left ih => simp [ih, Nat.add_assoc]

/-- The tokens of a text that stands at a byte offset: white space is passed over, and every lexeme
gives one token, at the offset of its first character. -/
inductive Lexes : Nat → List Char → List Located → Prop
  | done {position} : Lexes position [] []
  | blank {position c rest ts} : isBlank c = true → Lexes (position + c.utf8Size) rest ts →
      Lexes position (c :: rest) ts
  | lexeme {position c used after token ts} : ¬ isBlank c = true →
      lexeme c (used ++ after) = .ok (token, used.length) →
      Lexes (position + byteCount (c :: used)) after ts →
      Lexes position (c :: (used ++ after)) (⟨token, position⟩ :: ts)

theorem tokensFrom_blanks {blanks : List Char} (allBlank : Blanks blanks) (position : Nat)
    (cs : List Char) :
    tokensFrom 0 position (blanks ++ cs) = tokensFrom 0 (position + byteCount blanks) cs := by
  induction blanks generalizing position with
  | nil => rfl
  | cons c tail ih =>
    obtain ⟨blank, later⟩ := List.forall_mem_cons.mp allBlank
    rw [List.cons_append, tokensFrom, if_pos blank, ih later, Nat.add_assoc]
    rfl

/-- The characters of a lexeme are passed over once it is read. -/
theorem tokensFrom_length (taken : List Char) (position : Nat) (rest : List Char) :
    tokensFrom taken.length position (taken ++ rest) =
      tokensFrom 0 (position + byteCount taken) rest := by
  induction taken generalizing position with
  | nil => rfl
  | cons c tail ih =>
    rw [List.cons_append, List.length_cons, tokensFrom, ih, Nat.add_assoc]
    rfl

theorem tokensFrom_allBlank {blanks : List Char} (allBlank : Blanks blanks) (position : Nat) :
    tokensFrom 0 position blanks = .ok [] := by
  have passed := tokensFrom_blanks allBlank position []
  rw [List.append_nil] at passed
  exact passed

theorem tokensFrom_lexeme {c : Char} {used after : List Char} {token : Token}
    (visible : ¬ isBlank c = true) (read : lexeme c (used ++ after) = .ok (token, used.length))
    (position : Nat) :
    tokensFrom 0 position (c :: (used ++ after)) =
      (tokensFrom 0 (position + byteCount (c :: used)) after).map (⟨token, position⟩ :: ·) := by
  rw [tokensFrom, if_neg visible, read]
  dsimp only
  rw [tokensFrom_length, Nat.add_assoc, ← byteCount_cons]
  cases tokensFrom 0 (position + byteCount (c :: used)) after <;> rfl

theorem lexes_of_tokensFrom {position : Nat} {cs : List Char} {ts : List Located}
    (lexed : tokensFrom 0 position cs = .ok ts) : Lexes position cs ts := by
  induction size : cs.length using Nat.strong_induction_on generalizing position cs ts with
  | h size ih =>
    subst size
    cases cs with
    | nil =>
      cases lexed
      exact .done
    | cons c rest =>
      by_cases blank : isBlank c = true
      · rw [tokensFrom, if_pos blank] at lexed
        exact .blank blank (ih _ (Nat.lt_succ_self _) lexed rfl)
      · cases read : lexeme c rest with
        | error why =>
          rw [tokensFrom, if_neg blank, read] at lexed
          cases lexed
        | ok first =>
          obtain ⟨token, count⟩ := first
          obtain ⟨used, after, rfl, rfl, -⟩ := lexeme_looksAt read
          rw [tokensFrom_lexeme blank read] at lexed
          cases more : tokensFrom 0 (position + byteCount (c :: used)) after with
          | error why =>
            rw [more] at lexed
            cases lexed
          | ok later =>
            rw [more] at lexed
            cases lexed
            refine .lexeme blank read (ih _ ?_ more rfl)
            simp only [List.length_cons, List.length_append]
            omega

/-- The characters of a source between two byte offsets, both of which no character spans. -/
def IsSlice (source : List Char) (first last : Nat) (cs : List Char) : Prop :=
  ∃ before after, source = before ++ cs ++ after ∧ byteCount before = first ∧
    byteCount (before ++ cs) = last

def IsBoundary (source : List Char) (offset : Nat) : Prop :=
  ∃ before after, source = before ++ after ∧ byteCount before = offset

theorem IsBoundary.le_byteCount {source : List Char} {offset : Nat}
    (boundary : IsBoundary source offset) : offset ≤ byteCount source := by
  obtain ⟨before, after, rfl, rfl⟩ := boundary
  rw [byteCount_append]
  exact Nat.le_add_right _ _

variable {position : Nat} {cs : List Char} {ts : List Located}

theorem Lexes.blanks (lexes : Lexes position cs ts) :
    ∃ blanks rest, cs = blanks ++ rest ∧ Blanks blanks ∧
      Parser.position (position + byteCount cs) ts = position + byteCount blanks := by
  induction lexes with
  | done => exact ⟨[], [], rfl, nofun, rfl⟩
  | @blank position c rest ts white _ ih =>
    obtain ⟨blanks, rest, rfl, allBlank, start⟩ := ih
    refine ⟨c :: blanks, rest, rfl, List.forall_mem_cons.mpr ⟨white, allBlank⟩, ?_⟩
    rw [byteCount_cons, byteCount_cons, ← Nat.add_assoc, ← Nat.add_assoc, start]
  | lexeme => exact ⟨[], _, rfl, nofun, rfl⟩

theorem Lexes.position_le (lexes : Lexes position cs ts) : ∀ t ∈ ts, position ≤ t.start := by
  induction lexes with
  | done => exact nofun
  | blank _ _ ih => exact fun t member => Nat.le_of_add_right_le (ih t member)
  | lexeme _ _ _ ih =>
    refine List.forall_mem_cons.mpr ⟨Nat.le_refl _, fun t member => ?_⟩
    exact Nat.le_of_add_right_le (ih t member)

theorem Lexes.increasing (lexes : Lexes position cs ts) :
    ts.Pairwise fun t u => t.start < u.start := by
  induction lexes with
  | done => exact .nil
  | blank _ _ ih => exact ih
  | @lexeme position c used after token ts _ _ later ih =>
    refine .cons (fun t member => ?_) ih
    have atLeast := later.position_le t member
    have positive := c.utf8Size_pos
    rw [byteCount_cons] at atLeast
    show position < t.start
    omega

theorem Blanks.replaces {blanks : List Char} (allBlank : Blanks blanks) (after : List Char) :
    Replaces blanks after :=
  fun c head => .inl (allBlank c (List.mem_of_mem_head? head))

/-- From one token to the next, a text is lexed alone as it is in its place. -/
theorem Lexes.slice (lexes : Lexes position cs ts) {i : Nat} {t : Located}
    (found : ts[i]? = some t) :
    ∃ before lexed after, cs = before ++ lexed ++ after ∧ t.start = position + byteCount before ∧
      Parser.position (position + byteCount cs) (ts.drop (i + 1)) =
        position + byteCount (before ++ lexed) ∧
      tokens lexed = .ok [⟨t.token, 0⟩] := by
  induction lexes generalizing i with
  | done => cases found
  | @blank position c rest ts _ _ ih =>
    obtain ⟨before, lexed, after, rfl, start, next, alone⟩ := ih found
    refine ⟨c :: before, lexed, after, rfl, ?_, ?_, alone⟩
    · rw [start, byteCount_cons, Nat.add_assoc]
    · rw [byteCount_cons, ← Nat.add_assoc, next, List.cons_append, byteCount_cons, Nat.add_assoc]
  | @lexeme position c used rest token ts visible read later ih =>
    cases i with
    | zero =>
      cases found
      obtain ⟨blanks, after, rfl, allBlank, next⟩ := later.blanks
      refine ⟨[], c :: (used ++ blanks), after, by simp, rfl, ?_, ?_⟩
      · simp only [byteCount_cons, byteCount_append, List.nil_append, List.drop_succ_cons,
          List.drop_zero, ← Nat.add_assoc] at next ⊢
        exact next
      · rw [tokens, tokensFrom_lexeme visible (lexeme_replaces read (Blanks.replaces allBlank _)),
          tokensFrom_allBlank allBlank]
        rfl
    | succ i =>
      obtain ⟨before, lexed, after, rfl, start, next, alone⟩ := ih found
      refine ⟨c :: (used ++ before), lexed, after, by simp, ?_, ?_, alone⟩
      · simp only [start, byteCount_cons, byteCount_append, Nat.add_assoc]
      · simp only [byteCount_cons, byteCount_append, ← Nat.add_assoc, List.cons_append,
          List.drop_succ_cons] at next ⊢
        exact next

theorem tokensFrom_add (offset skip position : Nat) (cs : List Char) :
    tokensFrom skip (offset + position) cs =
      match tokensFrom skip position cs with
      | .ok ts => .ok (ts.map (Located.shift offset))
      | .error why => .error (why.shift offset) := by
  induction cs generalizing skip position with
  | nil => cases skip <;> rfl
  | cons c rest ih =>
    cases skip with
    | succ skip => rw [tokensFrom, tokensFrom, Nat.add_assoc, ih]
    | zero =>
      rw [tokensFrom, tokensFrom, Nat.add_assoc]
      split
      · exact ih _ _
      · cases lexeme c rest with
        | error problem => rfl
        | ok first =>
          dsimp only
          rw [ih]
          cases tokensFrom first.2 (position + c.utf8Size) rest <;> rfl

/-- White space after a text ends its last lexeme and changes no other. -/
theorem Lexes.separated (lexes : Lexes position cs ts) {blank : Char}
    (white : isBlank blank = true) (later : List Char) :
    tokensFrom 0 position (cs ++ blank :: later) =
      (tokensFrom 0 (position + byteCount (cs ++ [blank])) later).map (ts ++ ·) := by
  induction lexes with
  | done =>
    have place : byteCount ([] ++ [blank]) = blank.utf8Size := rfl
    rw [List.nil_append, tokensFrom, if_pos white, place]
    cases tokensFrom 0 _ later <;> rfl
  | @blank position c rest ts first _ ih =>
    rw [List.cons_append, tokensFrom, if_pos first, ih, List.cons_append, byteCount_cons,
      Nat.add_assoc]
  | @lexeme position c used after token ts visible read _ ih =>
    have replaces : Replaces (after ++ blank :: later) after := by
      intro d head
      cases after with
      | nil =>
        cases head
        exact .inl white
      | cons => exact .inr head
    rw [List.cons_append, List.append_assoc,
      tokensFrom_lexeme visible (lexeme_replaces read replaces), ih]
    have place : position + byteCount (c :: used) + byteCount (after ++ [blank]) =
        position + byteCount (c :: (used ++ after) ++ [blank]) := by
      simp only [byteCount_cons, byteCount_append, List.cons_append]
      omega
    rw [place]
    cases tokensFrom 0 (position + byteCount (c :: (used ++ after) ++ [blank])) later <;> rfl

theorem tokens_append {left : List Char} (lexed : tokens left = .ok ts) {blank : Char}
    (white : isBlank blank = true) (right : List Char) :
    tokens (left ++ blank :: right) =
      match tokens right with
      | .ok later => .ok (ts ++ later.map (Located.shift (byteCount (left ++ [blank]))))
      | .error why => .error (why.shift (byteCount (left ++ [blank]))) := by
  have apart := (lexes_of_tokensFrom lexed).separated white right
  have moved := tokensFrom_add (byteCount (left ++ [blank])) 0 0 right
  rw [Nat.add_zero] at moved
  rw [tokens, tokens, apart, Nat.zero_add, moved]
  cases tokensFrom 0 0 right <;> rfl

theorem start_boundary {source : List Char} (lexed : tokens source = .ok ts) {t : Located}
    (member : t ∈ ts) : IsBoundary source t.start := by
  obtain ⟨i, found⟩ := List.getElem?_of_mem member
  obtain ⟨before, cs, after, rfl, start, -, -⟩ := (lexes_of_tokensFrom lexed).slice found
  exact ⟨before, cs ++ after, List.append_assoc _ _ _, by rw [start, Nat.zero_add]⟩

/-- Lexing is local and loses nothing. The tokens of a source start at ever later character
boundaries, with white space alone before the first of them, and each slice from a token to the
next, or to the end, is that one token when lexed alone. After a source that has tokens and white
space, another one is lexed as it is alone, with all offsets moved on. -/
theorem tokens_local :
    (∀ source ts, tokens source = .ok ts →
      (∀ t ∈ ts, IsBoundary source t.start) ∧ (ts.Pairwise fun t u => t.start < u.start) ∧
      (∃ blanks, IsSlice source 0 (Parser.position (byteCount source) ts) blanks ∧
        Blanks blanks) ∧
      ∀ i t, ts[i]? = some t →
        ∃ cs, IsSlice source t.start (Parser.position (byteCount source) (ts.drop (i + 1))) cs ∧
          tokens cs = .ok [⟨t.token, 0⟩]) ∧
    ∀ left ts blank right, tokens left = .ok ts → isBlank blank = true →
      tokens (left ++ blank :: right) =
        match tokens right with
        | .ok later => .ok (ts ++ later.map (Located.shift (byteCount (left ++ [blank]))))
        | .error why => .error (why.shift (byteCount (left ++ [blank]))) := by
  refine ⟨fun source ts lexed => ?_, fun left ts blank right lexed white =>
    tokens_append lexed white right⟩
  have lexes := lexes_of_tokensFrom lexed
  have slices : ∀ i t, ts[i]? = some t →
      ∃ cs, IsSlice source t.start (Parser.position (byteCount source) (ts.drop (i + 1))) cs ∧
        tokens cs = .ok [⟨t.token, 0⟩] := by
    intro i t found
    obtain ⟨before, cs, after, split, start, next, alone⟩ := lexes.slice found
    rw [Nat.zero_add] at start next
    exact ⟨cs, ⟨before, after, split, start.symm, by rw [next, Nat.zero_add]⟩, alone⟩
  refine ⟨fun t member => start_boundary lexed member, lexes.increasing, ?_, slices⟩
  obtain ⟨blanks, rest, split, allBlank, first⟩ := lexes.blanks
  rw [Nat.zero_add, Nat.zero_add] at first
  exact ⟨blanks, ⟨[], rest, split, rfl, first.symm⟩, allBlank⟩

/-- A comparison without a blank before its operator, of a name that has more bytes than
characters. -/
def comparison : List Char := " né>=`b c`\t".toList

/-- The operator is lexed alone as it is in its place, and an error after the comparison is found
where it stands. -/
theorem tokens_local_comparison :
    tokens comparison =
        .ok [⟨.name "né", 1⟩, ⟨.symbol .greaterEqual, 4⟩, ⟨.name "b c", 6⟩] ∧
      isBlank '\u3000' = true ∧
      (∃ cs, IsSlice comparison 4 6 cs ∧ tokens cs = .ok [⟨.symbol .greaterEqual, 0⟩]) ∧
      tokens (comparison ++ '\u3000' :: "or 'x".toList) = .error ⟨18, .unterminatedText⟩ := by
  have lexed : tokens comparison =
      .ok [⟨.name "né", 1⟩, ⟨.symbol .greaterEqual, 4⟩, ⟨.name "b c", 6⟩] := by decide +kernel
  have white : isBlank '\u3000' = true := by decide
  have failed : tokens "or 'x".toList = .error ⟨3, .unterminatedText⟩ := by decide +kernel
  obtain ⟨alone, joined⟩ := tokens_local
  obtain ⟨-, -, -, slices⟩ := alone comparison _ lexed
  refine ⟨lexed, white, slices 1 _ rfl, ?_⟩
  rw [joined comparison _ '\u3000' _ lexed white, failed]
  rfl

end Lexer

end RecipeEngine
