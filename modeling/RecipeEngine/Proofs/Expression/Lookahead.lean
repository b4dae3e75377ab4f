import RecipeEngine.Proofs.Expression.Completeness
import RecipeEngine.Proofs.Expression.Viable

namespace RecipeEngine.Parser

open Grammar

def look (ts : List Located) : Option Token := ts.head?.map Located.token

theorem look_append {a b : List Located} (same : look a = look b) (used : List Located) :
    look (used ++ a) = look (used ++ b) := by
  cases used with
  | nil => exact same
  | cons => rfl

theorem exists_cons_of_look {a rest : List Located} {t : Located}
    (same : look a = look (t :: rest)) : ∃ start tail, a = ⟨t.token, start⟩ :: tail := by
  cases a with
  | nil => cases same
  | cons first tail =>
    obtain ⟨token, start⟩ := first
    cases (same : some token = some t.token)
    exact ⟨start, tail, rfl⟩

theorem eq_nil_of_look {a : List Located} (same : look a = look []) : a = [] := by
  cases a with
  | nil => rfl
  | cons => cases same

theorem symbol?_of_look {a b tail : List Located} {s : Symbol} (same : look a = look b)
    (found : symbol? a = some (s, tail)) : ∃ tail', symbol? b = some (s, tail') := by
  obtain ⟨start, rfl⟩ := symbol?_eq_some found
  obtain ⟨start', tail', rfl⟩ := exists_cons_of_look same.symm
  exact ⟨tail', rfl⟩

theorem symbol?_ne_of_look {a b : List Located} {s : Symbol} (same : look a = look b)
    (other : ∀ tail, symbol? b ≠ some (s, tail)) (tail : List Located) :
    symbol? a ≠ some (s, tail) := by
  intro found
  obtain ⟨tail', found'⟩ := symbol?_of_look same found
  exact other tail' found'

theorem symbol?_or (s : Symbol) (ts : List Located) :
    (∃ start tail, symbol? ts = some (s, tail) ∧ ts = ⟨.symbol s, start⟩ :: tail) ∨
      ∀ tail, symbol? ts ≠ some (s, tail) := by
  by_cases found : ∃ tail, symbol? ts = some (s, tail)
  · obtain ⟨tail, found⟩ := found
    obtain ⟨start, split⟩ := symbol?_eq_some found
    exact .inl ⟨start, tail, found, split⟩
  · exact .inr fun tail here => found ⟨tail, here⟩

theorem NoOperator.of_look {least : Nat} {a b : List Located} (gone : NoOperator least b)
    (same : look a = look b) : NoOperator least a := by
  intro s rest found op level named
  obtain ⟨_, found'⟩ := symbol?_of_look same found
  exact gone found' named

/-- What a reader gives together with the tokens that it leaves. -/
class Leaves (α : Type) where
  rest : α → List Located
  withRest : α → List Located → α

instance : Leaves (List Located) := ⟨id, fun _ rest => rest⟩

instance : Leaves Parsed := ⟨Parsed.rest, fun parsed rest => { parsed with rest }⟩

instance : Leaves (List Expression × Nat × List Located) :=
  ⟨fun given => given.2.2, fun given rest => (given.1, given.2.1, rest)⟩

open Leaves (rest withRest)

@[simp] theorem rest_parsed (parsed : Parsed) : rest parsed = parsed.rest := rfl

@[simp] theorem withRest_parsed (parsed : Parsed) (ts : List Located) :
    withRest parsed ts = { parsed with rest := ts } := rfl

@[simp] theorem withRest_trees (trees : List Expression) (height : Nat) (ts ts' : List Located) :
    withRest (trees, height, ts) ts' = (trees, height, ts') := rfl

/-- `given` is what a reader has given on a list of tokens, and the readers `again` retrace its
steps. They take the same tokens and give the same, if what follows begins as the tokens left do. A
failure is before some of the tokens; unless it is for depth, those before it are a beginning, and
`again` fails after them, if what follows begins as it did. -/
structure Retraces {α : Type} [Leaves α] (stop : Nat) (begun : List Token → Prop)
    (ts : List Located) (given : Except SyntaxError α)
    (again : Nat → List Located → Except SyntaxError α) : Prop where
  reads : ∀ ⦃a⦄, given = .ok a → ∃ used, ts = used ++ rest a ∧
    ∀ n rest', look rest' = look (rest a) → again n (used ++ rest') = .ok (withRest a rest')
  fails : ∀ ⦃why⦄, given = .error why → ∃ used later, ts = used ++ later ∧
    why.position = position stop later ∧ (why.problem = .nestedTooDeeply ∨ begun (tokens used) ∧
      ∀ n later', look later' = look later → ∃ why', again n (used ++ later') = .error why')

namespace Retraces

variable {α β : Type} [Leaves α] [Leaves β] {stop : Nat} {begun begun' : List Token → Prop}
  {ts : List Located} {given : Except SyntaxError α} {why : SyntaxError}
  {again again' : Nat → List Located → Except SyntaxError α}

theorem mono (retraces : Retraces stop begun ts given again)
    (imp : ∀ w, begun w → begun' w) : Retraces stop begun' ts given again where
  reads _ accepted := retraces.reads accepted
  fails _ failed := by
    obtain ⟨used, later, split, place, tooDeep | ⟨start, repeated⟩⟩ := retraces.fails failed
    · exact ⟨used, later, split, place, .inl tooDeep⟩
    · exact ⟨used, later, split, place, .inr ⟨imp _ start, repeated⟩⟩

/-- Only what the readers do on lists with the same first token matters. -/
theorem congr (retraces : Retraces stop begun ts given again)
    (same : ∀ n ts', look ts' = look ts → again' n ts' = again n ts') :
    Retraces stop begun ts given again' where
  reads _ accepted := by
    obtain ⟨used, rfl, repeated⟩ := retraces.reads accepted
    refine ⟨used, rfl, fun n rest' alike => ?_⟩
    rw [same n _ (look_append alike used), repeated n _ alike]
  fails _ failed := by
    obtain ⟨used, later, rfl, place, tooDeep | ⟨start, repeated⟩⟩ := retraces.fails failed
    · exact ⟨used, later, rfl, place, .inl tooDeep⟩
    · refine ⟨used, later, rfl, place, .inr ⟨start, fun n later' alike => ?_⟩⟩
      rw [same n _ (look_append alike used)]
      exact repeated n _ alike

theorem deep (place : why.position = position stop ts) (tooDeep : why.problem = .nestedTooDeeply) :
    Retraces stop begun ts (.error why) again where
  reads := nofun
  fails := by
    rintro _ ⟨⟩
    exact ⟨[], ts, rfl, place, .inl tooDeep⟩

theorem fail (place : why.position = position stop ts) (start : begun [])
    (repeated : ∀ n ts', look ts' = look ts → ∃ why', again n ts' = .error why') :
    Retraces stop begun ts (.error why) again where
  reads := nofun
  fails := by
    rintro _ ⟨⟩
    exact ⟨[], ts, rfl, place, .inr ⟨start, repeated⟩⟩

theorem done (a : α) (repeated : ∀ n ts', look ts' = look (rest a) →
    again n ts' = .ok (withRest a ts')) : Retraces stop begun (rest a) (.ok a) again where
  reads := by
    rintro _ ⟨⟩
    exact ⟨[], rfl, repeated⟩
  fails := nofun

theorem after (used : List Located)
    (later : Retraces stop (fun w => begun (tokens used ++ w)) ts given
      (fun n ts' => again n (used ++ ts'))) : Retraces stop begun (used ++ ts) given again where
  reads _ accepted := by
    obtain ⟨more, rfl, repeated⟩ := later.reads accepted
    refine ⟨used ++ more, by rw [List.append_assoc], fun n rest' alike => ?_⟩
    rw [List.append_assoc]
    exact repeated n rest' alike
  fails _ failed := by
    obtain ⟨more, left, rfl, place, tooDeep | ⟨start, repeated⟩⟩ := later.fails failed
    · exact ⟨used ++ more, left, by rw [List.append_assoc], place, .inl tooDeep⟩
    · refine ⟨used ++ more, left, by rw [List.append_assoc], place,
        .inr ⟨?_, fun n left' alike => ?_⟩⟩
      · rwa [tokens_append]
      · rw [List.append_assoc]
        exact repeated n left' alike

theorem next (t : Located)
    (later : Retraces stop (fun w => begun (t.token :: w)) ts given
      (fun n ts' => again n (t :: ts'))) : Retraces stop begun (t :: ts) given again :=
  .after [t] later

/-- A reader that begins with another one, whose failures are its own. -/
theorem bind {result : Except SyntaxError β} {whole : Nat → List Located → Except SyntaxError β}
    (first : Retraces stop begun ts given again)
    (stops : ∀ why, given = .error why → result = .error why)
    (stopsAgain : ∀ n ts' why, look ts' = look ts → again n ts' = .error why →
      whole n ts' = .error why)
    (later : ∀ a used, given = .ok a → ts = used ++ rest a →
      (∀ n rest', look rest' = look (rest a) → again n (used ++ rest') = .ok (withRest a rest')) →
      Retraces stop (fun w => begun (tokens used ++ w)) (rest a) result
        (fun n ts' => whole n (used ++ ts'))) :
    Retraces stop begun ts result whole := by
  cases given with
  | error why =>
    rw [stops why rfl]
    refine ⟨nofun, ?_⟩
    rintro _ ⟨⟩
    obtain ⟨used, left, rfl, place, tooDeep | ⟨start, repeated⟩⟩ := first.fails rfl
    · exact ⟨used, left, rfl, place, .inl tooDeep⟩
    · refine ⟨used, left, rfl, place, .inr ⟨start, fun n left' alike => ?_⟩⟩
      obtain ⟨why', stopped⟩ := repeated n left' alike
      exact ⟨why', stopsAgain n _ why' (look_append alike used) stopped⟩
  | ok a =>
    obtain ⟨used, rfl, repeated⟩ := first.reads rfl
    exact .after used (later a used rfl rfl repeated)

/-- A reader that goes on from what another one gives and leaves. -/
theorem andThen {next : α → Except SyntaxError β} {next' : Nat → α → Except SyntaxError β}
    (first : Retraces stop begun ts given again)
    (later : ∀ a used, given = .ok a → ts = used ++ rest a →
      Retraces stop (fun w => begun (tokens used ++ w)) (rest a) (next a)
        (fun n ts' => next' n (withRest a ts'))) :
    Retraces stop begun ts (given.bind next) (fun n ts' => (again n ts').bind (next' n)) := by
  refine first.bind (fun why failed => by rw [failed]; rfl)
    (fun n ts' why _ failed => by rw [failed]; rfl) fun a used read split repeated => ?_
  rw [read]
  refine (later a used read split).congr fun n ts' alike => ?_
  rw [repeated n ts' alike]
  rfl

theorem map (f : α → β) (first : Retraces stop begun ts given again)
    (keeps : ∀ a, rest (f a) = rest a)
    (moves : ∀ a rest', f (withRest a rest') = withRest (f a) rest') :
    Retraces stop begun ts (given.map f) (fun n ts' => (again n ts').map f) := by
  refine first.bind (fun why failed => by rw [failed]; rfl)
    (fun n ts' why _ failed => by rw [failed]; rfl) fun a used read split repeated => ?_
  rw [read, ← keeps]
  refine .done (f a) fun n ts' alike => ?_
  rw [repeated n ts' (alike.trans (congrArg look (keeps a))), ← moves]
  rfl

end Retraces

variable {stop tallest : Nat} {begun : List Token → Prop}

theorem Taken.sentence {depth : Nat} {layer : Layer} {ts used : List Located} {parsed : Parsed}
    (taken : Taken tallest layer depth ts parsed) (split : ts = used ++ parsed.rest) :
    Sentence layer (tokens used) := by
  obtain ⟨used', split', derivation⟩ := taken.derives
  obtain rfl := List.append_cancel_right (split.symm.trans split')
  exact ⟨depth, _, derivation⟩

theorem expect_retraces (s : Symbol) (start : begun []) (ts : List Located) :
    Retraces stop begun ts (expect stop s ts) (fun _ => expect stop s) := by
  cases ts with
  | nil =>
    refine .fail rfl start fun _ ts' alike => ?_
    rw [eq_nil_of_look alike]
    exact ⟨_, rfl⟩
  | cons first tail =>
    by_cases same : first.token = .symbol s
    · rw [expect, if_pos same]
      refine .next first (.done tail fun _ ts' _ => ?_)
      exact if_pos same
    · rw [expect, if_neg same]
      refine .fail rfl start fun _ ts' alike => ?_
      obtain ⟨place, tail', rfl⟩ := exists_cons_of_look alike
      exact ⟨_, if_neg same⟩

theorem node_retraces (tree : Expression) (height : Nat) (ts : List Located) :
    Retraces stop begun ts (node stop tallest tree height ts)
      (fun n => node stop (tallest + n) tree height) := by
  unfold node
  split
  · exact .deep rfl rfl
  · rename_i low
    refine .done (⟨tree, height, ts⟩ : Parsed) fun n ts' _ => ?_
    exact if_neg (by omega)

theorem Retraces.node {ts : List Located} {given : Except SyntaxError Parsed}
    {again : Nat → List Located → Except SyntaxError Parsed}
    (retraces : Retraces stop begun ts given again) (tree : Expression → Expression)
    (height : Nat → Nat) :
    Retraces stop begun ts
      (given.bind fun last =>
        Parser.node stop tallest (tree last.tree) (height last.height) last.rest)
      (fun n ts' => (again n ts').bind fun last =>
        Parser.node stop (tallest + n) (tree last.tree) (height last.height) last.rest) :=
  retraces.andThen fun last _ _ _ =>
    node_retraces (tree last.tree) (height last.height) last.rest

variable {room : Nat} {inner operand : Phrase} {inner' operand' : Nat → Phrase}

section Readers

variable (sound : SoundInside tallest .conditional room inner)
  (inside : ∀ ts, Retraces stop (Viable .conditional) ts (inner ts) inner')
  (insideOperand : ∀ ts, Retraces stop (Viable .prefixed) ts (operand ts) operand')

theorem group_eq (inner : Phrase) (ts : List Located) :
    group stop inner ts = (inner ts).bind fun parsed =>
      (expect stop .closeParen parsed.rest).map fun later => { parsed with rest := later } := by
  unfold group
  cases inner ts with
  | error why => rfl
  | ok parsed =>
    simp only [Except.bind]
    cases expect stop .closeParen parsed.rest <;> rfl

include sound inside in
theorem group_retraces (ts : List Located) :
    Retraces stop (fun w => Viable .primary (.symbol .openParen :: w)) ts (group stop inner ts)
      (fun n ts' => group stop (inner' n) ts') := by
  simp only [group_eq]
  refine .andThen ((inside ts).mono fun _ => Viable.group) fun parsed used read split => ?_
  obtain ⟨_, -, taken⟩ := sound read
  have start : Viable .primary (.symbol .openParen :: (tokens used ++ [])) := by
    rw [List.append_nil]
    exact Viable.group (.of_mem (taken.sentence split))
  exact .map _ (expect_retraces .closeParen start parsed.rest) (fun _ => rfl) fun _ _ => rfl

theorem arguments_comma {fuel : Nat} {ts tail : List Located} {first : Parsed}
    (read : inner ts = .ok first) (found : symbol? first.rest = some (.comma, tail)) :
    arguments stop inner (fuel + 1) ts =
      (arguments stop inner fuel tail).map fun (trees, height, later) =>
        (first.tree :: trees, max first.height height, later) := by
  simp only [arguments, read, found]
  cases arguments stop inner fuel tail <;> rfl

theorem arguments_last {fuel : Nat} {ts : List Located} {first : Parsed}
    (read : inner ts = .ok first) (other : ∀ tail, symbol? first.rest ≠ some (.comma, tail)) :
    arguments stop inner (fuel + 1) ts =
      (expect stop .closeParen first.rest).map fun later =>
        ([first.tree], first.height, later) := by
  simp only [arguments, read]
  cases expect stop .closeParen first.rest <;> rfl

include sound inside in
theorem arguments_retraces (fuel extra : Nat) (ts : List Located) :
    Retraces stop (Starts Listed) ts (arguments stop inner fuel ts)
      (fun n ts' => arguments stop (inner' n) (ts'.length + extra + 1) ts') := by
  induction fuel generalizing ts extra with
  | zero => exact .deep rfl rfl
  | succ fuel ih =>
    refine .bind ((inside ts).mono fun _ => Viable.listed)
      (fun why read => by simp only [arguments, read])
      (fun n ts' why _ read => by simp only [arguments, read]) fun first used read split again => ?_
    obtain ⟨_, -, taken⟩ := sound read
    have argument := taken.sentence split
    rcases symbol?_or .comma first.rest with ⟨start, tail, found, atComma⟩ | other
    · have enough : ∀ ts' : List Located,
          (used ++ ⟨.symbol .comma, start⟩ :: ts').length + extra =
            ts'.length + (used.length + extra) + 1 := by
        intro ts'
        rw [List.length_append, List.length_cons]
        omega
      rw [arguments_comma read found, rest_parsed, atComma]
      refine .next ⟨.symbol .comma, start⟩ ?_
      have more := (ih (used.length + extra) tail).mono fun _ => Starts.more argument
      refine .congr (.map _ more ?_ ?_) fun n ts' _ => ?_
      · exact fun _ => rfl
      · exact fun _ _ => rfl
      · rw [enough]
        have read' := again n (⟨.symbol .comma, start⟩ :: ts') (by rw [rest_parsed, atComma]; rfl)
        exact (arguments_comma read' rfl).trans rfl
    · have start : Starts Listed (tokens used ++ []) := by
        rw [List.append_nil]
        exact Viable.listed (.of_mem argument)
      rw [arguments_last read other]
      refine .congr (.map _ (expect_retraces .closeParen start first.rest) ?_ ?_)
        fun n ts' alike => ?_
      · exact fun _ => rfl
      · exact fun _ _ => rfl
      · exact arguments_last (again n ts' alike) (symbol?_ne_of_look alike other)

include sound inside in
theorem callArguments_retraces {f : String} (notTrue : f ≠ "true") (notFalse : f ≠ "false")
    (ts : List Located) :
    Retraces stop (fun w => Viable .primary (.name f :: .symbol .openParen :: w)) ts
      (callArguments stop inner ts) (fun n => callArguments stop (inner' n)) := by
  rcases symbol?_or .closeParen ts with ⟨start, tail, -, rfl⟩ | other
  · exact .next ⟨.symbol .closeParen, start⟩ (.done ([], 0, tail) fun _ _ _ => rfl)
  · have more := (arguments_retraces sound inside (ts.length + 1) 0 ts).mono
      fun _ => Viable.call notTrue notFalse
    simp only [callArguments]
    refine more.congr fun n ts' alike => ?_
    have other' := symbol?_ne_of_look alike other
    simp only [callArguments, Nat.add_zero]

include sound inside in
theorem named_retraces (name : String) (ts : List Located) :
    Retraces stop (fun w => Viable .primary (.name name :: w)) ts (named stop tallest inner name ts)
      (fun n => named stop (tallest + n) (inner' n) name) := by
  unfold named
  split
  · exact .done (⟨.truth true, 1, ts⟩ : Parsed) fun _ _ _ => rfl
  · rename_i notTrue
    split
    · exact .done (⟨.truth false, 1, ts⟩ : Parsed) fun _ _ _ => rfl
    · rename_i notFalse
      rcases symbol?_or .openParen ts with ⟨start, tail, -, rfl⟩ | other
      · refine .next ⟨.symbol .openParen, start⟩ ?_
        refine .bind (callArguments_retraces sound inside notTrue notFalse tail)
          (fun why called => by simp only [symbol?, called])
          (fun n ts' why _ called => by simp only [symbol?, called])
          fun given used called _ again => ?_
        obtain ⟨trees, height, later⟩ := given
        simp only [symbol?, called]
        refine (node_retraces (.call name trees) (height + 1) later).congr fun n ts' alike => ?_
        simp only [again n ts' alike, withRest_trees]
      · simp only []
        refine .done (⟨.name name, 1, ts⟩ : Parsed) fun n ts' alike => ?_
        have other' := symbol?_ne_of_look alike other
        simp only [withRest_parsed]

include sound inside in
theorem primary_retraces (ts : List Located) :
    Retraces stop (Viable .primary) ts (primary stop tallest inner ts)
      (fun n => primary stop (tallest + n) (inner' n)) := by
  cases ts with
  | nil =>
    refine .fail rfl Viable.nil fun n ts' alike => ?_
    rw [eq_nil_of_look alike]
    exact ⟨_, rfl⟩
  | cons first tail =>
    obtain ⟨token, start⟩ := first
    cases token with
    | number x => exact .next _ (.done (⟨.number x, 1, tail⟩ : Parsed) fun _ _ _ => rfl)
    | text s => exact .next _ (.done (⟨.text s, 1, tail⟩ : Parsed) fun _ _ _ => rfl)
    | name name => exact .next _ (named_retraces sound inside name tail)
    | symbol s =>
      by_cases paren : s = .openParen
      · subst paren
        exact .next _ (group_retraces sound inside tail)
      · have refused : ∀ tallest inner start tail, primary stop tallest inner
            (⟨.symbol s, start⟩ :: tail) = .error ⟨start, .missingValue (some (.symbol s))⟩ := by
          intro tallest inner start tail
          cases s <;> first | rfl | contradiction
        rw [refused]
        refine .fail rfl Viable.nil fun n ts' alike => ?_
        obtain ⟨start', tail', rfl⟩ := exists_cons_of_look alike
        exact ⟨_, refused _ _ _ _⟩

theorem power_base {ts : List Located} {base : Parsed}
    (read : primary stop tallest inner ts = .ok base)
    (other : ∀ tail, symbol? base.rest ≠ some (.caret, tail)) :
    power stop tallest inner operand ts = .ok base := by
  simp only [power, read]

theorem power_raised {ts tail : List Located} {base : Parsed}
    (read : primary stop tallest inner ts = .ok base)
    (found : symbol? base.rest = some (.caret, tail)) :
    power stop tallest inner operand ts =
      (operand tail).bind fun exponent =>
        node stop tallest (.binary .power base.tree exponent.tree)
          (1 + max base.height exponent.height) exponent.rest := by
  simp only [power, read, found]
  cases operand tail <;> rfl

include sound inside insideOperand in
theorem power_retraces (positive : 0 < tallest) (ts : List Located) :
    Retraces stop (Viable .power) ts (power stop tallest inner operand ts)
      (fun n => power stop (tallest + n) (inner' n) (operand' n)) := by
  refine .bind ((primary_retraces sound inside ts).mono fun _ => Starts.mono fun _ => .noExponent)
    (fun why read => by simp only [power, read])
    (fun n ts' why _ read => by simp only [power, read]) fun base used read split again => ?_
  have whole := (primary_sound positive sound read).sentence split
  rcases symbol?_or .caret base.rest with ⟨start, tail, found, atCaret⟩ | other
  · rw [power_raised read found, rest_parsed, atCaret]
    refine .next ⟨.symbol .caret, start⟩ ?_
    have exponent := (insideOperand tail).mono fun _ => Viable.raised whole
    refine (exponent.node (.binary .power base.tree) (1 + max base.height ·)).congr
      fun n ts' _ => ?_
    have read' := again n (⟨.symbol .caret, start⟩ :: ts') (by rw [rest_parsed, atCaret]; rfl)
    exact (power_raised read' rfl).trans rfl
  · rw [power_base read other]
    refine .done base fun n ts' alike => ?_
    exact power_base (again n ts' alike) (symbol?_ne_of_look alike other)

include sound inside insideOperand in
theorem prefixed_retraces (positive : 0 < tallest) (ts : List Located) :
    Retraces stop (Viable .prefixed) ts (prefixed stop tallest inner operand ts)
      (fun n => prefixed stop (tallest + n) (inner' n) (operand' n)) := by
  by_cases operator : ∃ s op tail, symbol? ts = some (s, tail) ∧ unaryOp? s = some op
  · obtain ⟨s, op, tail, found, named⟩ := operator
    obtain ⟨start, rfl⟩ := symbol?_eq_some found
    have whole : ∀ tallest inner operand ts', prefixed stop tallest inner operand
        (⟨.symbol s, start⟩ :: ts') = (operand ts').bind fun last =>
          node stop tallest (.unary op last.tree) (last.height + 1) last.rest := by
      intro tallest inner operand ts'
      simp only [prefixed, symbol?, named]
      cases operand ts' <;> rfl
    rw [whole]
    refine .next ⟨.symbol s, start⟩ ?_
    have under := (insideOperand tail).mono fun _ =>
      Viable.prefixed (unaryOp?_eq_some_iff.mp named)
    exact (under.node (.unary op) (· + 1)).congr fun n ts' _ => whole _ _ _ _
  · have whole : ∀ ts', look ts' = look ts → ∀ tallest inner operand,
        prefixed stop tallest inner operand ts' = power stop tallest inner operand ts' := by
      intro ts' alike tallest inner operand
      unfold prefixed
      split
      · rename_i s tail found
        split
        · rename_i op named
          obtain ⟨tail', found'⟩ := symbol?_of_look alike found
          exact absurd ⟨s, op, tail', found', named⟩ operator
        · rfl
      · rfl
    rw [whole ts rfl]
    exact ((power_retraces sound inside insideOperand positive ts).mono
      fun _ => Starts.mono fun _ => .noPrefix).congr fun n ts' alike => whole ts' alike _ _ _

end Readers

theorem noOperator_or (least : Nat) (ts : List Located) :
    NoOperator least ts ∨ ∃ s tail op level, symbol? ts = some (s, tail) ∧
      binaryOp? s = some (op, level) ∧ least ≤ level := by
  cases found : symbol? ts with
  | none => exact .inl fun s tail found' => nomatch found.symm.trans found'
  | some first =>
    obtain ⟨s, tail⟩ := first
    cases named : binaryOp? s with
    | none =>
      refine .inl fun s' tail' found' op level named' => ?_
      cases found.symm.trans found'
      cases named.symm.trans named'
    | some operator =>
      obtain ⟨op, level⟩ := operator
      rcases Nat.lt_or_ge level least with loose | tight
      · refine .inl fun s' tail' found' op' level' named' => ?_
        cases found.symm.trans found'
        cases named.symm.trans named'
        exact loose
      · exact .inr ⟨s, tail, op, level, rfl, named, tight⟩

theorem climb_joins {above : Nat → Phrase} {least fuel level : Nat} {left : Parsed}
    {tail : List Located} {s : Symbol} {op : BinaryOp} (found : symbol? left.rest = some (s, tail))
    (named : binaryOp? s = some (op, level)) (tight : least ≤ level) :
    climb stop tallest above least (fuel + 1) left = (above (level + 1) tail).bind fun right =>
      (node stop tallest (.binary op left.tree right.tree) (1 + max left.height right.height)
        right.rest).bind (climb stop tallest above least fuel) := by
  simp only [climb, found, named, if_neg (Nat.not_lt.mpr tight)]
  cases above (level + 1) tail with
  | error why => rfl
  | ok right =>
    simp only [Except.bind]
    cases node stop tallest (.binary op left.tree right.tree) (1 + max left.height right.height)
      right.rest <;> rfl

/-- The turns of a climb that has taken `used`. Its fuel need not be the same again: it counts the
tokens left, with `extra` for those behind. -/
theorem climb_retraces {depth : Nat} {above : Nat → Phrase} {above' : Nat → Nat → Phrase}
    {least : Nat}
    (sound : ∀ level, least ≤ level → level < levels →
      Sound tallest (.operators (level + 1)) depth (above (level + 1)))
    (greedy : ∀ level, least ≤ level → level < levels →
      ∀ ⦃ts parsed⦄, above (level + 1) ts = .ok parsed → NoOperator (level + 1) parsed.rest)
    (inside : ∀ level, least ≤ level → level < levels → ∀ ts,
      Retraces stop (Viable (.operators (level + 1))) ts (above (level + 1) ts)
        (fun n => above' n (level + 1)))
    {fuel level : Nat} {ts used : List Located} {left : Parsed} (extra : Nat)
    (taken : Taken tallest (.operators level) depth ts left) (split : ts = used ++ left.rest)
    (atLeast : least ≤ level) (gone : NoOperator (level + 1) left.rest)
    (enough : left.rest.length ≤ fuel) :
    Retraces stop (fun w => Viable (.operators least) (tokens used ++ w)) left.rest
      (climb stop tallest above least fuel left)
      (fun n ts' => climb stop (tallest + n) (above' n) least (ts'.length + extra)
        { left with rest := ts' }) := by
  -- one turn takes an operator and its right operand, and the tree it makes is the next `left`
  induction fuel generalizing left level used extra with
  | zero =>
    have ended : NoOperator least left.rest := .of_empty enough
    rw [climb_stops ended]
    exact .done left fun n ts' alike => climb_stops (ended.of_look alike) _
  | succ fuel ih =>
    rcases noOperator_or least left.rest with ended | ⟨s, tail, op, next, found, named, tight⟩
    · rw [climb_stops ended]
      exact .done left fun n ts' alike => climb_stops (ended.of_look alike) _
    · obtain ⟨start, atSymbol⟩ := symbol?_eq_some found
      have bound := level_lt_of_binaryOp? named
      have looser := Nat.le_of_lt_succ (gone found named)
      have whole := (taken.sentence split).loosen looser
      have member := binaryOp?_eq_some_iff.mp named
      rw [climb_joins found named tight, atSymbol]
      refine .next ⟨.symbol s, start⟩ ?_
      have first := (inside next tight bound tail).mono fun _ viable =>
        Starts.mono (fun _ => Sentence.loosen tight) (Viable.joined member whole viable)
      refine .bind first (fun why read => by rw [read]; rfl) ?_
        fun right used' read split' again => ?_
      · intro n ts' why _ read
        rw [List.length_cons, Nat.succ_add, climb_joins rfl named tight, read]
        rfl
      · have takenRight := sound next tight bound read
        by_cases low : 1 + max left.height right.height ≤ tallest
        · have made : ∀ n later, node stop (tallest + n) (.binary op left.tree right.tree)
              (1 + max left.height right.height) later = .ok ⟨.binary op left.tree right.tree,
                1 + max left.height right.height, later⟩ :=
            fun n later => if_neg (by omega)
          have splitJoined : ts = (used ++ ⟨.symbol s, start⟩ :: used') ++ right.rest := by
            rw [split, atSymbol, split', List.append_assoc]
            rfl
          have goneRight := greedy next tight bound read
          have fewer : right.rest.length ≤ fuel := by
            have shorter := takenRight.length_le
            rw [atSymbol, List.length_cons] at enough
            omega
          have joined := ih (used'.length + extra) (taken.joined found named looser takenRight low)
            splitJoined tight goneRight fewer
          have given := made 0 right.rest
          rw [Nat.add_zero] at given
          rw [read, Except.bind, given]
          refine (joined.mono fun w viable => ?_).congr fun n ts' alike => ?_
          · simpa using viable
          · have length : (used' ++ ts').length + extra = ts'.length + (used'.length + extra) := by
              rw [List.length_append]
              omega
            rw [List.length_cons, Nat.succ_add, climb_joins rfl named tight, again n ts' alike,
              length]
            simp only [Except.bind, withRest_parsed, made]
        · have refused : node stop tallest (.binary op left.tree right.tree)
              (1 + max left.height right.height) right.rest = tooDeep stop right.rest :=
            if_pos (Nat.not_le.mp low)
          rw [read, Except.bind, refused]
          exact .deep rfl rfl

theorem operators_retraces {depth : Nat} (sound : Sound tallest .prefixed depth operand)
    (inside : ∀ ts, Retraces stop (Viable .prefixed) ts (operand ts) operand') {turns least : Nat}
    (few : least ≤ levels) (enough : levels < turns + least) (ts : List Located) :
    Retraces stop (Viable (.operators least)) ts (operators stop tallest operand turns least ts)
      (fun n => operators stop (tallest + n) (operand' n) turns least) := by
  induction turns generalizing least ts with
  | zero => omega
  | succ turns ih =>
    have first := (inside ts).mono fun _ viable =>
      Starts.mono (fun _ sentence => Sentence.loosen few (Sentence.operand sentence)) viable
    refine .bind first (fun why read => by simp only [operators, read])
      (fun n ts' why _ read => by simp only [operators, read]) fun left used read split again => ?_
    have taken : Taken tallest (.operators levels) depth ts left := (sound read).mono .operand
    have gone : NoOperator (levels + 1) left.rest := fun s tail _ op level named =>
      Nat.lt_succ_of_lt (level_lt_of_binaryOp? named)
    have climbs := climb_retraces
      (fun level lower upper => (operators_sound sound (by omega) (by omega)).1)
      (fun level lower upper => (operators_sound sound (by omega) (by omega)).2)
      (fun level lower upper => ih (by omega) (by omega)) used.length taken split few gone
      taken.length_le
    simp only [operators, read]
    refine climbs.congr fun n ts' alike => ?_
    have length : (used ++ ts').length = ts'.length + used.length := by
      rw [List.length_append, Nat.add_comm]
    simp only [again n ts' alike, length, withRest_parsed]

def branches (stop tallest : Nat) (inner : Phrase) (tree : Expression) (height : Nat)
    (ts : List Located) : Except SyntaxError Parsed :=
  (inner ts).bind fun yes => (expect stop .colon yes.rest).bind fun later =>
    (inner later).bind fun no =>
      node stop tallest (.conditional tree yes.tree no.tree)
        (1 + max (max height yes.height) no.height) no.rest

theorem branches_retraces (sound : SoundInside tallest .conditional room inner)
    (inside : ∀ ts, Retraces stop (Viable .conditional) ts (inner ts) inner') {c : List Token}
    (condition : Sentence (.operators 0) c) (tree : Expression) (height : Nat) (ts : List Located) :
    Retraces stop (fun w => Viable .conditional (c ++ .symbol .question :: w)) ts
      (branches stop tallest inner tree height ts)
      (fun n ts' => branches stop (tallest + n) (inner' n) tree height ts') := by
  unfold branches
  refine .andThen ((inside ts).mono fun _ => Viable.yes condition) fun yes used read split => ?_
  obtain ⟨_, -, taken⟩ := sound read
  have whole := taken.sentence split
  have start : Viable .conditional (c ++ .symbol .question :: (tokens used ++ [])) := by
    rw [List.append_nil]
    exact Viable.yes condition (.of_mem whole)
  dsimp only [withRest_parsed, rest_parsed]
  refine .andThen (expect_retraces .colon start yes.rest) fun later used' parted split' => ?_
  obtain ⟨colon, atColon⟩ := expect_eq_ok parted
  obtain rfl : used' = [⟨.symbol .colon, colon⟩] :=
    List.append_cancel_right (split'.symm.trans atColon)
  have last := (inside later).mono fun w viable =>
    (by simpa using Viable.no condition whole viable :
      Viable .conditional (c ++ .symbol .question :: (tokens used ++ .symbol .colon :: w)))
  exact last.node (.conditional tree yes.tree) (1 + max (max height yes.height) ·)

section Conditional

variable {ts : List Located} {condition : Parsed}

theorem conditional_plain
    (read : operators stop tallest (prefixed stop tallest inner operand) (levels + 1) 0 ts =
      .ok condition)
    (other : ∀ tail, symbol? condition.rest ≠ some (.question, tail)) :
    conditional stop tallest inner operand ts = .ok condition := by
  simp only [conditional, read]

theorem conditional_choice {tail : List Located}
    (read : operators stop tallest (prefixed stop tallest inner operand) (levels + 1) 0 ts =
      .ok condition)
    (found : symbol? condition.rest = some (.question, tail)) :
    conditional stop tallest inner operand ts =
      branches stop tallest inner condition.tree condition.height tail := by
  simp only [conditional, read, found, branches]
  cases inner tail with
  | error why => rfl
  | ok yes =>
    simp only [Except.bind]
    cases expect stop .colon yes.rest with
    | error why => rfl
    | ok later =>
      dsimp only
      cases inner later <;> rfl

end Conditional

theorem conditional_retraces (positive : 0 < tallest)
    (sound : SoundInside tallest .conditional room inner)
    (inside : ∀ ts, Retraces stop (Viable .conditional) ts (inner ts) inner')
    (soundOperand : SoundInside tallest .prefixed room operand)
    (insideOperand : ∀ ts, Retraces stop (Viable .prefixed) ts (operand ts) operand')
    (ts : List Located) :
    Retraces stop (Viable .conditional) ts (conditional stop tallest inner operand ts)
      (fun n => conditional stop (tallest + n) (inner' n) (operand' n)) := by
  have soundPrefixed : Sound tallest .prefixed room (prefixed stop tallest inner operand) :=
    prefixed_sound positive sound soundOperand
  have first := (operators_retraces soundPrefixed
    (prefixed_retraces sound inside insideOperand positive) (Nat.zero_le levels)
    (Nat.lt_succ_self _) ts).mono fun _ => Starts.mono fun _ => Sentence.noChoice
  refine .bind first (fun why read => by simp only [conditional, read])
    (fun n ts' why _ read => by simp only [conditional, read])
    fun condition used read split again => ?_
  have taken := (operators_sound soundPrefixed (Nat.zero_le _) (Nat.lt_succ_self _)).1 read
  rcases symbol?_or .question condition.rest with ⟨start, tail, found, atQuestion⟩ | other
  · rw [conditional_choice read found, rest_parsed, atQuestion]
    refine .next ⟨.symbol .question, start⟩ ?_
    refine (branches_retraces sound inside (taken.sentence split) condition.tree condition.height
      tail).congr fun n ts' _ => ?_
    have read' := again n (⟨.symbol .question, start⟩ :: ts') (by rw [rest_parsed, atQuestion]; rfl)
    exact (conditional_choice read' rfl).trans rfl
  · rw [conditional_plain read other]
    refine .done condition fun n ts' alike => ?_
    exact conditional_plain (again n ts' alike) (symbol?_ne_of_look alike other)

/-- A phrase and an operand are retraced by those with more room for higher trees. -/
theorem phrase_operand_retraces (positive : 0 < tallest) (room : Nat) :
    (∀ ts, Retraces stop (Viable .conditional) ts (phrase stop tallest room ts)
      (fun n => phrase stop (tallest + n) (room + n))) ∧
    ∀ ts, Retraces stop (Viable .prefixed) ts (Parser.operand stop tallest room ts)
      (fun n => Parser.operand stop (tallest + n) (room + n)) := by
  induction room with
  | zero => exact ⟨fun ts => .deep rfl rfl, fun ts => .deep rfl rfl⟩
  | succ room ih =>
    have sound : SoundInside tallest .conditional room (phrase stop tallest room) :=
      (phrase_operand_sound positive room).1
    have soundOperand : SoundInside tallest .prefixed room (Parser.operand stop tallest room) :=
      (phrase_operand_sound positive room).2
    constructor
    · intro ts
      refine .congr (conditional_retraces positive sound ih.1 soundOperand ih.2 ts)
        fun n ts' _ => ?_
      rw [Nat.succ_add]
      rfl
    · intro ts
      refine .congr (prefixed_retraces sound ih.1 ih.2 positive ts) fun n ts' _ => ?_
      rw [Nat.succ_add]
      rfl

end RecipeEngine.Parser
