import RecipeEngine.Proofs.Expression.Soundness
import RecipeEngine.Proofs.Expression.Walker

namespace RecipeEngine.Parser.Walker

variable {stop : Nat} {ts : List Located} {w w' w'' : Walker}

theorem rest_of_next {t : Located} (next : ts[w.index]? = some t) :
    w.rest ts = t :: w.advance.rest ts := by
  obtain ⟨within, rfl⟩ := List.getElem?_eq_some_iff.mp next
  exact List.drop_eq_getElem_cons within

theorem rest_of_end (next : ts[w.index]? = none) : w.rest ts = [] :=
  List.drop_eq_nil_iff.mpr (List.getElem?_eq_none_iff.mp next)

theorem symbol?_rest : symbol? (w.rest ts) = (w.ahead ts).map fun s => (s, w.advance.rest ts) := by
  cases next : ts[w.index]? with
  | none => simp [rest_of_end next, ahead, next, symbol?]
  | some t =>
    obtain ⟨token, start⟩ := t
    cases token <;> simp [rest_of_next next, ahead, next, symbol?]

theorem length_rest (ts : List Located) (w : Walker) :
    (w.rest ts).length = ts.length - w.index :=
  List.length_drop

theorem index_lt_of_ahead {s : Symbol} (found : w.ahead ts = some s) : w.index < ts.length := by
  refine Nat.lt_of_not_le fun ended => ?_
  simp [ahead, List.getElem?_eq_none ended] at found

theorem length_rest_advance {s : Symbol} (found : w.ahead ts = some s) :
    (w.advance.rest ts).length < (w.rest ts).length := by
  have := index_lt_of_ahead found
  rw [length_rest, length_rest]
  exact Nat.sub_lt_sub_left this (Nat.lt_succ_self _)

/-- The walker has moved on over some of the tokens and is as deep as it was; on the way it has not
been in more phrases than there may be. -/
structure Moved (ts : List Located) (w w' : Walker) : Prop where
  depth : w'.depth = w.depth
  deepest : w'.deepest ≤ max w.deepest limit
  onwards : w.index ≤ w'.index
  within : w'.index ≤ max w.index ts.length

theorem Moved.refl (ts : List Located) (w : Walker) : Moved ts w w :=
  ⟨rfl, Nat.le_max_left _ _, Nat.le_refl _, Nat.le_max_left _ _⟩

theorem Moved.trans (first : Moved ts w w') (second : Moved ts w' w'') : Moved ts w w'' where
  depth := second.depth.trans first.depth
  deepest := by
    have := first.deepest
    have := second.deepest
    omega
  onwards := Nat.le_trans first.onwards second.onwards
  within := by
    have := first.within
    have := second.within
    omega

theorem Moved.advance (here : w.index < ts.length) : Moved ts w w.advance :=
  ⟨rfl, Nat.le_max_left _ _, Nat.le_succ _, Nat.le_trans here (Nat.le_max_right _ _)⟩

theorem Moved.of_ahead {s : Symbol} (found : w.ahead ts = some s) : Moved ts w w.advance :=
  .advance (index_lt_of_ahead found)

theorem Moved.length_rest_le (moved : Moved ts w w') :
    (w'.rest ts).length ≤ (w.rest ts).length := by
  have := moved.onwards
  rw [length_rest, length_rest]
  omega

theorem Moved.leave (room : w.depth < limit) (inside : Moved ts w.enter w') :
    Moved ts w w'.leave where
  depth := by
    have := inside.depth
    simp only [enter, Walker.leave] at this ⊢
    omega
  deepest := by
    have := inside.deepest
    simp only [enter, Walker.leave] at this ⊢
    omega
  onwards := inside.onwards
  within := inside.within

def parsed (a : Measured) (rest : List Located) : Parsed := ⟨a.1, a.2, rest⟩

def parsedAll (a : List Expression × Nat) (rest : List Located) :
    List Expression × Nat × List Located := (a.1, a.2, rest)

/-- A routine returns, and has moved the walker. What it gives is what a reader gives on the tokens
before it, and the reader leaves the tokens that the walker leaves. -/
inductive Returns {α β : Type} (pack : α → List Located → β) (ts : List Located) (w : Walker)
    (given : Except SyntaxError β) (reply : Option (Reply α)) : Prop
  | fails {left : Walker} (why : SyntaxError) (moved : Moved ts w left)
    (read : given = .error why) (ran : reply = some (.error why, left))
  | gives {left : Walker} (a : α) (moved : Moved ts w left)
    (read : given = .ok (pack a (left.rest ts))) (ran : reply = some (.ok a, left))

section Returns

variable {α β : Type} {pack : α → List Located → β}

theorem Returns.done (a : α) : Returns pack ts w (.ok (pack a (w.rest ts))) (some (.ok a, w)) :=
  .gives a (.refl ts w) rfl rfl

theorem Returns.fail (why : SyntaxError) : Returns pack ts w (.error why) (some (.error why, w)) :=
  .fails why (.refl ts w) rfl rfl

theorem Returns.after {given : Except SyntaxError β} {reply : Option (Reply α)}
    (moved : Moved ts w w') (later : Returns pack ts w' given reply) :
    Returns pack ts w given reply := by
  cases later with
  | fails why moved' read ran => exact .fails why (moved.trans moved') read ran
  | gives a moved' read ran => exact .gives a (moved.trans moved') read ran

end Returns

theorem accept_returns (stop : Nat) (ts : List Located) (w : Walker) (tree : Expression)
    (height : Nat) :
    Returns parsed ts w (node stop limit tree height (w.rest ts))
      (some (w.accept stop ts tree height)) := by
  rw [node, accept]
  split
  · exact .fail _
  · exact .done (tree, height)

theorem ahead_or (ts : List Located) (w : Walker) (s : Symbol) :
    (w.ahead ts = some s ∧ symbol? (w.rest ts) = some (s, w.advance.rest ts)) ∨
      (w.ahead ts ≠ some s ∧ ∀ tail, symbol? (w.rest ts) ≠ some (s, tail)) := by
  rw [symbol?_rest]
  by_cases found : w.ahead ts = some s
  · exact .inl ⟨found, by rw [found]; rfl⟩
  · refine .inr ⟨found, fun tail here => ?_⟩
    obtain ⟨s', seen, same⟩ := Option.map_eq_some_iff.mp here
    cases same
    exact found seen

theorem require_returns (stop : Nat) (ts : List Located) (w : Walker) (s : Symbol) :
    Returns (fun _ rest => rest) ts w (expect stop s (w.rest ts))
      (some (w.require stop ts s)) := by
  rw [require]
  cases next : ts[w.index]? with
  | none =>
    rw [rest_of_end next, if_neg (by simp [ahead, next])]
    exact .fail _
  | some t =>
    obtain ⟨token, start⟩ := t
    have seen : w.ahead ts = some s ↔ token = .symbol s := by
      cases token <;> simp [ahead, next]
    rw [rest_of_next next, expect]
    by_cases same : token = .symbol s
    · rw [if_pos same, if_pos (seen.mpr same)]
      exact .after (.of_ahead (seen.mpr same)) (.done ())
    · rw [if_neg same, if_neg (mt seen.mp same)]
      exact .fail _

/-- What the walker asks for one phrase deeper, the readers `inner` and `operand` give. -/
structure Asks (stop : Nat) (ts : List Located) (depth : Nat) (inner operand : Phrase) : Prop where
  conditional : ∀ w : Walker, w.depth = depth →
    Returns parsed ts w (inner (w.rest ts)) (w.conditional stop ts)
  unaryDeeper : ∀ w : Walker, w.depth = depth →
    Returns parsed ts w (operand (w.rest ts)) (w.unaryDeeper stop ts)

section Routines

variable {depth : Nat} {inner operand : Phrase}

/-- The loop has the arguments before in hand, where the reader puts each one before those after it.
The fuel lasts, as each comma is a token. -/
theorem argumentsAfter_returns (asks : Asks stop ts depth inner operand) {fuel : Nat}
    (trees : List Expression) (height : Nat) (level : w.depth = depth)
    (enough : (w.rest ts).length < fuel) :
    Returns parsedAll ts w
      ((arguments stop inner fuel (w.rest ts)).map fun more =>
        (trees ++ more.1, max height more.2.1, more.2.2))
      (w.argumentsAfter stop ts trees height) := by
  induction fuel generalizing w trees height with
  | zero => exact absurd enough (Nat.not_lt_zero _)
  | succ fuel ih =>
    rw [argumentsAfter, arguments]
    cases asks.conditional w level with
    | fails why moved read ran =>
      rw [read, ran]
      exact .fails why moved rfl rfl
    | @gives left a moved read ran =>
      rw [read, ran]
      refine .after moved ?_
      dsimp only [Option.bind_eq_bind, Option.bind_some, parsed]
      have notLonger := moved.length_rest_le
      rcases ahead_or ts left .comma with ⟨found, tail⟩ | ⟨other, none⟩
      · have shorter := length_rest_advance found
        rw [if_pos found, tail]
        refine .after (.of_ahead found) ?_
        have later := ih (w := left.advance) (trees ++ [a.1]) (max height a.2)
          (moved.depth.trans level) (by omega)
        dsimp only
        generalize arguments stop inner fuel (left.advance.rest ts) = more at later ⊢
        cases more with
        | error why => exact later
        | ok more => simpa [Except.map, Nat.max_assoc] using later
      · rw [if_neg other]
        split
        · rename_i here
          exact absurd here (none _)
        · cases require_returns stop ts left .closeParen with
          | fails why moved read ran =>
            rw [read, Option.some.inj ran]
            exact .fails why moved rfl rfl
          | gives b moved read ran =>
            rw [read, Option.some.inj ran]
            exact .gives _ moved rfl rfl

theorem callArguments_returns (asks : Asks stop ts depth inner operand) (level : w.depth = depth) :
    Returns parsedAll ts w (Parser.callArguments stop inner (w.rest ts))
      (w.callArguments stop ts) := by
  rw [Walker.callArguments, Parser.callArguments]
  rcases ahead_or ts w .closeParen with ⟨found, tail⟩ | ⟨other, none⟩
  · rw [if_pos found, tail]
    exact .after (.of_ahead found) (.done ([], 0))
  · rw [if_neg other]
    split
    · rename_i here
      exact absurd here (none _)
    · have given := argumentsAfter_returns asks [] 0 level
        (Nat.lt_succ_self (w.rest ts).length)
      generalize arguments stop inner ((w.rest ts).length + 1) (w.rest ts) = all at given ⊢
      cases all with
      | error why => exact given
      | ok all => simpa [Except.map] using given

theorem primary_returns (asks : Asks stop ts depth inner operand) (level : w.depth = depth) :
    Returns parsed ts w (Parser.primary stop limit inner (w.rest ts)) (w.primary stop ts) := by
  rw [Walker.primary]
  cases next : ts[w.index]? with
  | none =>
    rw [rest_of_end next]
    exact .fail _
  | some t =>
    have moved : Moved ts w w.advance := .advance (List.getElem?_eq_some_iff.mp next).1
    rw [rest_of_next next]
    refine .after moved ?_
    obtain ⟨token, start⟩ := t
    cases token with
    | number x => exact .done (Expression.number x, 1)
    | text s => exact .done (Expression.text s, 1)
    | name name =>
      simp only [Parser.primary, named]
      split
      · exact .done (Expression.truth true, 1)
      split
      · exact .done (Expression.truth false, 1)
      rcases ahead_or ts w.advance .openParen with ⟨found, tail⟩ | ⟨other, none⟩
      · rw [if_pos found, tail]
        refine .after (.of_ahead found) ?_
        cases callArguments_returns (w := w.advance.advance) asks level with
        | fails why moved read ran =>
          simp only [read, ran]
          exact .fails why moved rfl rfl
        | gives a moved read ran =>
          simp only [read, ran]
          exact .after moved (accept_returns stop ts _ _ _)
      · rw [if_neg other]
        split
        · rename_i here
          exact absurd here (none _)
        · exact .done (Expression.name name, 1)
    | symbol s =>
      by_cases group : s = .openParen
      · subst group
        simp only [Parser.primary, Parser.group]
        cases asks.conditional w.advance level with
        | fails why moved read ran =>
          rw [read, ran]
          exact .fails why moved rfl rfl
        | @gives left a moved read ran =>
          rw [read, ran]
          refine .after moved ?_
          cases require_returns stop ts left .closeParen with
          | fails why moved read ran =>
            simp only [parsed, read, Option.bind_eq_bind, Option.bind_some, Option.some.inj ran]
            exact .fails why moved rfl rfl
          | gives b moved read ran =>
            simp only [parsed, read, Option.bind_eq_bind, Option.bind_some, Option.some.inj ran]
            exact .gives a moved rfl rfl
      · cases s <;> first | exact .fail _ | exact absurd rfl group

theorem power_returns (asks : Asks stop ts depth inner operand) (level : w.depth = depth) :
    Returns parsed ts w (Parser.power stop limit inner operand (w.rest ts)) (w.power stop ts) := by
  rw [Walker.power, Parser.power]
  cases primary_returns asks level with
  | fails why moved read ran =>
    rw [read, ran]
    exact .fails why moved rfl rfl
  | @gives left base moved read ran =>
    rw [read, ran]
    refine .after moved ?_
    dsimp only [Option.bind_eq_bind, Option.bind_some, parsed]
    rcases ahead_or ts left .caret with ⟨found, tail⟩ | ⟨other, none⟩
    · rw [if_pos found, tail]
      refine .after (.of_ahead found) ?_
      cases asks.unaryDeeper left.advance (moved.depth.trans level) with
      | fails why moved read ran =>
        simp only [read, ran]
        exact .fails why moved rfl rfl
      | gives exponent moved read ran =>
        simp only [read, ran]
        exact .after moved (accept_returns stop ts _ _ _)
    · rw [if_neg other]
      split
      · rename_i here
        exact absurd here (none _)
      · exact .done base

theorem unary_returns (asks : Asks stop ts depth inner operand) (level : w.depth = depth) :
    Returns parsed ts w (prefixed stop limit inner operand (w.rest ts)) (w.unary stop ts) := by
  rw [Walker.unary, prefixed, symbol?_rest]
  cases seen : w.ahead ts with
  | none => exact power_returns asks level
  | some s =>
    dsimp only [Option.map_some, Option.bind_some]
    cases unaryOp? s with
    | none => exact power_returns asks level
    | some op =>
      refine .after (.of_ahead seen) ?_
      cases asks.unaryDeeper w.advance level with
      | fails why moved read ran =>
        simp only [read, ran]
        exact .fails why moved rfl rfl
      | gives a moved read ran =>
        simp only [read, ran]
        exact .after moved (accept_returns stop ts _ _ _)

theorem binaryAfter_returns {above : Nat → Phrase} {least fuel : Nat} {left : Measured}
    (asksRight : ∀ level, least ≤ level → level < levels → ∀ w : Walker, w.depth = depth →
      Returns parsed ts w (above (level + 1) (w.rest ts)) (w.binary stop ts (level + 1)))
    (level : w.depth = depth) (enough : (w.rest ts).length ≤ fuel) :
    Returns parsed ts w (climb stop limit above least fuel (parsed left (w.rest ts)))
      (w.binaryAfter stop ts least left) := by
  induction fuel generalizing w left with
  | zero =>
    -- No tokens are left, so the loop sees no operator.
    have seen : w.ahead ts = none := by
      cases seen : w.ahead ts with
      | none => rfl
      | some s => exact absurd (length_rest_advance seen) (by omega)
    rw [binaryAfter, seen]
    exact .done left
  | succ fuel ih =>
    rw [binaryAfter, climb]
    simp only [parsed, symbol?_rest]
    cases seen : w.ahead ts with
    | none => exact .done left
    | some s =>
      dsimp only [Option.map_some, Option.bind_some]
      cases named : binaryOp? s with
      | none => exact .done left
      | some operator =>
        obtain ⟨op, next⟩ := operator
        dsimp only
        by_cases loose : next < least
        · rw [if_pos loose, if_pos loose]
          exact .done left
        · rw [if_neg loose, if_neg loose]
          have shorter := length_rest_advance seen
          refine .after (.of_ahead seen) ?_
          cases asksRight next (Nat.not_lt.mp loose) (level_lt_of_binaryOp? named) w.advance
            level with
          | fails why moved read ran =>
            rw [read, ran]
            exact .fails why moved rfl rfl
          | @gives after right moved read ran =>
            rw [read, ran]
            refine .after moved ?_
            have notLonger := moved.length_rest_le
            dsimp only [Option.bind_eq_bind, Option.bind_some, parsed]
            cases accept_returns stop ts after (.binary op left.1 right.1)
                (1 + max left.2 right.2) with
            | fails why moved read ran =>
              rw [read, Option.some.inj ran]
              exact .fails why moved rfl rfl
            | gives joined moved' read ran =>
              rw [read, Option.some.inj ran]
              have := moved'.length_rest_le
              refine .after moved' (ih ?_ (by omega))
              exact (moved'.depth.trans moved.depth).trans level

theorem binary_of_right (asks : Asks stop ts depth inner operand) {turns least : Nat}
    (asksRight : ∀ level, least ≤ level → level < levels → ∀ w : Walker, w.depth = depth →
      Returns parsed ts w
        (operators stop limit (prefixed stop limit inner operand) turns (level + 1) (w.rest ts))
        (w.binary stop ts (level + 1)))
    (level : w.depth = depth) :
    Returns parsed ts w
      (operators stop limit (prefixed stop limit inner operand) (turns + 1) least (w.rest ts))
      (w.binary stop ts least) := by
  rw [binary, operators]
  cases unary_returns asks level with
  | fails why moved read ran =>
    simp only [read, ran]
    exact .fails why moved rfl rfl
  | gives left moved read ran =>
    simp only [read, ran]
    exact .after moved
      (binaryAfter_returns asksRight (moved.depth.trans level) moved.length_rest_le)

/-- The levels asked for on the right of operators increase, and no operator has the last one. -/
theorem binary_returns (asks : Asks stop ts depth inner operand) {turns : Nat} (least : Nat)
    (enough : levels ≤ turns + least) (level : w.depth = depth) :
    Returns parsed ts w
      (operators stop limit (prefixed stop limit inner operand) (turns + 1) least (w.rest ts))
      (w.binary stop ts least) := by
  induction turns generalizing w least with
  | zero => exact binary_of_right asks (fun next above below => absurd below (by omega)) level
  | succ turns ih =>
    exact binary_of_right asks (fun next above _ w' level' => ih _ (by omega) level') level

theorem conditionalInside_returns (asks : Asks stop ts depth inner operand)
    (level : w.depth = depth) :
    Returns parsed ts w (Parser.conditional stop limit inner operand (w.rest ts))
      (w.conditionalInside stop ts) := by
  rw [conditionalInside, Parser.conditional]
  cases binary_returns asks 0 (Nat.le_add_right levels 0) level with
  | fails why moved read ran =>
    rw [read, ran]
    exact .fails why moved rfl rfl
  | @gives asked condition moved read ran =>
    rw [read, ran]
    refine .after moved ?_
    replace level := moved.depth.trans level
    dsimp only [Option.bind_eq_bind, Option.bind_some, parsed]
    rcases ahead_or ts asked .question with ⟨found, tail⟩ | ⟨other, none⟩
    · rw [if_pos found, tail]
      refine .after (.of_ahead found) ?_
      dsimp only
      cases asks.conditional asked.advance level with
      | fails why moved read ran =>
        rw [read, ran]
        exact .fails why moved rfl rfl
      | @gives chosen yes moved read ran =>
        rw [read, ran]
        refine .after moved ?_
        replace level := moved.depth.trans level
        dsimp only [Option.bind_some, parsed]
        cases require_returns stop ts chosen .colon with
        | fails why moved read ran =>
          rw [read, Option.some.inj ran]
          exact .fails why moved rfl rfl
        | @gives parted _ moved read ran =>
          rw [read, Option.some.inj ran]
          refine .after moved ?_
          dsimp only
          cases asks.conditional parted (moved.depth.trans level) with
          | fails why moved read ran =>
            rw [read, ran]
            exact .fails why moved rfl rfl
          | gives no moved read ran =>
            rw [read, ran]
            exact .after moved (accept_returns stop ts _ _ _)
    · rw [if_neg other]
      split
      · rename_i here
        exact absurd here (none _)
      · exact .done condition

end Routines

/-- Inside of a phrase the walker gives what it gives after it, once it has left the phrase. -/
theorem Returns.leave {given : Except SyntaxError Parsed} {reply : Option (Reply Measured)}
    (room : w.depth < limit) (inside : Returns parsed ts w.enter given reply) :
    Returns parsed ts w given (do
      let (result, w) ← reply
      some (result, w.leave)) := by
  cases inside with
  | fails why moved read ran => exact .fails why (moved.leave room) read (ran ▸ rfl)
  | gives a moved read ran => exact .gives a (moved.leave room) read (ran ▸ rfl)

/-- At every depth the walker asks for phrases and operands with the room that is left. -/
theorem asks_of_room (stop : Nat) (ts : List Located) {room depth : Nat}
    (left : room + depth = limit) :
    Asks stop ts depth (phrase stop limit room) (Parser.operand stop limit room) := by
  -- A phrase deeper there is room for one phrase less, so that the readers turn back where the
  -- walker meets the limit.
  induction room generalizing depth with
  | zero =>
    constructor
    · intro w level
      rw [Walker.conditional, if_pos (by omega)]
      exact .fail _
    · intro w level
      rw [unaryDeeper, if_pos (by omega)]
      exact .fail _
  | succ room ih =>
    have asks : Asks stop ts (depth + 1) (phrase stop limit room)
        (Parser.operand stop limit room) := ih (by omega)
    constructor
    · intro w level
      rw [Walker.conditional, if_neg (by omega)]
      exact (conditionalInside_returns (w := w.enter) asks (by rw [← level]; rfl)).leave (by omega)
    · intro w level
      rw [unaryDeeper, if_neg (by omega)]
      exact (unary_returns (w := w.enter) asks (by rw [← level]; rfl)).leave (by omega)

end RecipeEngine.Parser.Walker
