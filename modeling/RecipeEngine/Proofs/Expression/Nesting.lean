import RecipeEngine.Proofs.Expression.BoundedStack
import RecipeEngine.Proofs.Expression.Parsing
import RecipeEngine.Proofs.Expression.Walking

namespace RecipeEngine.Parser

open Grammar

section Readers

variable {stop tallest depth : Nat} {ts : List Located} {layer : Layer}

/-- What a reader has left and counted: fewer tokens than there were, and the right height, which is
low enough. -/
structure Counted (tallest : Nat) (ts rest : List Located) (height counted : Nat) : Prop where
  shorter : rest.length < ts.length
  right : counted = height
  low : counted ≤ tallest

theorem Taken.counted {given : Parsed} (taken : Taken tallest layer depth ts given) :
    Counted tallest ts given.rest given.tree.height given.height := by
  obtain ⟨used, split, derivation⟩ := taken.derives
  obtain ⟨first, later, begun, -⟩ := derivation.begins
  obtain ⟨start, after, rfl, -⟩ := tokens_eq_cons begun
  refine ⟨?_, taken.height, taken.low⟩
  rw [split, List.cons_append, List.length_cons, List.length_append]
  omega

theorem SoundInside.counted {read : Phrase} {given : Parsed} {room : Nat}
    (sound : SoundInside tallest layer room read) (accepted : read ts = .ok given) :
    Counted tallest ts given.rest given.tree.height given.height := by
  obtain ⟨_, -, taken⟩ := sound accepted
  exact taken.counted

/-- From any level on; there are no operators from the last one on. -/
theorem operators_counted {operand : Phrase} (sound : Sound tallest .prefixed depth operand)
    {least : Nat} {given : Parsed}
    (accepted : operators stop tallest operand (levels + 1) least ts = .ok given) :
    Counted tallest ts given.rest given.tree.height given.height := by
  by_cases few : least ≤ levels
  · exact ((operators_sound sound few (by omega)).1 accepted).counted
  · rw [operators] at accepted
    cases read : operand ts with
    | error why => simp [read] at accepted
    | ok left =>
      -- All operators are too loose, so the operand is all that there is.
      have gone : NoOperator least left.rest := fun s rest _ op level named =>
        Nat.lt_trans (level_lt_of_binaryOp? named) (Nat.not_le.mp few)
      simp only [read, climb_stops gone] at accepted
      cases accepted
      exact (sound read).counted

theorem arguments_low {inner : Phrase} {room fuel height : Nat} {trees : List Expression}
    {rest : List Located} (sound : SoundInside tallest .conditional room inner)
    (accepted : arguments stop inner fuel ts = .ok (trees, height, rest)) : height ≤ tallest := by
  induction fuel generalizing ts trees height with
  | zero => cases accepted
  | succ fuel ih =>
    rw [arguments] at accepted
    cases read : inner ts with
    | error why => simp [read] at accepted
    | ok first =>
      have low := (sound.counted read).low
      simp only [read] at accepted
      split at accepted
      · rename_i tail _
        cases more : arguments stop inner fuel tail with
        | error why => simp [more] at accepted
        | ok others =>
          simp only [more] at accepted
          cases accepted
          exact Nat.max_le.mpr ⟨low, ih more⟩
      · cases closed : expect stop .closeParen first.rest with
        | error why => simp [closed] at accepted
        | ok tail =>
          simp only [closed] at accepted
          cases accepted
          exact low

theorem callArguments_counted {inner : Phrase} {room height : Nat} {trees : List Expression}
    {rest : List Located} (sound : SoundInside tallest .conditional room inner)
    (accepted : callArguments stop inner ts = .ok (trees, height, rest)) :
    Counted tallest ts rest (Expression.tallest trees) height := by
  unfold callArguments at accepted
  split at accepted
  · rename_i tail found
    obtain ⟨start, rfl⟩ := symbol?_eq_some found
    cases accepted
    exact ⟨Nat.lt_succ_self _, rfl, Nat.zero_le _⟩
  · obtain ⟨_, used, start, _, _, _, -, split, -, -, -, -, right⟩ := arguments_sound sound accepted
    refine ⟨?_, right, arguments_low sound accepted⟩
    rw [split, List.length_append, List.length_cons]
    omega

end Readers

namespace Walker

/-- A routine ends that was called at `w`: the walker is in as many phrases as before, and was never
in more than there may be; it has not moved back, nor beyond the tokens. What it gives is what a
reader gives, which leaves the tokens that are left. If it gives something it has taken a token, and
has counted the height of what it gives. -/
structure Ended {α β : Type} (pack : α × Nat → List Located → β) (height : α → Nat)
    (ts : List Located) (w left : Walker) (given : Except SyntaxError β)
    (result : Except SyntaxError (α × Nat)) : Prop where
  depth : left.depth = w.depth
  deepest : left.deepest ≤ limit
  onwards : w.index ≤ left.index
  within : left.index ≤ max w.index ts.length
  read : given = result.map fun a => pack a (left.rest ts)
  taken : ∀ a, result = .ok a → w.index < left.index
  right : ∀ a, result = .ok a → a.2 = height a.1
  low : ∀ a, result = .ok a → a.2 ≤ limit

def Ends {α β : Type} (pack : α × Nat → List Located → β) (height : α → Nat) (ts : List Located)
    (w : Walker) (given : Except SyntaxError β) (reply : Option (Reply (α × Nat))) : Prop :=
  ∃ result left, reply = some (result, left) ∧ Ended pack height ts w left given result

theorem Returns.ends {α β : Type} {pack : α × Nat → List Located → β} {height : α → Nat}
    {ts : List Located} {w : Walker} {given : Except SyntaxError β}
    {reply : Option (Reply (α × Nat))} (returns : Returns pack ts w given reply)
    (low : w.deepest ≤ limit)
    (counted : ∀ a rest, given = .ok (pack a rest) →
      Counted limit (w.rest ts) rest (height a.1) a.2) :
    Ends pack height ts w given reply := by
  cases returns with
  | @fails left why moved read ran =>
    have deepest := moved.deepest
    exact ⟨.error why, left, ran, moved.depth, by omega, moved.onwards, moved.within, read,
      nofun, nofun, nofun⟩
  | @gives left a moved read ran =>
    have deepest := moved.deepest
    have count := counted a _ read
    have shorter := count.shorter
    rw [length_rest, length_rest] at shorter
    refine ⟨.ok a, left, ran, moved.depth, by omega, moved.onwards, moved.within, read, ?_, ?_, ?_⟩
    · rintro _ -
      omega
    · rintro _ ⟨⟩
      exact count.right
    · rintro _ ⟨⟩
      exact count.low

/-- All routines come to an end that are called at `w`, with what the readers with `inner` and
`operand` for the phrases inside give. -/
structure RoutinesEnd (stop : Nat) (ts : List Located) (w : Walker) (inner operand : Phrase) :
    Prop where
  conditional : Ends parsed Expression.height ts w (inner (w.rest ts)) (w.conditional stop ts)
  binary : ∀ least, Ends parsed Expression.height ts w
    (operators stop limit (prefixed stop limit inner operand) (levels + 1) least (w.rest ts))
    (w.binary stop ts least)
  unary : Ends parsed Expression.height ts w (prefixed stop limit inner operand (w.rest ts))
    (w.unary stop ts)
  power : Ends parsed Expression.height ts w (Parser.power stop limit inner operand (w.rest ts))
    (w.power stop ts)
  primary : Ends parsed Expression.height ts w (Parser.primary stop limit inner (w.rest ts))
    (w.primary stop ts)
  callArguments : Ends parsedAll Expression.tallest ts w
    (Parser.callArguments stop inner (w.rest ts)) (w.callArguments stop ts)

/-- Whatever the tokens are and wherever the walker stands, in no more phrases than there may be,
all routines come to an end, with what the parser gives that has room for the other phrases. The
trees are low enough for an evaluation on a stack of `limit` nodes. -/
theorem routines_end (stop : Nat) (ts : List Located) (index : Nat) {depth : Nat}
    (within : depth ≤ limit) :
    RoutinesEnd stop ts (starting index depth) (phrase stop limit (limit - depth))
      (Parser.operand stop limit (limit - depth)) ∧
    (∀ tree, parse stop ts = .ok tree → tree.height ≤ limit) ∧
    ∀ tree : Expression, tree.height ≤ limit → ∀ scope,
      tree.evalWithin scope limit = some (tree.eval scope) := by
  have asks : Asks stop ts depth (phrase stop limit (limit - depth))
      (Parser.operand stop limit (limit - depth)) :=
    asks_of_room stop ts (Nat.sub_add_cancel within)
  have positive : 0 < limit := by decide
  obtain ⟨sound, soundOperand⟩ : SoundInside limit .conditional (limit - depth)
      (phrase stop limit (limit - depth)) ∧ SoundInside limit .prefixed (limit - depth)
      (Parser.operand stop limit (limit - depth)) := phrase_operand_sound positive _
  refine ⟨⟨?_, fun least => ?_, ?_, ?_, ?_, ?_⟩, ?_, ?_⟩
  · exact (asks.conditional _ rfl).ends within fun a rest accepted => sound.counted accepted
  · exact (binary_returns asks least (Nat.le_add_right _ _) rfl).ends within
      fun a rest accepted =>
        operators_counted (prefixed_sound positive sound soundOperand) accepted
  · exact (unary_returns asks rfl).ends within
      fun a rest accepted => (prefixed_sound positive sound soundOperand accepted).counted
  · exact (power_returns asks rfl).ends within
      fun a rest accepted => (power_sound positive sound soundOperand accepted).counted
  · exact (primary_returns asks rfl).ends within
      fun a rest accepted => (primary_sound positive sound accepted).counted
  · exact (callArguments_returns asks rfl).ends within
      fun a rest accepted => callArguments_counted sound accepted
  · exact fun tree accepted => (parse_eq_ok_iff.mp accepted).2
  · exact fun tree low scope => Expression.evalWithin_eq low

/-- The last phrase that may be opened is the operand's. -/
theorem routines_end_deepest :
    let ts : List Located := [⟨.symbol .minus, 0⟩, ⟨.name "a", 1⟩]
    255 ≤ limit ∧ ∃ left,
      (starting 0 255).unary 2 ts = some (.ok (.unary .negate (.name "a"), 2), left) ∧
        left.depth = 255 ∧ left.deepest ≤ limit ∧ 0 < left.index ∧ left.index ≤ 2 := by
  intro ts
  have within : 255 ≤ limit := by decide
  obtain ⟨result, left, ran, ended⟩ := (routines_end 2 ts 0 within).1.unary
  have read : prefixed 2 limit (phrase 2 limit 1) (Parser.operand 2 limit 1) ts =
      .ok ⟨.unary .negate (.name "a"), 2, []⟩ := rfl
  have given := read.symm.trans ended.read
  cases result with
  | error why => cases given
  | ok a =>
    obtain ⟨tree, height⟩ := a
    injection given with same
    injection same with sameTree sameHeight
    subst sameTree sameHeight
    exact ⟨within, left, ran, ended.depth, ended.deepest, ended.taken _ rfl, ended.within⟩

end Walker

end RecipeEngine.Parser
