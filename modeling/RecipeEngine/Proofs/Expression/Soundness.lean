import RecipeEngine.Proofs.Expression.Grammar

namespace RecipeEngine.Parser

open Grammar

def tokens (ts : List Located) : List Token := ts.map Located.token

@[simp] theorem tokens_nil : tokens [] = [] := rfl

@[simp] theorem tokens_cons (t : Located) (ts : List Located) :
    tokens (t :: ts) = t.token :: tokens ts := rfl

@[simp] theorem tokens_append (a b : List Located) : tokens (a ++ b) = tokens a ++ tokens b :=
  List.map_append

theorem symbol?_eq_some {ts rest : List Located} {s : Symbol} (found : symbol? ts = some (s, rest)) :
    ∃ start, ts = ⟨.symbol s, start⟩ :: rest := by
  unfold symbol? at found
  split at found
  · rename_i start tail
    cases found
    exact ⟨start, rfl⟩
  · cases found

theorem binaryOp?_eq_some_iff {s : Symbol} {op : BinaryOp} {level : Nat} :
    binaryOp? s = some (op, level) ↔ (s, op) ∈ between level := by
  constructor
  · intro found
    cases s <;> cases found <;> decide
  · intro member
    match level with
    | 0 => exact (by decide : ∀ p ∈ between 0, binaryOp? p.1 = some (p.2, 0)) _ member
    | 1 => exact (by decide : ∀ p ∈ between 1, binaryOp? p.1 = some (p.2, 1)) _ member
    | 2 => exact (by decide : ∀ p ∈ between 2, binaryOp? p.1 = some (p.2, 2)) _ member
    | 3 => exact (by decide : ∀ p ∈ between 3, binaryOp? p.1 = some (p.2, 3)) _ member
    | 4 => exact (by decide : ∀ p ∈ between 4, binaryOp? p.1 = some (p.2, 4)) _ member
    | _ + 5 => exact absurd member List.not_mem_nil

theorem unaryOp?_eq_some_iff {s : Symbol} {op : UnaryOp} :
    unaryOp? s = some op ↔ (s, op) ∈ before := by
  constructor
  · intro found
    cases s <;> cases found <;> decide
  · exact (by decide : ∀ p ∈ before, unaryOp? p.1 = some p.2) (s, op)

theorem level_lt_of_binaryOp? {s : Symbol} {op : BinaryOp} {level : Nat}
    (found : binaryOp? s = some (op, level)) : level < levels := by
  cases s <;> cases found <;> decide

/-- What a reader of a layer has taken: tokens that derive its tree, whose height it has counted
and found low enough. -/
structure Taken (tallest : Nat) (layer : Layer) (depth : Nat) (ts : List Located)
    (parsed : Parsed) : Prop where
  derives : ∃ used, ts = used ++ parsed.rest ∧ Derives layer depth (tokens used) parsed.tree
  height : parsed.height = parsed.tree.height
  low : parsed.height ≤ tallest

/-- Whatever the reader gives, it has taken in the layer. -/
def Sound (tallest : Nat) (layer : Layer) (depth : Nat) (read : Phrase) : Prop :=
  ∀ ⦃ts parsed⦄, read ts = .ok parsed → Taken tallest layer depth ts parsed

/-- The same of a reader that takes up room for itself: without room it gives nothing. -/
def SoundInside (tallest : Nat) (layer : Layer) (room : Nat) (read : Phrase) : Prop :=
  ∀ ⦃ts parsed⦄, read ts = .ok parsed → ∃ depth, room = depth + 1 ∧
    Taken tallest layer depth ts parsed

theorem Taken.mono {tallest depth : Nat} {layer looser : Layer} {ts : List Located}
    {parsed : Parsed} (taken : Taken tallest layer depth ts parsed)
    (loosen : ∀ {w e}, Derives layer depth w e → Derives looser depth w e) :
    Taken tallest looser depth ts parsed := by
  obtain ⟨used, split, derivation⟩ := taken.derives
  exact ⟨⟨used, split, loosen derivation⟩, taken.height, taken.low⟩

theorem Taken.length_le {tallest depth : Nat} {layer : Layer} {ts : List Located}
    {parsed : Parsed} (taken : Taken tallest layer depth ts parsed) :
    parsed.rest.length ≤ ts.length := by
  obtain ⟨used, split, -⟩ := taken.derives
  rw [split, List.length_append]
  omega

variable {stop tallest : Nat}

theorem node_eq_ok {tree : Expression} {height : Nat} {rest : List Located} {parsed : Parsed}
    (accepted : node stop tallest tree height rest = .ok parsed) :
    height ≤ tallest ∧ parsed = ⟨tree, height, rest⟩ := by
  unfold node at accepted
  split at accepted
  · cases accepted
  · rename_i low
    cases accepted
    exact ⟨Nat.not_lt.mp low, rfl⟩

theorem expect_eq_ok {s : Symbol} {ts rest : List Located}
    (accepted : expect stop s ts = .ok rest) : ∃ start, ts = ⟨.symbol s, start⟩ :: rest := by
  cases ts with
  | nil => cases accepted
  | cons first tail =>
    obtain ⟨token, start⟩ := first
    simp only [expect] at accepted
    split at accepted
    · rename_i same
      cases accepted
      exact ⟨start, by rw [same]⟩
    · cases accepted

variable {room : Nat} {inner operand : Phrase}

/-- What `arguments` takes: conditionals with commas between them and a closing parenthesis. -/
theorem arguments_sound (sound : SoundInside tallest .conditional room inner) {fuel height : Nat}
    {ts rest : List Located} {trees : List Expression}
    (accepted : arguments stop inner fuel ts = .ok (trees, height, rest)) :
    ∃ depth used start w e pieces, room = depth + 1 ∧
      ts = used ++ ⟨.symbol .closeParen, start⟩ :: rest ∧ tokens used = w ++ commaEach pieces ∧
      trees = e :: pieces.map (·.2) ∧ Derives .conditional depth w e ∧
      (∀ piece ∈ pieces, Derives .conditional depth piece.1 piece.2) ∧
      height = Expression.tallest trees := by
  induction fuel generalizing ts trees height with
  | zero => cases accepted
  | succ fuel ih =>
    simp only [arguments] at accepted
    cases read : inner ts with
    | error why => simp [read] at accepted
    | ok first =>
      simp only [read] at accepted
      obtain ⟨depth, inside, taken⟩ := sound read
      obtain ⟨used, split, derivation⟩ := taken.derives
      split at accepted
      · rename_i tail found
        obtain ⟨comma, atComma⟩ := symbol?_eq_some found
        cases more : arguments stop inner fuel tail with
        | error why => simp [more] at accepted
        | ok answer =>
          obtain ⟨others, tall, last⟩ := answer
          simp only [more, Except.ok.injEq, Prod.mk.injEq] at accepted
          obtain ⟨rfl, rfl, rfl⟩ := accepted
          obtain ⟨depth', used', close, w, e, pieces, inside', split', atUsed, rfl, head, others,
            tallEq⟩ := ih more
          obtain rfl : depth = depth' := by omega
          refine ⟨depth, used ++ ⟨.symbol .comma, comma⟩ :: used', close, tokens used, first.tree,
            (w, e) :: pieces, inside, ?_, ?_, rfl, derivation, ?_, ?_⟩
          · rw [split, atComma, split', List.append_assoc, List.cons_append]
          · simp [commaEach, atUsed]
          · intro piece member
            rcases List.mem_cons.mp member with rfl | later
            · exact head
            · exact others piece later
          · rw [taken.height, tallEq]
            rfl
      · cases closed : expect stop .closeParen first.rest with
        | error why => simp [closed] at accepted
        | ok tail =>
          simp only [closed, Except.ok.injEq, Prod.mk.injEq] at accepted
          obtain ⟨rfl, rfl, rfl⟩ := accepted
          obtain ⟨close, atClose⟩ := expect_eq_ok closed
          refine ⟨depth, used, close, tokens used, first.tree, [], inside, ?_, ?_, rfl, derivation,
            ?_, ?_⟩
          · rw [split, atClose]
          · simp [commaEach]
          · simp
          · simp [taken.height, Expression.tallest]

theorem leaf_taken {depth : Nat} {layer : Layer} {t : Located} {tree : Expression} {rest : List Located}
    (positive : 0 < tallest) (derivation : Derives layer depth [t.token] tree)
    (leaf : tree.height = 1) : Taken tallest layer depth (t :: rest) ⟨tree, 1, rest⟩ :=
  ⟨⟨[t], rfl, derivation⟩, leaf.symm, positive⟩

theorem named_sound (positive : 0 < tallest) (sound : SoundInside tallest .conditional room inner)
    {name : String} {start : Nat} {rest : List Located} {parsed : Parsed}
    (accepted : named stop tallest inner name rest = .ok parsed) :
    Taken tallest .primary room (⟨.name name, start⟩ :: rest) parsed := by
  unfold named at accepted
  split at accepted
  · rename_i yes
    cases accepted
    exact leaf_taken positive (yes ▸ .yes) rfl
  · rename_i notTrue
    split at accepted
    · rename_i no
      cases accepted
      exact leaf_taken positive (no ▸ .no) rfl
    · rename_i notFalse
      split at accepted
      · rename_i tail found
        obtain ⟨opened, atOpen⟩ := symbol?_eq_some found
        cases called : callArguments stop inner tail with
        | error why => simp [called] at accepted
        | ok answer =>
          obtain ⟨trees, height, last⟩ := answer
          simp only [called] at accepted
          obtain ⟨low, rfl⟩ := node_eq_ok accepted
          unfold callArguments at called
          split at called
          · rename_i after closed
            obtain ⟨close, atClose⟩ := symbol?_eq_some closed
            cases called
            refine ⟨⟨[⟨.name name, start⟩, ⟨.symbol .openParen, opened⟩,
              ⟨.symbol .closeParen, close⟩], ?_, .callNone notTrue notFalse⟩, rfl, low⟩
            rw [atOpen, atClose]
            rfl
          · obtain ⟨depth, used, close, w, e, pieces, rfl, split, atUsed, rfl, head, others, tall⟩ :=
              arguments_sound sound called
            refine ⟨⟨⟨.name name, start⟩ :: ⟨.symbol .openParen, opened⟩ ::
              (used ++ [⟨.symbol .closeParen, close⟩]), ?_, ?_⟩, ?_, low⟩
            · simp [atOpen, split]
            · have derivation := Derives.callSome notTrue notFalse head others
              simpa [atUsed] using derivation
            · simp only [tall, Expression.height]
      · cases accepted
        exact leaf_taken positive (.name notTrue notFalse) rfl

theorem group_sound (sound : SoundInside tallest .conditional room inner) {start : Nat}
    {ts : List Located} {parsed : Parsed} (accepted : group stop inner ts = .ok parsed) :
    Taken tallest .primary room (⟨.symbol .openParen, start⟩ :: ts) parsed := by
  unfold group at accepted
  cases read : inner ts with
  | error why => simp [read] at accepted
  | ok whole =>
    simp only [read] at accepted
    obtain ⟨depth, rfl, taken⟩ := sound read
    obtain ⟨used, split, derivation⟩ := taken.derives
    cases closed : expect stop .closeParen whole.rest with
    | error why => simp [closed] at accepted
    | ok tail =>
      simp only [closed, Except.ok.injEq] at accepted
      cases accepted
      obtain ⟨close, atClose⟩ := expect_eq_ok closed
      refine ⟨⟨⟨.symbol .openParen, start⟩ :: (used ++ [⟨.symbol .closeParen, close⟩]), ?_, ?_⟩,
        taken.height, taken.low⟩
      · simp [split, atClose]
      · simpa using Derives.group derivation

theorem primary_sound (positive : 0 < tallest) (sound : SoundInside tallest .conditional room inner) :
    Sound tallest .primary room (primary stop tallest inner) := by
  intro ts parsed accepted
  unfold primary at accepted
  split at accepted
  · cases accepted
  · cases accepted
    exact leaf_taken positive .number rfl
  · cases accepted
    exact leaf_taken positive .text rfl
  · exact named_sound positive sound accepted
  · exact group_sound sound accepted
  · cases accepted

theorem power_sound (positive : 0 < tallest) (sound : SoundInside tallest .conditional room inner)
    (soundOperand : SoundInside tallest .prefixed room operand) :
    Sound tallest .power room (power stop tallest inner operand) := by
  intro ts parsed accepted
  unfold power at accepted
  cases read : primary stop tallest inner ts with
  | error why => simp [read] at accepted
  | ok base =>
    simp only [read] at accepted
    have taken := primary_sound positive sound read
    split at accepted
    · rename_i tail found
      obtain ⟨caret, atCaret⟩ := symbol?_eq_some found
      cases raised : operand tail with
      | error why => simp [raised] at accepted
      | ok exponent =>
        simp only [raised] at accepted
        obtain ⟨low, rfl⟩ := node_eq_ok accepted
        obtain ⟨depth, rfl, takenExponent⟩ := soundOperand raised
        obtain ⟨used, split, derivation⟩ := taken.derives
        obtain ⟨used', split', derivation'⟩ := takenExponent.derives
        refine ⟨⟨used ++ ⟨.symbol .caret, caret⟩ :: used', ?_, ?_⟩, ?_, low⟩
        · simp [split, atCaret, split']
        · simpa using Derives.raised derivation derivation'
        · simp only [taken.height, takenExponent.height, Expression.height]
    · cases accepted
      exact taken.mono .noExponent

theorem prefixed_sound (positive : 0 < tallest)
    (sound : SoundInside tallest .conditional room inner)
    (soundOperand : SoundInside tallest .prefixed room operand) :
    Sound tallest .prefixed room (prefixed stop tallest inner operand) := by
  intro ts parsed accepted
  unfold prefixed at accepted
  split at accepted
  · rename_i s tail found
    split at accepted
    · rename_i op named
      obtain ⟨start, atSymbol⟩ := symbol?_eq_some found
      cases read : operand tail with
      | error why => simp [read] at accepted
      | ok under =>
        simp only [read] at accepted
        obtain ⟨low, rfl⟩ := node_eq_ok accepted
        obtain ⟨depth, rfl, taken⟩ := soundOperand read
        obtain ⟨used, split, derivation⟩ := taken.derives
        refine ⟨⟨⟨.symbol s, start⟩ :: used, ?_, ?_⟩, ?_, low⟩
        · simp [atSymbol, split]
        · exact .prefixed (unaryOp?_eq_some_iff.mp named) derivation
        · simp only [taken.height, Expression.height]
    · exact (power_sound positive sound soundOperand accepted).mono .noPrefix
  · exact (power_sound positive sound soundOperand accepted).mono .noPrefix

/-- The tokens do not go on with an operator whose level is `least` or more. -/
def NoOperator (least : Nat) (ts : List Located) : Prop :=
  ∀ ⦃s rest⦄, symbol? ts = some (s, rest) →
    ∀ ⦃op level⦄, binaryOp? s = some (op, level) → level < least

theorem NoOperator.of_empty {least : Nat} {ts : List Located} (empty : ts.length ≤ 0) :
    NoOperator least ts := by
  intro s rest found
  rw [List.length_eq_zero_iff.mp (Nat.le_zero.mp empty)] at found
  cases found

/-- A left operand that may be read at the level of an operator after it, and a right one that is
tighter, are joined by it. -/
theorem Taken.joined {depth level next : Nat} {ts tail : List Located} {left right : Parsed}
    {s : Symbol} {op : BinaryOp} (taken : Taken tallest (.operators level) depth ts left)
    (found : symbol? left.rest = some (s, tail)) (named : binaryOp? s = some (op, next))
    (looser : next ≤ level) (takenRight : Taken tallest (.operators (next + 1)) depth tail right)
    (low : 1 + max left.height right.height ≤ tallest) :
    Taken tallest (.operators next) depth ts
      ⟨.binary op left.tree right.tree, 1 + max left.height right.height, right.rest⟩ := by
  obtain ⟨start, atSymbol⟩ := symbol?_eq_some found
  obtain ⟨used, split, derivation⟩ := taken.derives
  obtain ⟨used', split', derivation'⟩ := takenRight.derives
  refine ⟨⟨used ++ ⟨.symbol s, start⟩ :: used', ?_, ?_⟩, ?_, low⟩
  · simp [split, atSymbol, split']
  · simpa using Derives.joined (binaryOp?_eq_some_iff.mp named) (derivation.loosen looser) derivation'
  · simp only [taken.height, takenRight.height, Expression.height]

/-- Climbing from a left operand of level `level`: what is joined on the way has ever looser
levels, since the right operands leave no tighter operator behind. -/
theorem climb_sound {depth : Nat} {above : Nat → Phrase} {least : Nat}
    (sound : ∀ level, least ≤ level → level < levels →
      Sound tallest (.operators (level + 1)) depth (above (level + 1)))
    (greedy : ∀ level, least ≤ level → level < levels →
      ∀ ⦃ts parsed⦄, above (level + 1) ts = .ok parsed → NoOperator (level + 1) parsed.rest)
    {fuel level : Nat} {ts : List Located} {left parsed : Parsed}
    (taken : Taken tallest (.operators level) depth ts left) (atLeast : least ≤ level)
    (gone : NoOperator (level + 1) left.rest) (enough : left.rest.length ≤ fuel)
    (accepted : climb stop tallest above least fuel left = .ok parsed) :
    Taken tallest (.operators least) depth ts parsed ∧ NoOperator least parsed.rest := by
  induction fuel generalizing left level with
  | zero =>
    cases accepted
    exact ⟨taken.mono (.loosen atLeast), .of_empty enough⟩
  | succ fuel ih =>
    simp only [climb] at accepted
    split at accepted
    · rename_i s tail found
      split at accepted
      · rename_i op next named
        split at accepted
        · rename_i loose
          cases accepted
          refine ⟨taken.mono (.loosen atLeast), fun s' rest' found' op' level' named' => ?_⟩
          simp only [found, Option.some.injEq, Prod.mk.injEq] at found'
          obtain ⟨rfl, rfl⟩ := found'
          simp only [named, Option.some.injEq, Prod.mk.injEq] at named'
          omega
        · rename_i tight
          obtain ⟨start, atSymbol⟩ := symbol?_eq_some found
          have bound := level_lt_of_binaryOp? named
          have below := gone found named
          cases read : above (next + 1) tail with
          | error why => simp [read] at accepted
          | ok right =>
            simp only [read] at accepted
            have takenRight := sound next (by omega) bound read
            cases made : node stop tallest (.binary op left.tree right.tree)
                (1 + max left.height right.height) right.rest with
            | error why => simp [made] at accepted
            | ok joined =>
              simp only [made] at accepted
              obtain ⟨low, rfl⟩ := node_eq_ok made
              have takenJoined := taken.joined found named (by omega) takenRight low
              have goneRight := greedy next (by omega) bound read
              have shorter := takenRight.length_le
              rw [atSymbol, List.length_cons] at enough
              exact ih takenJoined (by omega) goneRight (by simp only; omega) accepted
      · rename_i notNamed
        cases accepted
        refine ⟨taken.mono (.loosen atLeast), fun s' rest' found' op' level' named' => ?_⟩
        simp only [found, Option.some.injEq, Prod.mk.injEq] at found'
        obtain ⟨rfl, rfl⟩ := found'
        rw [notNamed] at named'
        cases named'
    · rename_i notFound
      cases accepted
      refine ⟨taken.mono (.loosen atLeast), fun s' rest' found' => ?_⟩
      rw [notFound] at found'
      cases found'

/-- Operands with their operators: the tree lies in the layer asked for, and no operator of it is
left behind. -/
theorem operators_sound {depth : Nat} (sound : Sound tallest .prefixed depth operand)
    {turns least : Nat} (few : least ≤ levels) (enough : levels < turns + least) :
    Sound tallest (.operators least) depth (operators stop tallest operand turns least) ∧
      ∀ ⦃ts parsed⦄, operators stop tallest operand turns least ts = .ok parsed →
        NoOperator least parsed.rest := by
  induction turns generalizing least with
  | zero => omega
  | succ turns ih =>
    have both : ∀ ⦃ts parsed⦄, operators stop tallest operand (turns + 1) least ts = .ok parsed →
        Taken tallest (.operators least) depth ts parsed ∧ NoOperator least parsed.rest := by
      intro ts parsed accepted
      simp only [operators] at accepted
      cases read : operand ts with
      | error why => simp [read] at accepted
      | ok left =>
        simp only [read] at accepted
        have taken : Taken tallest (.operators levels) depth ts left := (sound read).mono .operand
        refine climb_sound (fun level lower upper => (ih (by omega) (by omega)).1)
          (fun level lower upper => (ih (by omega) (by omega)).2) taken few ?_ taken.length_le accepted
        intro s rest _ op level named
        exact Nat.lt_succ_of_lt (level_lt_of_binaryOp? named)
    exact ⟨fun ts parsed accepted => (both accepted).1, fun ts parsed accepted => (both accepted).2⟩

theorem conditional_sound (positive : 0 < tallest)
    (sound : SoundInside tallest .conditional room inner)
    (soundOperand : SoundInside tallest .prefixed room operand) :
    Sound tallest .conditional room (conditional stop tallest inner operand) := by
  intro ts parsed accepted
  unfold conditional at accepted
  cases read : operators stop tallest (prefixed stop tallest inner operand) (levels + 1) 0 ts with
  | error why => simp [read] at accepted
  | ok condition =>
    simp only [read] at accepted
    have taken := (operators_sound (prefixed_sound positive sound soundOperand) (Nat.zero_le _)
      (by omega)).1 read
    split at accepted
    · rename_i tail found
      obtain ⟨question, atQuestion⟩ := symbol?_eq_some found
      cases readYes : inner tail with
      | error why => simp [readYes] at accepted
      | ok yes =>
        simp only [readYes] at accepted
        obtain ⟨depth, rfl, takenYes⟩ := sound readYes
        cases parted : expect stop .colon yes.rest with
        | error why => simp [parted] at accepted
        | ok after =>
          simp only [parted] at accepted
          obtain ⟨colon, atColon⟩ := expect_eq_ok parted
          cases readNo : inner after with
          | error why => simp [readNo] at accepted
          | ok no =>
            simp only [readNo] at accepted
            obtain ⟨low, rfl⟩ := node_eq_ok accepted
            obtain ⟨depth', same, takenNo⟩ := sound readNo
            obtain rfl : depth = depth' := by omega
            obtain ⟨used, split, derivation⟩ := taken.derives
            obtain ⟨usedYes, splitYes, derivationYes⟩ := takenYes.derives
            obtain ⟨usedNo, splitNo, derivationNo⟩ := takenNo.derives
            refine ⟨⟨used ++ ⟨.symbol .question, question⟩ ::
              (usedYes ++ ⟨.symbol .colon, colon⟩ :: usedNo), ?_, ?_⟩, ?_, low⟩
            · simp [split, atQuestion, splitYes, atColon, splitNo]
            · simpa using Derives.choice derivation derivationYes derivationNo
            · simp only [taken.height, takenYes.height, takenNo.height, Expression.height]
    · cases accepted
      exact taken.mono .noChoice

/-- A phrase and an operand take a conditional and a prefixed operand one level deeper. -/
theorem phrase_operand_sound (positive : 0 < tallest) (room : Nat) :
    SoundInside tallest .conditional room (phrase stop tallest room) ∧
      SoundInside tallest .prefixed room (Parser.operand stop tallest room) := by
  induction room with
  | zero =>
    constructor
    · intro ts parsed accepted
      simp [phrase, tooDeep] at accepted
    · intro ts parsed accepted
      simp [Parser.operand, tooDeep] at accepted
  | succ room ih =>
    constructor
    · intro ts parsed accepted
      simp only [phrase] at accepted
      exact ⟨room, rfl, conditional_sound positive ih.1 ih.2 accepted⟩
    · intro ts parsed accepted
      simp only [Parser.operand] at accepted
      exact ⟨room, rfl, prefixed_sound positive ih.1 ih.2 accepted⟩

end RecipeEngine.Parser
