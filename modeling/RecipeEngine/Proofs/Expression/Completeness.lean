import RecipeEngine.Proofs.Expression.Soundness

namespace RecipeEngine.Parser

open Grammar

/-- How tightly a symbol holds on to a phrase before it, with nothing for a symbol that ends every
phrase. -/
def grip (s : Symbol) : Nat :=
  match s with
  | .question => 1
  | .caret => 7
  | .openParen => 8
  | s =>
    match binaryOp? s with
    | some (_, level) => level + 2
    | none => 0

/-- The grip that is enough to go on with a phrase of a layer. -/
def layerGrip : Layer → Nat
  | .conditional => 1
  | .operators level => min (level + 2) 7
  | .prefixed => 7
  | .power => 7
  | .primary => 8

/-- The tokens do not go on with a phrase of the layer before them. -/
def Ends (layer : Layer) (ts : List Located) : Prop :=
  ∀ ⦃s rest⦄, symbol? ts = some (s, rest) → grip s < layerGrip layer

theorem Ends.mono {layer tighter : Layer} {ts : List Located} (ends : Ends layer ts)
    (le : layerGrip layer ≤ layerGrip tighter) : Ends tighter ts :=
  fun _ _ found => Nat.lt_of_lt_of_le (ends found) le

theorem Ends.at_symbol {layer : Layer} {s : Symbol} (weak : grip s < layerGrip layer) (start : Nat)
    (rest : List Located) : Ends layer (⟨.symbol s, start⟩ :: rest) := by
  intro s' rest' found
  simp only [symbol?, Option.some.injEq, Prod.mk.injEq] at found
  exact found.1 ▸ weak

theorem grip_of_binaryOp? {s : Symbol} {op : BinaryOp} {level : Nat}
    (named : binaryOp? s = some (op, level)) : grip s = level + 2 := by
  cases s <;> cases named <;> rfl

theorem Ends.noOperator {least : Nat} {ts : List Located} (ends : Ends (.operators least) ts) :
    NoOperator least ts := by
  intro s rest found op level named
  have weak := ends found
  rw [grip_of_binaryOp? named, layerGrip] at weak
  omega

theorem Ends.symbol?_ne {layer : Layer} {ts : List Located} {s : Symbol} (ends : Ends layer ts)
    (strong : layerGrip layer ≤ grip s) (rest : List Located) : symbol? ts ≠ some (s, rest) :=
  fun found => Nat.lt_irrefl _ (Nat.lt_of_lt_of_le (ends found) strong)

theorem tokens_eq_cons {used : List Located} {t : Token} {w : List Token}
    (atUsed : tokens used = t :: w) :
    ∃ start later, used = ⟨t, start⟩ :: later ∧ tokens later = w := by
  obtain ⟨first, later, rfl, rfl, rfl⟩ := List.map_eq_cons_iff.mp atUsed
  exact ⟨first.start, later, rfl, rfl⟩

theorem tokens_eq_append {used : List Located} {w w' : List Token}
    (atUsed : tokens used = w ++ w') :
    ∃ front back, used = front ++ back ∧ tokens front = w ∧ tokens back = w' :=
  List.map_eq_append_iff.mp atUsed

variable {stop tallest : Nat}

theorem node_low {tree : Expression} (low : tree.height ≤ tallest) (rest : List Located) :
    node stop tallest tree tree.height rest = .ok ⟨tree, tree.height, rest⟩ := by
  rw [node, if_neg (Nat.not_lt.mpr low)]

theorem climb_stops {above : Nat → Phrase} {least : Nat} {left : Parsed}
    (gone : NoOperator least left.rest) (fuel : Nat) :
    climb stop tallest above least fuel left = .ok left := by
  cases fuel with
  | zero => rfl
  | succ fuel =>
    simp only [climb]
    split
    · rename_i s rest found
      split
      · rename_i op level named
        rw [if_pos (gone found named)]
      · rfl
    · rfl

theorem climb_fuel {above : Nat → Phrase} {least : Nat}
    (shrinks : ∀ level, least ≤ level → level < levels →
      ∀ ⦃ts parsed⦄, above (level + 1) ts = .ok parsed → parsed.rest.length ≤ ts.length)
    {fuel fuel' : Nat} {left : Parsed} (enough : left.rest.length ≤ fuel)
    (enough' : left.rest.length ≤ fuel') :
    climb stop tallest above least fuel left = climb stop tallest above least fuel' left := by
  induction fuel generalizing fuel' left with
  | zero =>
    have gone : NoOperator least left.rest := .of_empty enough
    rw [climb_stops gone, climb_stops gone]
  | succ fuel ih =>
    cases fuel' with
    | zero =>
      have gone : NoOperator least left.rest := .of_empty enough'
      rw [climb_stops gone, climb_stops gone]
    | succ fuel' =>
      simp only [climb]
      split
      · rename_i s rest found
        obtain ⟨start, atSymbol⟩ := symbol?_eq_some found
        rw [atSymbol, List.length_cons] at enough enough'
        split
        · rename_i op level named
          split
          · rfl
          · rename_i tight
            cases read : above (level + 1) rest with
            | error why => rfl
            | ok right =>
              have shorter := shrinks level (by omega) (level_lt_of_binaryOp? named) read
              simp only
              cases made : node stop tallest (.binary op left.tree right.tree)
                  (1 + max left.height right.height) right.rest with
              | error why => rfl
              | ok joined =>
                obtain ⟨-, rfl⟩ := node_eq_ok made
                exact ih (by simp only; omega) (by simp only; omega)
        · rfl
      · rfl

/-- The reader takes the tokens of a phrase of the layer off the head of a list and gives the
phrase's tree, if what follows does not go on with the layer. -/
def Reads (tallest : Nat) (layer : Layer) (read : Phrase) (w : List Token) (e : Expression) :
    Prop :=
  ∀ used rest, tokens used = w → e.height ≤ tallest → Ends layer rest →
    read (used ++ rest) = .ok ⟨e, e.height, rest⟩

/-- A list of operators of a level, and of tighter ones, is climbed up to a left operand from which
the climb goes on with what follows. -/
def Climbs (stop tallest level : Nat) (operand : Phrase) (w : List Token) (e : Expression) : Prop :=
  ∀ used rest turns least, tokens used = w → e.height ≤ tallest →
    Ends (.operators (level + 1)) rest → least ≤ level → levels ≤ turns + least →
    operators stop tallest operand (turns + 1) least (used ++ rest) =
      climb stop tallest (operators stop tallest operand turns) least rest.length
        ⟨e, e.height, rest⟩

section Productions

variable {inner operand : Phrase}

theorem Reads.noExponent {w : List Token} {e : Expression}
    (base : Reads tallest .primary (primary stop tallest inner) w e) :
    Reads tallest .power (power stop tallest inner operand) w e := by
  intro used rest atUsed low ends
  have first := base used rest atUsed low (ends.mono (by decide))
  have noCaret := ends.symbol?_ne (s := .caret) (Nat.le_refl _)
  simp only [power, first]

theorem Reads.raised {b x : List Token} {base exponent : Expression}
    (readsBase : Reads tallest .primary (primary stop tallest inner) b base)
    (readsExponent : Reads tallest .prefixed operand x exponent) :
    Reads tallest .power (power stop tallest inner operand) (b ++ .symbol .caret :: x)
      (.binary .power base exponent) := by
  intro used rest atUsed low ends
  have low' := low
  rw [Expression.height] at low'
  obtain ⟨front, back, rfl, atFront, atBack⟩ := tokens_eq_append atUsed
  obtain ⟨start, later, rfl, atLater⟩ := tokens_eq_cons atBack
  have first := readsBase front (⟨.symbol .caret, start⟩ :: (later ++ rest)) atFront (by omega)
    (.at_symbol (by decide) _ _)
  have second := readsExponent later rest atLater (by omega) ends
  rw [List.append_assoc, List.cons_append]
  simp only [power, first, symbol?, second]
  exact node_low low rest

theorem prefixed_of_power {ts : List Located} {parsed : Parsed}
    (accepted : power stop tallest inner operand ts = .ok parsed) :
    prefixed stop tallest inner operand ts = .ok parsed := by
  unfold prefixed
  split
  · rename_i s rest found
    split
    · rename_i op named
      obtain ⟨start, rfl⟩ := symbol?_eq_some found
      cases s <;> cases named <;> simp [power, primary] at accepted
    · exact accepted
  · exact accepted

theorem Reads.noPrefix {w : List Token} {e : Expression}
    (reads : Reads tallest .power (power stop tallest inner operand) w e) :
    Reads tallest .prefixed (prefixed stop tallest inner operand) w e :=
  fun used rest atUsed low ends => prefixed_of_power (reads used rest atUsed low ends)

theorem Reads.prefixed {w : List Token} {e : Expression} {s : Symbol} {op : UnaryOp}
    (member : (s, op) ∈ before) (reads : Reads tallest .prefixed operand w e) :
    Reads tallest .prefixed (prefixed stop tallest inner operand) (.symbol s :: w)
      (.unary op e) := by
  intro used rest atUsed low ends
  have low' := low
  rw [Expression.height] at low'
  obtain ⟨start, later, rfl, atLater⟩ := tokens_eq_cons atUsed
  have under := reads later rest atLater (by omega) ends
  simp only [Parser.prefixed, List.cons_append, symbol?, unaryOp?_eq_some_iff.mpr member, under]
  exact node_low low rest

theorem Climbs.single {depth : Nat} {w : List Token} {e : Expression}
    (sound : Sound tallest .prefixed depth operand)
    (reads : Reads tallest .prefixed operand w e) :
    Climbs stop tallest levels operand w e := by
  intro used rest turns least atUsed low ends few enough
  have first := reads used rest atUsed low (ends.mono (by decide))
  simp only [operators, first]
  refine climb_fuel (fun level lower upper ts parsed read => ?_) ?_ (Nat.le_refl _)
  · exact ((operators_sound sound (by omega) (by omega)).1 read).length_le
  · simp only [List.length_append]
    omega

theorem Climbs.tighter {level : Nat} {w : List Token} {e : Expression}
    (climbs : Climbs stop tallest (level + 1) operand w e) :
    Climbs stop tallest level operand w e := by
  intro used rest turns least atUsed low ends few enough
  have looser : Ends (.operators (level + 1 + 1)) rest :=
    ends.mono (by simp only [layerGrip]; omega)
  exact climbs used rest turns least atUsed low looser (by omega) enough

/-- Where the climb cannot go on, the whole list of operators has been read. -/
theorem Climbs.reads {level : Nat} {w : List Token} {e : Expression}
    (climbs : Climbs stop tallest level operand w e) (turns : Nat) (enough : levels ≤ turns + level) :
    Reads tallest (.operators level) (operators stop tallest operand (turns + 1) level) w e := by
  intro used rest atUsed low ends
  have looser : Ends (.operators (level + 1)) rest :=
    ends.mono (by simp only [layerGrip]; omega)
  rw [climbs used rest turns level atUsed low looser (Nat.le_refl _) enough]
  exact climb_stops ends.noOperator _

theorem Climbs.joined {depth level : Nat} {l r : List Token} {a b : Expression} {s : Symbol}
    {op : BinaryOp} (sound : Sound tallest .prefixed depth operand)
    (member : (s, op) ∈ between level) (left : Climbs stop tallest level operand l a)
    (right : Climbs stop tallest (level + 1) operand r b) :
    Climbs stop tallest level operand (l ++ .symbol s :: r) (.binary op a b) := by
  intro used rest turns least atUsed low ends few enough
  have low' := low
  rw [Expression.height] at low'
  have named := binaryOp?_eq_some_iff.mpr member
  have bound := level_lt_of_binaryOp? named
  obtain ⟨front, back, rfl, atFront, atBack⟩ := tokens_eq_append atUsed
  obtain ⟨start, later, rfl, atLater⟩ := tokens_eq_cons atBack
  obtain ⟨turns, rfl⟩ : ∃ fewer, turns = fewer + 1 := ⟨turns - 1, by omega⟩
  have weak : grip s < layerGrip (.operators (level + 1)) := by
    rw [grip_of_binaryOp? named, layerGrip]
    unfold levels at bound
    omega
  have first := left front (⟨.symbol s, start⟩ :: (later ++ rest)) (turns + 1) least atFront
    (by omega) (.at_symbol weak _ _) few enough
  have second := right.reads turns (by omega) later rest atLater (by omega) ends
  rw [List.append_assoc, List.cons_append, first]
  simp only [List.length_cons, climb, symbol?, named, if_neg (Nat.not_lt.mpr few), second]
  rw [show 1 + max a.height b.height = (Expression.binary op a b).height from rfl,
    node_low low rest]
  refine climb_fuel (fun level lower upper ts parsed read => ?_) ?_ (Nat.le_refl _)
  · exact ((operators_sound sound (by omega) (by omega)).1 read).length_le
  · simp only [List.length_append]
    omega

theorem expect_of_symbol (s : Symbol) (start : Nat) (rest : List Located) :
    expect stop s (⟨.symbol s, start⟩ :: rest) = .ok rest :=
  if_pos rfl

theorem Reads.noChoice {w : List Token} {e : Expression}
    (climbs : Climbs stop tallest 0 (Parser.prefixed stop tallest inner operand) w e) :
    Reads tallest .conditional (conditional stop tallest inner operand) w e := by
  intro used rest atUsed low ends
  have first := climbs.reads levels (by omega) used rest atUsed low (ends.mono (by decide))
  have noQuestion := ends.symbol?_ne (s := .question) (Nat.le_refl _)
  simp only [conditional, first]

theorem Reads.choice {c y n : List Token} {condition yes no : Expression}
    (climbs : Climbs stop tallest 0 (Parser.prefixed stop tallest inner operand) c condition)
    (readsYes : Reads tallest .conditional inner y yes)
    (readsNo : Reads tallest .conditional inner n no) :
    Reads tallest .conditional (conditional stop tallest inner operand)
      (c ++ .symbol .question :: (y ++ .symbol .colon :: n)) (.conditional condition yes no) := by
  intro used rest atUsed low ends
  have low' := low
  rw [Expression.height] at low'
  obtain ⟨front, back, rfl, atFront, atBack⟩ := tokens_eq_append atUsed
  obtain ⟨question, later, rfl, atLater⟩ := tokens_eq_cons atBack
  obtain ⟨middle, back, rfl, atMiddle, atBack⟩ := tokens_eq_append atLater
  obtain ⟨colon, last, rfl, atLast⟩ := tokens_eq_cons atBack
  have first := climbs.reads levels (by omega) front
    (⟨.symbol .question, question⟩ :: (middle ++ ⟨.symbol .colon, colon⟩ :: (last ++ rest)))
    atFront (by omega) (.at_symbol (by decide) _ _)
  have second := readsYes middle (⟨.symbol .colon, colon⟩ :: (last ++ rest)) atMiddle (by omega)
    (.at_symbol (by decide) _ _)
  have third := readsNo last rest atLast (by omega) ends
  simp only [List.append_assoc, List.cons_append, conditional, first, symbol?, second,
    expect_of_symbol, third]
  exact node_low low rest

theorem Reads.leaf {t : Token} {e : Expression} (leaf : e.height = 1)
    (given : ∀ start rest,
      primary stop tallest inner (⟨t, start⟩ :: rest) = .ok ⟨e, 1, rest⟩) :
    Reads tallest .primary (primary stop tallest inner) [t] e := by
  intro used rest atUsed low ends
  obtain ⟨start, later, rfl, atLater⟩ := tokens_eq_cons atUsed
  cases List.map_eq_nil_iff.mp atLater
  rw [leaf]
  exact given start rest

theorem Reads.name {n : String} (notTrue : n ≠ "true") (notFalse : n ≠ "false") :
    Reads tallest .primary (primary stop tallest inner) [.name n] (.name n) := by
  intro used rest atUsed low ends
  obtain ⟨start, later, rfl, atLater⟩ := tokens_eq_cons atUsed
  cases List.map_eq_nil_iff.mp atLater
  have noParen := ends.symbol?_ne (s := .openParen) (Nat.le_refl _)
  simp only [primary, List.cons_append, List.nil_append, named, if_neg notTrue, if_neg notFalse,
    Expression.height]

theorem Reads.callNone {f : String} (notTrue : f ≠ "true") (notFalse : f ≠ "false") :
    Reads tallest .primary (primary stop tallest inner)
      [.name f, .symbol .openParen, .symbol .closeParen] (.call f []) := by
  intro used rest atUsed low ends
  obtain ⟨start, afterName, rfl, atName⟩ := tokens_eq_cons atUsed
  obtain ⟨opened, afterOpen, rfl, atOpen⟩ := tokens_eq_cons atName
  obtain ⟨closed, last, rfl, atLast⟩ := tokens_eq_cons atOpen
  cases List.map_eq_nil_iff.mp atLast
  simp only [primary, List.cons_append, List.nil_append, named, if_neg notTrue, if_neg notFalse,
    symbol?, callArguments]
  exact node_low low rest

theorem length_le_commaEach (pieces : List Piece) : pieces.length ≤ (commaEach pieces).length := by
  induction pieces with
  | nil => exact Nat.le_refl _
  | cons piece pieces ih =>
    simp only [commaEach, List.flatMap_cons, List.length_append, List.length_cons] at ih ⊢
    omega

theorem arguments_reads {w : List Token} {e : Expression} {pieces : List Piece}
    (head : Reads tallest .conditional inner w e)
    (others : ∀ piece ∈ pieces, Reads tallest .conditional inner piece.1 piece.2) {fuel : Nat}
    (enough : pieces.length < fuel) {used : List Located}
    (atUsed : tokens used = w ++ commaEach pieces)
    (low : Expression.tallest (e :: pieces.map (·.2)) ≤ tallest) (start : Nat)
    (rest : List Located) :
    arguments stop inner fuel (used ++ ⟨.symbol .closeParen, start⟩ :: rest) =
      .ok (e :: pieces.map (·.2), Expression.tallest (e :: pieces.map (·.2)), rest) := by
  induction pieces generalizing w e fuel used with
  | nil =>
    obtain ⟨fuel, rfl⟩ : ∃ less, fuel = less + 1 := ⟨fuel - 1, by omega⟩
    have low' : e.height ≤ tallest := by simpa [Expression.tallest] using low
    have first := head used (⟨.symbol .closeParen, start⟩ :: rest)
      (by simpa [commaEach] using atUsed) low' (.at_symbol (by decide) _ _)
    simp only [arguments, first, symbol?, expect_of_symbol, List.map_nil, Expression.tallest,
      Nat.max_zero]
  | cons piece pieces ih =>
    obtain ⟨fuel, rfl⟩ : ∃ less, fuel = less + 1 := ⟨fuel - 1, by omega⟩
    rw [List.map_cons, Expression.tallest] at low
    obtain ⟨front, back, rfl, atFront, atBack⟩ := tokens_eq_append atUsed
    obtain ⟨comma, later, rfl, atLater⟩ := tokens_eq_cons atBack
    have first := head front
      (⟨.symbol .comma, comma⟩ :: (later ++ ⟨.symbol .closeParen, start⟩ :: rest)) atFront
      (by omega) (.at_symbol (by decide) _ _)
    have more := ih (others piece List.mem_cons_self)
      (fun other member => others other (List.mem_cons_of_mem _ member))
      (by simpa using enough) atLater (by omega)
    simp only [List.append_assoc, List.cons_append, arguments, first, symbol?, more]
    rfl

theorem Reads.callSome {depth : Nat} {f : String} {w : List Token} {e : Expression}
    {pieces : List Piece} (notTrue : f ≠ "true") (notFalse : f ≠ "false")
    (derivation : Derives .conditional depth w e) (head : Reads tallest .conditional inner w e)
    (others : ∀ piece ∈ pieces, Reads tallest .conditional inner piece.1 piece.2) :
    Reads tallest .primary (primary stop tallest inner)
      (.name f :: .symbol .openParen :: (w ++ commaEach pieces ++ [.symbol .closeParen]))
      (.call f (e :: pieces.map (·.2))) := by
  intro used rest atUsed low ends
  have low' := low
  rw [Expression.height] at low'
  obtain ⟨start, afterName, rfl, atName⟩ := tokens_eq_cons atUsed
  obtain ⟨opened, afterOpen, rfl, atOpen⟩ := tokens_eq_cons atName
  obtain ⟨inside, back, rfl, atInside, atBack⟩ := tokens_eq_append atOpen
  obtain ⟨closed, last, rfl, atLast⟩ := tokens_eq_cons atBack
  cases List.map_eq_nil_iff.mp atLast
  have count := length_le_commaEach pieces
  have total := congrArg List.length atInside
  rw [tokens, List.length_map, List.length_append] at total
  have read : arguments stop inner
      ((inside ++ ⟨.symbol .closeParen, closed⟩ :: rest).length + 1)
      (inside ++ ⟨.symbol .closeParen, closed⟩ :: rest) =
        .ok (e :: pieces.map (·.2), Expression.tallest (e :: pieces.map (·.2)), rest) :=
    arguments_reads head others (by rw [List.length_append]; omega) atInside (by omega) closed rest
  have notClosed : ∀ after,
      symbol? (inside ++ ⟨.symbol .closeParen, closed⟩ :: rest) ≠ some (.closeParen, after) := by
    intro after found
    obtain ⟨first, _, rfl, other⟩ := derivation.begins
    obtain ⟨place, _, rfl, -⟩ := tokens_eq_cons atInside
    obtain ⟨_, same⟩ := symbol?_eq_some found
    simp only [List.cons_append, List.cons.injEq, Located.mk.injEq] at same
    exact other same.1.1
  have called : callArguments stop inner (inside ++ ⟨.symbol .closeParen, closed⟩ :: rest) =
      .ok (e :: pieces.map (·.2), Expression.tallest (e :: pieces.map (·.2)), rest) := by
    simp only [callArguments, read]
  have atParen : symbol? (⟨.symbol .openParen, opened⟩ ::
      (inside ++ ⟨.symbol .closeParen, closed⟩ :: rest)) = some (.openParen, _) := rfl
  simp only [primary, List.cons_append, List.append_assoc, List.nil_append, named, if_neg notTrue,
    if_neg notFalse, atParen, called]
  exact node_low low rest

theorem Reads.group {w : List Token} {e : Expression}
    (reads : Reads tallest .conditional inner w e) :
    Reads tallest .primary (primary stop tallest inner)
      (.symbol .openParen :: (w ++ [.symbol .closeParen])) e := by
  intro used rest atUsed low ends
  obtain ⟨opened, later, rfl, atLater⟩ := tokens_eq_cons atUsed
  obtain ⟨front, back, rfl, atFront, atBack⟩ := tokens_eq_append atLater
  obtain ⟨closed, last, rfl, atLast⟩ := tokens_eq_cons atBack
  cases List.map_eq_nil_iff.mp atLast
  have first := reads front (⟨.symbol .closeParen, closed⟩ :: rest) atFront low
    (.at_symbol (by decide) _ _)
  simp only [primary, List.cons_append, List.append_assoc, List.nil_append, Parser.group, first,
    expect_of_symbol]

end Productions

/-- What the reader of each layer has to give at a depth. -/
def Gives (stop tallest : Nat) (layer : Layer) (depth : Nat) (w : List Token) (e : Expression) :
    Prop :=
  let inner := phrase stop tallest depth
  let operand := operand stop tallest depth
  match layer with
  | .conditional => Reads tallest .conditional (conditional stop tallest inner operand) w e
  | .operators level => Climbs stop tallest level (prefixed stop tallest inner operand) w e
  | .prefixed => Reads tallest .prefixed (prefixed stop tallest inner operand) w e
  | .power => Reads tallest .power (power stop tallest inner operand) w e
  | .primary => Reads tallest .primary (primary stop tallest inner) w e

/-- Every derivation is read. One room deeper than `depth`, a phrase is a conditional at `depth`. -/
theorem gives_of_derives (positive : 0 < tallest) {layer : Layer} {depth : Nat}
    {w : List Token} {e : Expression} (derivation : Derives layer depth w e) :
    Gives stop tallest layer depth w e := by
  have sound (depth : Nat) : Sound tallest .prefixed depth
      (prefixed stop tallest (phrase stop tallest depth) (operand stop tallest depth)) :=
    prefixed_sound positive (phrase_operand_sound positive depth).1
      (phrase_operand_sound positive depth).2
  induction derivation with
  | choice _ _ _ climbs yes no => exact Reads.choice climbs yes no
  | noChoice _ climbs => exact Reads.noChoice climbs
  | joined member _ _ left right => exact Climbs.joined (sound _) member left right
  | tighter _ climbs => exact Climbs.tighter climbs
  | operand _ reads => exact Climbs.single (sound _) reads
  | prefixed member _ reads => exact Reads.prefixed member reads
  | noPrefix _ reads => exact Reads.noPrefix reads
  | raised _ _ base exponent => exact Reads.raised base exponent
  | noExponent _ base => exact Reads.noExponent base
  | number => exact Reads.leaf rfl fun _ _ => rfl
  | text => exact Reads.leaf rfl fun _ _ => rfl
  | yes => exact Reads.leaf rfl fun _ _ => rfl
  | no => exact Reads.leaf rfl fun _ _ => rfl
  | name notTrue notFalse => exact Reads.name notTrue notFalse
  | callNone notTrue notFalse => exact Reads.callNone notTrue notFalse
  | callSome notTrue notFalse first _ head others =>
    exact Reads.callSome notTrue notFalse first head others
  | group _ reads => exact Reads.group reads

end RecipeEngine.Parser
