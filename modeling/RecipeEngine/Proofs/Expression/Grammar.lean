import RecipeEngine.Expression.Parser

namespace RecipeEngine.Grammar

/-- The layers of the grammar, from the loosest to the tightest. `operators level` has the operators
of that level and of all tighter ones. -/
inductive Layer where
  | conditional
  | operators (level : Nat)
  | prefixed
  | power
  | primary

def between : Nat → List (Symbol × BinaryOp)
  | 0 => [(.or, .or)]
  | 1 => [(.and, .and)]
  | 2 =>
    [(.equal, .equal), (.notEqual, .notEqual), (.less, .less), (.lessEqual, .lessEqual),
     (.greater, .greater), (.greaterEqual, .greaterEqual)]
  | 3 => [(.plus, .add), (.minus, .subtract)]
  | 4 => [(.star, .multiply), (.slash, .divide), (.percent, .remainder)]
  | _ => []

def before : List (Symbol × UnaryOp) :=
  [(.minus, .negate), (.plus, .plus), (.not, .not)]

/-- A list of tokens and the tree of one phrase that it is. -/
abbrev Piece := List Token × Expression

/-- The tokens of the arguments after the first, each with a comma before it. -/
def commaEach (pieces : List Piece) : List Token :=
  pieces.flatMap fun piece => .symbol .comma :: piece.1

/-- The tokens derive the tree in a layer, and no part of the derivation lies inside more than
`depth` parentheses, argument lists, branches, operands of prefix operators and exponents. -/
inductive Derives : Layer → Nat → List Token → Expression → Prop
  | choice {depth c y n condition yes no} :
      Derives (.operators 0) (depth + 1) c condition → Derives .conditional depth y yes →
      Derives .conditional depth n no →
      Derives .conditional (depth + 1) (c ++ .symbol .question :: (y ++ .symbol .colon :: n))
        (.conditional condition yes no)
  | noChoice {depth ts e} : Derives (.operators 0) depth ts e → Derives .conditional depth ts e
  | joined {depth level l r a b s op} : (s, op) ∈ between level →
      Derives (.operators level) depth l a → Derives (.operators (level + 1)) depth r b →
      Derives (.operators level) depth (l ++ .symbol s :: r) (.binary op a b)
  | tighter {depth level ts e} : Derives (.operators (level + 1)) depth ts e →
      Derives (.operators level) depth ts e
  | operand {depth ts e} : Derives .prefixed depth ts e → Derives (.operators 5) depth ts e
  | prefixed {depth ts e s op} : (s, op) ∈ before → Derives .prefixed depth ts e →
      Derives .prefixed (depth + 1) (.symbol s :: ts) (.unary op e)
  | noPrefix {depth ts e} : Derives .power depth ts e → Derives .prefixed depth ts e
  | raised {depth b x base exponent} : Derives .primary (depth + 1) b base →
      Derives .prefixed depth x exponent →
      Derives .power (depth + 1) (b ++ .symbol .caret :: x) (.binary .power base exponent)
  | noExponent {depth ts e} : Derives .primary depth ts e → Derives .power depth ts e
  | number {depth x} : Derives .primary depth [.number x] (.number x)
  | text {depth s} : Derives .primary depth [.text s] (.text s)
  | yes {depth} : Derives .primary depth [.name "true"] (.truth true)
  | no {depth} : Derives .primary depth [.name "false"] (.truth false)
  | name {depth n} : n ≠ "true" → n ≠ "false" → Derives .primary depth [.name n] (.name n)
  | callNone {depth f} : f ≠ "true" → f ≠ "false" →
      Derives .primary depth [.name f, .symbol .openParen, .symbol .closeParen] (.call f [])
  | callSome {depth f ts e} {pieces : List Piece} : f ≠ "true" → f ≠ "false" →
      Derives .conditional depth ts e →
      (∀ piece ∈ pieces, Derives .conditional depth piece.1 piece.2) →
      Derives .primary (depth + 1)
        (.name f :: .symbol .openParen :: (ts ++ commaEach pieces ++ [.symbol .closeParen]))
        (.call f (e :: pieces.map (·.2)))
  | group {depth ts e} : Derives .conditional depth ts e →
      Derives .primary (depth + 1) (.symbol .openParen :: (ts ++ [.symbol .closeParen])) e

theorem Derives.loosen {depth level least : Nat} {w : List Token} {e : Expression}
    (looser : least ≤ level) (derivation : Derives (.operators level) depth w e) :
    Derives (.operators least) depth w e := by
  induction looser with
  | refl => exact derivation
  | step _ ih => exact ih (.tighter derivation)

theorem Derives.alone {depth : Nat} {w : List Token} {e : Expression}
    (derivation : Derives .prefixed depth w e) : Derives .conditional depth w e :=
  .noChoice (.loosen (Nat.zero_le 5) (.operand derivation))

theorem Derives.begins {layer : Layer} {depth : Nat} {w : List Token} {e : Expression}
    (derivation : Derives layer depth w e) :
    ∃ first rest, w = first :: rest ∧ first ≠ .symbol .closeParen := by
  induction derivation with
  | choice _ _ _ ih =>
    obtain ⟨first, rest, rfl, other⟩ := ih
    exact ⟨first, _, rfl, other⟩
  | joined _ _ _ ih =>
    obtain ⟨first, rest, rfl, other⟩ := ih
    exact ⟨first, _, rfl, other⟩
  | raised _ _ ih =>
    obtain ⟨first, rest, rfl, other⟩ := ih
    exact ⟨first, _, rfl, other⟩
  | noChoice _ ih | tighter _ ih | operand _ ih | noPrefix _ ih | noExponent _ ih => exact ih
  | @prefixed _ _ _ s _ member =>
    refine ⟨_, _, rfl, fun same => ?_⟩
    cases same
    simp [before] at member
  | number | text | yes | no | name | callNone | callSome | group => exact ⟨_, _, rfl, nofun⟩

theorem Derives.deepen {layer : Layer} {depth deeper : Nat} {w : List Token} {e : Expression}
    (derivation : Derives layer depth w e) (le : depth ≤ deeper) : Derives layer deeper w e := by
  induction derivation generalizing deeper with
  | choice _ _ _ condition yes no =>
    obtain ⟨deeper, rfl⟩ : ∃ less, deeper = less + 1 := ⟨deeper - 1, by omega⟩
    exact .choice (condition le) (yes (by omega)) (no (by omega))
  | noChoice _ ih => exact .noChoice (ih le)
  | joined member _ _ left right => exact .joined member (left le) (right le)
  | tighter _ ih => exact .tighter (ih le)
  | operand _ ih => exact .operand (ih le)
  | prefixed member _ ih =>
    obtain ⟨deeper, rfl⟩ : ∃ less, deeper = less + 1 := ⟨deeper - 1, by omega⟩
    exact .prefixed member (ih (by omega))
  | noPrefix _ ih => exact .noPrefix (ih le)
  | raised _ _ base exponent =>
    obtain ⟨deeper, rfl⟩ : ∃ less, deeper = less + 1 := ⟨deeper - 1, by omega⟩
    exact .raised (base le) (exponent (by omega))
  | noExponent _ ih => exact .noExponent (ih le)
  | number => exact .number
  | text => exact .text
  | yes => exact .yes
  | no => exact .no
  | name notTrue notFalse => exact .name notTrue notFalse
  | callNone notTrue notFalse => exact .callNone notTrue notFalse
  | callSome notTrue notFalse _ _ head others =>
    obtain ⟨deeper, rfl⟩ : ∃ less, deeper = less + 1 := ⟨deeper - 1, by omega⟩
    exact .callSome notTrue notFalse (head (by omega))
      fun piece member => others piece member (by omega)
  | group _ ih =>
    obtain ⟨deeper, rfl⟩ : ∃ less, deeper = less + 1 := ⟨deeper - 1, by omega⟩
    exact .group (ih (by omega))

end RecipeEngine.Grammar
