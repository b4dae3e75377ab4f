import RecipeEngine.Expression.Parser

namespace RecipeEngine.Parser

/-- The index of the next token, the number of phrases around it, and the greatest such number on
the way there. The routines that move a walker call each other without a bound of their own; `none`
stands for one that does not return. -/
structure Walker where
  index : Nat
  depth : Nat
  deepest : Nat
deriving DecidableEq

abbrev Measured := Expression × Nat

abbrev Reply (α : Type) := Except SyntaxError α × Walker

namespace Walker

def starting (index depth : Nat) : Walker := ⟨index, depth, depth⟩

def advance (w : Walker) : Walker := { w with index := w.index + 1 }

def enter (w : Walker) : Walker :=
  { w with depth := w.depth + 1, deepest := max w.deepest (w.depth + 1) }

def leave (w : Walker) : Walker := { w with depth := w.depth - 1 }

variable (stop : Nat) (ts : List Located)

def rest (w : Walker) : List Located := ts.drop w.index

def ahead (w : Walker) : Option Symbol :=
  match ts[w.index]? with
  | some ⟨.symbol s, _⟩ => some s
  | _ => none

def tooDeep (w : Walker) : SyntaxError := ⟨position stop (w.rest ts), .nestedTooDeeply⟩

/-- A tree with the given height, unless it is too high. -/
def accept (tree : Expression) (height : Nat) (w : Walker) : Reply Measured :=
  if limit < height then (.error (w.tooDeep stop ts), w) else (.ok (tree, height), w)

def require (s : Symbol) (w : Walker) : Reply Unit :=
  if w.ahead ts = some s then (.ok (), w.advance)
  else
    match ts[w.index]? with
    | some found => (.error ⟨found.start, .missingSymbol s (some found.token)⟩, w)
    | none => (.error ⟨stop, .missingSymbol s none⟩, w)

mutual

def conditional (w : Walker) : Option (Reply Measured) :=
  if limit ≤ w.depth then some (.error (w.tooDeep stop ts), w)
  else do
    let (result, w) ← w.enter |>.conditionalInside
    some (result, w.leave)
partial_fixpoint

/-- Operators, and the branches of a condition if there is one. -/
def conditionalInside (w : Walker) : Option (Reply Measured) := do
  match ← (w |>.binary 0) with
  | (.error why, w) => some (.error why, w)
  | (.ok (condition, height), w) =>
    if w.ahead ts = some .question then
      match ← (w.advance |>.conditional) with
      | (.error why, w) => some (.error why, w)
      | (.ok (yes, heightYes), w) =>
        match w.require stop ts .colon with
        | (.error why, w) => some (.error why, w)
        | (.ok _, w) =>
          match ← (w |>.conditional) with
          | (.error why, w) => some (.error why, w)
          | (.ok (no, heightNo), w) =>
            some (w.accept stop ts (.conditional condition yes no)
              (1 + max (max height heightYes) heightNo))
    else some (.ok (condition, height), w)
partial_fixpoint

/-- Operands with the operators whose level is `least` or more. -/
def binary (least : Nat) (w : Walker) : Option (Reply Measured) := do
  match ← (w |>.unary) with
  | (.error why, w) => some (.error why, w)
  | (.ok left, w) => w |>.binaryAfter least left
partial_fixpoint

def binaryAfter (least : Nat) (left : Measured) (w : Walker) : Option (Reply Measured) :=
  match (w.ahead ts).bind binaryOp? with
  | none => some (.ok left, w)
  | some (op, level) =>
    if level < least then some (.ok left, w)
    else do
      match ← (w.advance |>.binary (level + 1)) with
      | (.error why, w) => some (.error why, w)
      | (.ok right, w) =>
        match w.accept stop ts (.binary op left.1 right.1) (1 + max left.2 right.2) with
        | (.error why, w) => some (.error why, w)
        | (.ok joined, w) => w |>.binaryAfter least joined
partial_fixpoint

def unary (w : Walker) : Option (Reply Measured) :=
  match (w.ahead ts).bind unaryOp? with
  | none => w |>.power
  | some op => do
    match ← (w.advance |>.unaryDeeper) with
    | (.error why, w) => some (.error why, w)
    | (.ok (operand, height), w) => some (w.accept stop ts (.unary op operand) (height + 1))
partial_fixpoint

def unaryDeeper (w : Walker) : Option (Reply Measured) :=
  if limit ≤ w.depth then some (.error (w.tooDeep stop ts), w)
  else do
    let (result, w) ← w.enter |>.unary
    some (result, w.leave)
partial_fixpoint

def power (w : Walker) : Option (Reply Measured) := do
  match ← (w |>.primary) with
  | (.error why, w) => some (.error why, w)
  | (.ok base, w) =>
    if w.ahead ts = some .caret then
      match ← (w.advance |>.unaryDeeper) with
      | (.error why, w) => some (.error why, w)
      | (.ok exponent, w) =>
        some (w.accept stop ts (.binary .power base.1 exponent.1) (1 + max base.2 exponent.2))
    else some (.ok base, w)
partial_fixpoint

/-- A value, a name, a call or a group. The token that it fails at is taken. -/
def primary (w : Walker) : Option (Reply Measured) :=
  match ts[w.index]? with
  | none => some (.error ⟨stop, .missingValue none⟩, w)
  | some ⟨.number x, _⟩ => some (.ok (.number x, 1), w.advance)
  | some ⟨.text s, _⟩ => some (.ok (.text s, 1), w.advance)
  | some ⟨.name name, _⟩ =>
    if name = "true" then some (.ok (.truth true, 1), w.advance)
    else if name = "false" then some (.ok (.truth false, 1), w.advance)
    else if w.advance.ahead ts = some .openParen then do
      match ← (w.advance.advance |>.callArguments) with
      | (.error why, w) => some (.error why, w)
      | (.ok (trees, height), w) => some (w.accept stop ts (.call name trees) (height + 1))
    else some (.ok (.name name, 1), w.advance)
  | some ⟨.symbol .openParen, _⟩ => do
    match ← (w.advance |>.conditional) with
    | (.error why, w) => some (.error why, w)
    | (.ok inside, w) =>
      match w.require stop ts .closeParen with
      | (.error why, w) => some (.error why, w)
      | (.ok _, w) => some (.ok inside, w)
  | some ⟨token, start⟩ => some (.error ⟨start, .missingValue (some token)⟩, w.advance)
partial_fixpoint

/-- The arguments of a call after its opening parenthesis, with the greatest height among them. -/
def callArguments (w : Walker) : Option (Reply (List Expression × Nat)) :=
  if w.ahead ts = some .closeParen then some (.ok ([], 0), w.advance)
  else w |>.argumentsAfter [] 0
partial_fixpoint

def argumentsAfter (trees : List Expression) (height : Nat) (w : Walker) :
    Option (Reply (List Expression × Nat)) := do
  match ← (w |>.conditional) with
  | (.error why, w) => some (.error why, w)
  | (.ok (tree, more), w) =>
    if w.ahead ts = some .comma then
      w.advance |>.argumentsAfter (trees ++ [tree]) (max height more)
    else
      match w.require stop ts .closeParen with
      | (.error why, w) => some (.error why, w)
      | (.ok _, w) => some (.ok (trees ++ [tree], max height more), w)
partial_fixpoint

end

end Walker

end RecipeEngine.Parser
