import RecipeEngine.Expression.Token
import RecipeEngine.Expression.Tree

namespace RecipeEngine.Parser

/-- The greatest height of a tree and the greatest number of phrases inside each other. -/
def limit : Nat := 256

structure Parsed where
  tree : Expression
  height : Nat
  rest : List Located

/-- A reader of a tree at the head of a list of tokens. -/
abbrev Phrase := List Located → Except SyntaxError Parsed

def unaryOp? : Symbol → Option UnaryOp
  | .minus => some .negate
  | .plus => some .plus
  | .not => some .not
  | _ => none

/-- The operator that a symbol is between two operands, with its level: `or` has level 0, products
have level 4. -/
def binaryOp? : Symbol → Option (BinaryOp × Nat)
  | .or => some (.or, 0)
  | .and => some (.and, 1)
  | .equal => some (.equal, 2)
  | .notEqual => some (.notEqual, 2)
  | .less => some (.less, 2)
  | .lessEqual => some (.lessEqual, 2)
  | .greater => some (.greater, 2)
  | .greaterEqual => some (.greaterEqual, 2)
  | .plus => some (.add, 3)
  | .minus => some (.subtract, 3)
  | .star => some (.multiply, 4)
  | .slash => some (.divide, 4)
  | .percent => some (.remainder, 4)
  | _ => none

def levels : Nat := 5

variable (stop tallest : Nat)

/-- Where the next token starts; `stop`, the length of the source, if there is none. -/
def position : List Located → Nat
  | [] => stop
  | first :: _ => first.start

def tooDeep : Phrase := fun ts =>
  .error ⟨position stop ts, .nestedTooDeeply⟩

def node (tree : Expression) (height : Nat) (rest : List Located) : Except SyntaxError Parsed :=
  if tallest < height then tooDeep stop rest else .ok ⟨tree, height, rest⟩

def expect (s : Symbol) : List Located → Except SyntaxError (List Located)
  | [] => .error ⟨stop, .missingSymbol s none⟩
  | first :: rest =>
    if first.token = .symbol s then .ok rest
    else .error ⟨first.start, .missingSymbol s (some first.token)⟩

def symbol? : List Located → Option (Symbol × List Located)
  | ⟨.symbol s, _⟩ :: rest => some (s, rest)
  | _ => none

/-- Arguments and their closing parenthesis, with the greatest height among the arguments. Each
argument takes a token at least, so `fuel` tokens allow for `fuel` arguments. -/
def arguments (inner : Phrase) : Nat → List Located →
    Except SyntaxError (List Expression × Nat × List Located)
  | 0, ts => .error ⟨position stop ts, .nestedTooDeeply⟩
  | fuel + 1, ts =>
    match inner ts with
    | .error e => .error e
    | .ok first =>
      match symbol? first.rest with
      | some (.comma, rest) =>
        match arguments inner fuel rest with
        | .error e => .error e
        | .ok (trees, height, rest) => .ok (first.tree :: trees, max first.height height, rest)
      | _ =>
        match expect stop .closeParen first.rest with
        | .error e => .error e
        | .ok rest => .ok ([first.tree], first.height, rest)

/-- The arguments of a call after its opening parenthesis; there may be none. -/
def callArguments (inner : Phrase) (ts : List Located) :
    Except SyntaxError (List Expression × Nat × List Located) :=
  match symbol? ts with
  | some (.closeParen, rest) => .ok ([], 0, rest)
  | _ => arguments stop inner (ts.length + 1) ts

def named (inner : Phrase) (name : String) (rest : List Located) : Except SyntaxError Parsed :=
  if name = "true" then .ok ⟨.truth true, 1, rest⟩
  else if name = "false" then .ok ⟨.truth false, 1, rest⟩
  else
    match symbol? rest with
    | some (.openParen, rest) =>
      match callArguments stop inner rest with
      | .error e => .error e
      | .ok (trees, height, rest) => node stop tallest (.call name trees) (height + 1) rest
    | _ => .ok ⟨.name name, 1, rest⟩

def group (inner : Phrase) (ts : List Located) : Except SyntaxError Parsed :=
  match inner ts with
  | .error e => .error e
  | .ok parsed =>
    match expect stop .closeParen parsed.rest with
    | .error e => .error e
    | .ok rest => .ok { parsed with rest }

def primary (inner : Phrase) : Phrase
  | [] => .error ⟨stop, .missingValue none⟩
  | ⟨.number x, _⟩ :: rest => .ok ⟨.number x, 1, rest⟩
  | ⟨.text s, _⟩ :: rest => .ok ⟨.text s, 1, rest⟩
  | ⟨.name name, _⟩ :: rest => named stop tallest inner name rest
  | ⟨.symbol .openParen, _⟩ :: rest => group stop inner rest
  | ⟨token, start⟩ :: _ => .error ⟨start, .missingValue (some token)⟩

/-- A primary, or a power of one with an exponent read by `operand`. -/
def power (inner operand : Phrase) : Phrase := fun ts =>
  match primary stop tallest inner ts with
  | .error e => .error e
  | .ok base =>
    match symbol? base.rest with
    | some (.caret, rest) =>
      match operand rest with
      | .error e => .error e
      | .ok exponent =>
        node stop tallest (.binary .power base.tree exponent.tree)
          (1 + max base.height exponent.height) exponent.rest
    | _ => .ok base

/-- A power, or an operator before an operand read by `operand`. -/
def prefixed (inner operand : Phrase) : Phrase := fun ts =>
  match symbol? ts with
  | some (s, rest) =>
    match unaryOp? s with
    | some op =>
      match operand rest with
      | .error e => .error e
      | .ok parsed => node stop tallest (.unary op parsed.tree) (parsed.height + 1) parsed.rest
    | none => power stop tallest inner operand ts
  | none => power stop tallest inner operand ts

/-- Goes on after a left operand with all operators whose level is `least` or more; `above` reads
their right operands from a level on. Each operator takes a token at least, so `fuel` tokens allow
for `fuel` operators. -/
def climb (above : Nat → Phrase) (least : Nat) : Nat → Parsed → Except SyntaxError Parsed
  | 0, left => .ok left
  | fuel + 1, left =>
    match symbol? left.rest with
    | some (s, rest) =>
      match binaryOp? s with
      | some (op, level) =>
        if level < least then .ok left
        else
          match above (level + 1) rest with
          | .error e => .error e
          | .ok right =>
            match node stop tallest (.binary op left.tree right.tree)
                (1 + max left.height right.height) right.rest with
            | .error e => .error e
            | .ok joined => climb above least fuel joined
      | none => .ok left
    | none => .ok left

/-- Operands, read by `operand`, with the operators whose level is `least` or more. The level asked
for on the right of an operator is above its own, so one of the `turns` more than there are levels
is never needed. -/
def operators (operand : Phrase) : Nat → Nat → Phrase
  | 0, _ => operand
  | turns + 1, least => fun ts =>
    match operand ts with
    | .error e => .error e
    | .ok left => climb stop tallest (operators operand turns) least ts.length left

def conditional (inner operand : Phrase) : Phrase := fun ts =>
  match operators stop tallest (prefixed stop tallest inner operand) (levels + 1) 0 ts with
  | .error e => .error e
  | .ok condition =>
    match symbol? condition.rest with
    | some (.question, rest) =>
      match inner rest with
      | .error e => .error e
      | .ok yes =>
        match expect stop .colon yes.rest with
        | .error e => .error e
        | .ok rest =>
          match inner rest with
          | .error e => .error e
          | .ok no =>
            node stop tallest (.conditional condition.tree yes.tree no.tree)
              (1 + max (max condition.height yes.height) no.height) no.rest
    | _ => .ok condition

mutual

/-- A whole phrase with room for `room` phrases, itself counted. -/
def phrase : Nat → Phrase
  | 0 => tooDeep stop
  | room + 1 => fun ts => conditional stop tallest (phrase room) (operand room) ts

/-- An operand or exponent with room for `room` phrases, itself counted. -/
def operand : Nat → Phrase
  | 0 => tooDeep stop
  | room + 1 => fun ts => prefixed stop tallest (phrase room) (operand room) ts

end

/-- The tree of a list of tokens. From the loosest to the tightest there are `? :`, `or`, `and`,
comparisons, sums, products, the operators before an operand, and the power, whose exponent may have
such operators of its own. Operators of one level group to the left. -/
def parse (ts : List Located) : Except SyntaxError Expression :=
  match ts with
  | [] => .error ⟨0, .emptySource⟩
  | _ :: _ =>
    match phrase stop limit limit ts with
    | .error e => .error e
    | .ok parsed =>
      match parsed.rest with
      | [] => .ok parsed.tree
      | extra :: _ => .error ⟨extra.start, .trailingToken extra.token⟩

end RecipeEngine.Parser
