import RecipeEngine.Expression.Token
import RecipeEngine.Number.Numeral
import RecipeEngine.Text.Blank
import RecipeEngine.Text.Letter

namespace RecipeEngine.Lexer

def byteCount (cs : List Char) : Nat :=
  cs.foldr (fun c n => c.utf8Size + n) 0

/-- The characters of a number after its first one: digits and points, one letter `e`, and a sign
right after that letter. `exponent` tells whether the letter has been seen, `signed` whether it
stands just before. -/
def numberTail (exponent signed : Bool) : List Char → List Char
  | [] => []
  | c :: rest =>
    if c.isDigit || c = '.' then c :: numberTail exponent false rest
    else if !exponent && (c = 'e' || c = 'E') then c :: numberTail true true rest
    else if signed && (c = '+' || c = '-') then c :: numberTail exponent false rest
    else []

def unescape (c : Char) : Char :=
  if c = 'n' then '\n' else if c = 't' then '\t' else c

/-- The characters of a text up to its closing quote, and how many were read, the quote
included. -/
def textTail (quote : Char) : List Char → Option (List Char × Nat)
  | [] => none
  | ['\\'] => none
  | '\\' :: c :: rest =>
    (textTail quote rest).map fun (chars, count) => (unescape c :: chars, count + 2)
  | c :: rest =>
    if c = quote then some ([], 1)
    else (textTail quote rest).map fun (chars, count) => (c :: chars, count + 1)

/-- The characters of a quoted name up to its closing backtick, and how many were read, the
backtick included. -/
def quotedNameTail : List Char → Option (List Char × Nat)
  | [] => none
  | c :: rest =>
    if c = '\x60' then some ([], 1)
    else (quotedNameTail rest).map fun (chars, count) => (c :: chars, count + 1)

def startsName (c : Char) : Bool :=
  Text.isLetter c || c = '_'

def continuesName (c : Char) : Bool :=
  Text.isLetterOrNumber c || c = '_'

def wordToken (word : List Char) : Token :=
  if word = "and".toList then .symbol .and
  else if word = "or".toList then .symbol .or
  else if word = "not".toList then .symbol .not
  else .name (String.ofList word)

/-- The symbol that starts with `c`, and how many characters it has after it. -/
def symbol? (c : Char) (next : Option Char) : Option (Symbol × Nat) :=
  match c, next with
  | '+', _ => some (.plus, 0)
  | '-', _ => some (.minus, 0)
  | '*', _ => some (.star, 0)
  | '/', _ => some (.slash, 0)
  | '%', _ => some (.percent, 0)
  | '^', _ => some (.caret, 0)
  | '(', _ => some (.openParen, 0)
  | ')', _ => some (.closeParen, 0)
  | ',', _ => some (.comma, 0)
  | '?', _ => some (.question, 0)
  | ':', _ => some (.colon, 0)
  | '=', some '=' => some (.equal, 1)
  | '!', some '=' => some (.notEqual, 1)
  | '!', _ => some (.not, 0)
  | '<', some '=' => some (.lessEqual, 1)
  | '<', _ => some (.less, 0)
  | '>', some '=' => some (.greaterEqual, 1)
  | '>', _ => some (.greater, 0)
  | '&', some '&' => some (.and, 1)
  | '|', some '|' => some (.or, 1)
  | _, _ => none

/-- The token that starts with `c`, and how many characters of `rest` it takes. -/
def lexeme (c : Char) (rest : List Char) : Except SyntaxProblem (Token × Nat) :=
  if c.isDigit || c = '.' then
    let tail := numberTail false false rest
    match Numeral.readAll? (c :: tail) with
    | some x => .ok (.number x, tail.length)
    | none => .error (.invalidNumber (String.ofList (c :: tail)))
  else if c = '"' || c = '\'' then
    match textTail c rest with
    | some (chars, count) => .ok (.text (String.ofList chars), count)
    | none => .error .unterminatedText
  else if c = '\x60' then
    match quotedNameTail rest with
    | some (chars, count) => .ok (.name (String.ofList chars), count)
    | none => .error .unterminatedName
  else if startsName c then
    let tail := rest.takeWhile continuesName
    .ok (wordToken (c :: tail), tail.length)
  else
    match symbol? c rest.head? with
    | some (s, count) => .ok (.symbol s, count)
    | none => .error (.unexpectedCharacter c)

/-- The tokens of a text whose first `skip` characters belong to a lexeme already read. -/
def tokensFrom : Nat → Nat → List Char → Except SyntaxError (List Located)
  | _, _, [] => .ok []
  | skip + 1, position, c :: rest => tokensFrom skip (position + c.utf8Size) rest
  | 0, position, c :: rest =>
    if Text.isBlank c then tokensFrom 0 (position + c.utf8Size) rest
    else
      match lexeme c rest with
      | .error problem => .error ⟨position, problem⟩
      | .ok (token, count) =>
        match tokensFrom count (position + c.utf8Size) rest with
        | .error e => .error e
        | .ok later => .ok (⟨token, position⟩ :: later)

/-- The tokens of a source text with their byte offsets. White space separates lexemes and is
otherwise passed over. -/
def tokens (source : List Char) : Except SyntaxError (List Located) :=
  tokensFrom 0 0 source

end RecipeEngine.Lexer
