import RecipeEngine.Number.Format
import RecipeEngine.Text.Quoted

namespace RecipeEngine

inductive Symbol where
  | plus | minus | star | slash | percent | caret
  | openParen | closeParen | comma | question | colon
  | equal | notEqual | less | lessEqual | greater | greaterEqual
  | and | or | not
deriving DecidableEq, Repr

def Symbol.spelling : Symbol → String
  | .plus => "+"
  | .minus => "-"
  | .star => "*"
  | .slash => "/"
  | .percent => "%"
  | .caret => "^"
  | .openParen => "("
  | .closeParen => ")"
  | .comma => ","
  | .question => "?"
  | .colon => ":"
  | .equal => "=="
  | .notEqual => "!="
  | .less => "<"
  | .lessEqual => "<="
  | .greater => ">"
  | .greaterEqual => ">="
  | .and => "and"
  | .or => "or"
  | .not => "not"

inductive Token where
  | number (value : Float)
  | text (value : String)
  | name (value : String)
  | symbol (value : Symbol)
deriving DecidableEq

def Token.describe : Token → String
  | .number x => "number " ++ NumberFormat.brief x
  | .text s => "string " ++ Text.quoted s
  | .name s => "name '" ++ s ++ "'"
  | .symbol s => "'" ++ s.spelling ++ "'"

/-- A token and the byte offset where it starts. -/
structure Located where
  token : Token
  start : Nat
deriving DecidableEq

inductive SyntaxProblem where
  | invalidNumber (spelling : String)
  | unterminatedText
  | unterminatedName
  | unexpectedCharacter (c : Char)
  | emptySource
  | nestedTooDeeply
  | missingValue (found : Option Token)
  | missingSymbol (expected : Symbol) (found : Option Token)
  | trailingToken (found : Token)
deriving DecidableEq

namespace SyntaxProblem

def describeFound : Option Token → String
  | some t => t.describe
  | none => "end of expression"

def message : SyntaxProblem → String
  | .invalidNumber spelling => "invalid number '" ++ spelling ++ "'"
  | .unterminatedText => "unterminated string"
  | .unterminatedName => "unterminated `quoted` name"
  | .unexpectedCharacter c => "unexpected character '" ++ c.toString ++ "'"
  | .emptySource => "expression is empty"
  | .nestedTooDeeply => "expression nested too deeply"
  | .missingValue found => "expected a value, found " ++ describeFound found
  | .missingSymbol expected found =>
    "expected " ++ (Token.symbol expected).describe ++ ", found " ++ describeFound found
  | .trailingToken found => "unexpected " ++ found.describe

end SyntaxProblem

structure SyntaxError where
  position : Nat
  problem : SyntaxProblem
deriving DecidableEq

end RecipeEngine
