import RecipeEngine.Expression.Evaluation
import RecipeEngine.Expression.Lexer
import RecipeEngine.Expression.Parser
import RecipeEngine.Failure

namespace RecipeEngine

def Expression.ofSource (source : List Char) : Except SyntaxError Expression :=
  match Lexer.tokens source with
  | .error e => .error e
  | .ok ts => Parser.parse (Lexer.byteCount source) ts

structure Formula where
  source : String
  tree : Expression

namespace Formula

def compile (source : String) : Except Failure Formula :=
  match Expression.ofSource source.toList with
  | .error e => .error (.expressionSyntax source e.position e.problem.message)
  | .ok tree => .ok ⟨source, tree⟩

theorem compile_of_parse {source : String} {tree : Expression} (ts : List Located)
    (lexed : Lexer.tokens source.toList = .ok ts)
    (parsed : Parser.parse (Lexer.byteCount source.toList) ts = .ok tree) :
    compile source = .ok ⟨source, tree⟩ := by
  rw [compile, Expression.ofSource, lexed]
  simp only [parsed]

def evaluate (f : Formula) (scope : Scope) : Except Failure Answer :=
  match f.tree.eval scope with
  | .error e => .error (.expressionValue f.source e.message)
  | .ok answer => .ok answer

end Formula

/-- A name that can be written in an expression without backticks: ASCII letters, digits and the
underscore, no digit first. -/
def isPlainName (name : String) : Bool :=
  match name.toList with
  | [] => false
  | first :: rest =>
    (first.isAlpha || first = '_') && rest.all fun c => c.isAlphanum || c = '_'

end RecipeEngine
