import RecipeEngine.Yaml.Cursor

namespace RecipeEngine.Yaml

/-- What is wrong with a YAML text, or with the shape of what it holds. -/
inductive Cause where
  | forbiddenCharacter (c : Char)
  | unexpectedCharacter (c : Char)
  | missingColon
  | entryNotAllowed
  | keyNotAllowed
  | valueNotAllowed
  | badDirective
  | badAnchor
  | badTag
  | undefinedTagHandle (handle : String)
  | badBlockHeader
  | tabIndentation
  | markerInQuotes
  | unclosedQuote
  | badEscape
  | unexpectedColon
  | missingNode
  | missingEntry
  | missingKey
  | missingSeparator
  | missingDocumentStart
  | unknownAnchor (name : String)
  | nestedTooDeeply
  | tooManyAliases
  | severalDocuments
  | wrongShape (expected : String)
  | missingField (name : String)
  | duplicateField (name : String)
  | unknownField (name : String)
deriving DecidableEq, Repr

namespace Cause

def message : Cause → String
  | .forbiddenCharacter _ => "control characters are not allowed"
  | .unexpectedCharacter c => "found character '" ++ c.toString ++ "' that cannot start any token"
  | .missingColon => "could not find expected ':'"
  | .entryNotAllowed => "block sequence entries are not allowed in this context"
  | .keyNotAllowed => "mapping keys are not allowed in this context"
  | .valueNotAllowed => "mapping values are not allowed in this context"
  | .badDirective => "did not find a valid directive"
  | .badAnchor => "did not find expected alphabetic or numeric character"
  | .badTag => "did not find a valid tag"
  | .undefinedTagHandle handle => "found undefined tag handle '" ++ handle ++ "'"
  | .badBlockHeader => "did not find a valid block scalar header"
  | .tabIndentation => "found a tab character where indentation is expected"
  | .markerInQuotes => "found unexpected document indicator"
  | .unclosedQuote => "found unexpected end of stream"
  | .badEscape => "found invalid escape sequence"
  | .unexpectedColon => "found unexpected ':'"
  | .missingNode => "did not find expected node content"
  | .missingEntry => "did not find expected '-' indicator"
  | .missingKey => "did not find expected key"
  | .missingSeparator => "did not find expected ',' or closing bracket"
  | .missingDocumentStart => "did not find expected <document start>"
  | .unknownAnchor name => "unknown anchor '" ++ name ++ "'"
  | .nestedTooDeeply => "recursion limit exceeded"
  | .tooManyAliases => "repetition limit exceeded"
  | .severalDocuments => "deserializing from YAML containing more than one document is not supported"
  | .wrongShape expected => "invalid type: expected " ++ expected
  | .missingField name => "missing field '" ++ name ++ "'"
  | .duplicateField name => "duplicate field '" ++ name ++ "'"
  | .unknownField name => "unknown field '" ++ name ++ "'"

end Cause

/-- A cause, with its place in the text if it has one. -/
structure Problem where
  cause : Cause
  mark : Option Mark := none
deriving DecidableEq, Repr

/-- The text that describes a problem; lines and columns are counted from one. -/
def Problem.message (p : Problem) : String :=
  match p.mark with
  | none => p.cause.message
  | some m =>
    p.cause.message ++ " at line " ++ toString (m.line + 1) ++ " column " ++ toString (m.column + 1)

def Cursor.fail {α : Type} (c : Cursor) (cause : Cause) : Except Problem α :=
  .error ⟨cause, some c.mark⟩

end RecipeEngine.Yaml
