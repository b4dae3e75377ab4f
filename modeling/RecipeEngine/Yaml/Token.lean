import RecipeEngine.Yaml.Cursor

namespace RecipeEngine.Yaml

inductive Style where
  | plain
  | quoted
  | literal
  | folded
deriving DecidableEq, Repr

/-- A tag as it is written; the handle is empty if the rest is the whole tag. -/
structure TagName where
  handle : String
  suffix : String
deriving DecidableEq, Repr

inductive Token where
  | versionDirective (major minor : Nat)
  | tagDirective (handle lead : String)
  | documentStart
  | documentEnd
  | streamEnd
  | blockSequenceStart
  | blockMappingStart
  | blockEnd
  | sequenceOpen
  | sequenceClose
  | mappingOpen
  | mappingClose
  | entry
  | separator
  | key
  | value
  | reference (anchor : String)
  | anchor (name : String)
  | tag (name : TagName)
  | scalar (style : Style) (text : String)
deriving DecidableEq, Repr

structure Located where
  token : Token
  mark : Mark
deriving DecidableEq, Repr

end RecipeEngine.Yaml
