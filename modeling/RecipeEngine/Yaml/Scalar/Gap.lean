import RecipeEngine.Yaml.Problem

namespace RecipeEngine.Yaml

/-- White space between two parts of a scalar. Blanks within a line stand for themselves, a single
line break for a space, and further ones for themselves. -/
structure Gap where
  blanks : List Char := []
  first : List Char := []
  others : List Char := []
  broken : Bool := false

namespace Gap

def fold (first others : List Char) : List Char :=
  if first.head? = some '\n' then (if others.isEmpty then [' '] else others) else first ++ others

def text (gap : Gap) : List Char :=
  if gap.broken then fold gap.first gap.others else gap.blanks

def endLine (gap : Gap) (c : Char) : Gap :=
  if gap.broken then { gap with others := gap.others ++ [breakChar c] }
  else { blanks := [], first := [breakChar c], others := gap.others, broken := true }

/-- Reads white space from a cursor on. After a line break, tabs left of column `indent` are
refused. -/
def read (indent : Nat) : Nat → Gap → Cursor → Except Problem (Gap × Cursor)
  | 0, gap, c => .ok (gap, c)
  | room + 1, gap, c =>
    match c.next with
    | none => .ok (gap, c)
    | some x =>
      if isBreak x then read indent room (gap.endLine x) c.skipBreak
      else if isBlank x then
        if gap.broken then
          if x = '\t' && c.mark.column < indent then c.fail .tabIndentation
          else read indent room gap (c.skip 1)
        else read indent room { gap with blanks := gap.blanks ++ [x] } (c.skip 1)
      else .ok (gap, c)

end Gap

end RecipeEngine.Yaml
