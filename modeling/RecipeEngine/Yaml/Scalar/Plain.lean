import RecipeEngine.Yaml.Scalar.Gap

namespace RecipeEngine.Yaml.Plain

def flowIndicators : List Char := [',', '[', ']', '\x7b', '\x7d']

/-- Reads a part without white space. A colon before white space ends it, and within brackets so do
the bracket characters and the comma; there a colon right before an indicator is refused. -/
def readPart (inFlow : Bool) : Nat → List Char → Cursor → Except Problem (List Char × Cursor)
  | 0, read, c => .ok (read.reverse, c)
  | room + 1, read, c =>
    match c.next with
    | none => .ok (read.reverse, c)
    | some x =>
      if c.endsAt 0 then .ok (read.reverse, c)
      else if inFlow && x = ':' && (c.ahead 1).any ('?' :: flowIndicators).contains then
        c.fail .unexpectedColon
      else if (x = ':' && c.endsAt 1) || (inFlow && flowIndicators.contains x) then
        .ok (read.reverse, c)
      else readPart inFlow room (x :: read) (c.skip 1)

/-- A plain scalar, the place after it and the white space behind it, and whether a line ended in
that white space. -/
structure Result where
  text : List Char
  after : Cursor
  lineEnded : Bool

/-- Reads the parts of a plain scalar. In block context a line left of column `indent` ends it. -/
def readParts (inFlow : Bool) (indent : Nat) :
    Nat → List Char → Gap → Cursor → Except Problem Result
  | 0, read, gap, c => .ok ⟨read, c, gap.broken⟩
  | room + 1, read, gap, c =>
    if c.atDocumentMarker || c.next = some '#' then .ok ⟨read, c, gap.broken⟩
    else do
      let (part, c) ← readPart inFlow c.rest.length [] c
      let (read, gap) := if part.isEmpty then (read, gap) else (read ++ gap.text ++ part, {})
      if c.nextIs fun x => isBlank x || isBreak x then
        let (gap, c) ← Gap.read indent c.rest.length gap c
        if !inFlow && c.mark.column < indent then .ok ⟨read, c, gap.broken⟩
        else readParts inFlow indent room read gap c
      else .ok ⟨read, c, gap.broken⟩

def read (inFlow : Bool) (indent : Nat) (c : Cursor) : Except Problem Result :=
  readParts inFlow indent c.rest.length [] {} c

end RecipeEngine.Yaml.Plain
