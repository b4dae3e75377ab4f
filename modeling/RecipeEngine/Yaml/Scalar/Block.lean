import RecipeEngine.Yaml.Scalar.Gap
import RecipeEngine.Yaml.Token

namespace RecipeEngine.Yaml.Block

/-- What becomes of the line breaks at the end. -/
inductive Chomping where
  | strip
  | clip
  | keep
deriving DecidableEq, Repr

structure Header where
  chomping : Chomping := .clip
  /-- The indentation relative to the parent; none if it is to be found out. -/
  indent : Option Nat := none

def readChomping (c : Cursor) : Option (Chomping × Cursor) :=
  match c.next with
  | some '+' => some (.keep, c.skip 1)
  | some '-' => some (.strip, c.skip 1)
  | _ => none

def readIndent (c : Cursor) : Except Problem (Option Nat × Cursor) :=
  match c.next with
  | some x =>
    if x = '0' then c.fail .badBlockHeader
    else if x.isDigit then .ok (some (x.toNat - '0'.toNat), c.skip 1)
    else .ok (none, c)
  | none => .ok (none, c)

def readIndicators (c : Cursor) : Except Problem (Header × Cursor) :=
  match readChomping c with
  | some (chomping, c) => do
    let (indent, c) ← readIndent c
    .ok (⟨chomping, indent⟩, c)
  | none => do
    let (indent, c) ← readIndent c
    match indent, readChomping c with
    | some _, some (chomping, c) => .ok (⟨chomping, indent⟩, c)
    | _, _ => .ok (⟨.clip, indent⟩, c)

def readHeader (c : Cursor) : Except Problem (Header × Cursor) := do
  let (header, c) ← readIndicators c
  let c := (c.skipWhile isBlank).skipComment
  if c.lineEndsAt 0 then .ok (header, if c.rest.isEmpty then c else c.skipBreak)
  else c.fail .badBlockHeader

/-- Whether a column is left of the content; while the indentation is unknown every one is. -/
def isLeft (indent : Option Nat) (column : Nat) : Bool := indent.all fun i => column < i

def skipIndent (indent : Option Nat) (c : Cursor) : Cursor :=
  let spaces := (c.rest.takeWhile (· = ' ')).length
  c.skip (match indent with
    | some i => min spaces (i - c.mark.column)
    | none => spaces)

/-- Reads empty lines, up to the first line with content. Gives their breaks, the widest
indentation seen and the place after the indentation. -/
def readEmptyLines (indent : Option Nat) : Nat → Nat → List Char → Cursor →
    Except Problem (List Char × Nat × Cursor)
  | 0, widest, breaks, c => .ok (breaks, widest, c)
  | room + 1, widest, breaks, c =>
    let c := skipIndent indent c
    let widest := max widest c.mark.column
    match c.next with
    | some x =>
      if isLeft indent c.mark.column && x = '\t' then c.fail .tabIndentation
      else if isBreak x then readEmptyLines indent room widest (breaks ++ [breakChar x]) c.skipBreak
      else .ok (breaks, widest, c)
    | none => .ok (breaks, widest, c)

/-- The lines read so far: their text, the break after the last one, whether that one starts with
white space, and the empty lines since. -/
structure Lines where
  text : List Char := []
  last : List Char := []
  startsBlank : Bool := false
  empty : List Char := []

/-- What joins the lines read so far to a next one. Literal scalars keep their line breaks; folded
ones join lines that do not start with white space. -/
def joint (style : Style) (lines : Lines) (nextBlank : Bool) : List Char :=
  if style = .folded && lines.last.head? = some '\n' && !lines.startsBlank && !nextBlank then
    if lines.empty.isEmpty then [' '] else lines.empty
  else lines.last ++ lines.empty

def readLines (style : Style) (indent : Nat) : Nat → Lines → Cursor → Except Problem (Lines × Cursor)
  | 0, lines, c => .ok (lines, c)
  | room + 1, lines, c =>
    if c.mark.column = indent && !c.rest.isEmpty then do
      let blank := c.nextIs isBlank
      let (line, c) := c.span fun _ => true
      let text := lines.text ++ joint style lines blank ++ line
      let (last, c) := match c.next with
        | some x => ([breakChar x], c.skipBreak)
        | none => ([], c)
      let (empty, _, c) ← readEmptyLines (some indent) (c.rest.length + 1) 0 [] c
      readLines style indent room ⟨text, last, blank, empty⟩ c
    else .ok (lines, c)

def chomp (chomping : Chomping) (lines : Lines) : List Char :=
  match chomping with
  | .strip => lines.text
  | .clip => lines.text ++ lines.last
  | .keep => lines.text ++ lines.last ++ lines.empty

/-- The column of the content: as the header says relative to the parent, or else the widest
indentation of the empty lines and the first line, but right of the parent. -/
def contentColumn (parent : Int) (given : Option Nat) (widest : Nat) : Nat :=
  match given with
  | some n => (max parent 0).toNat + n
  | none => max (max widest (parent + 1).toNat) 1

/-- Reads a block scalar from its indicator on; `parent` is the column of the enclosing block. -/
def read (style : Style) (parent : Int) (c : Cursor) : Except Problem (List Char × Cursor) := do
  let (header, c) ← readHeader (c.skip 1)
  let given := header.indent.map fun n => contentColumn parent (some n) 0
  let (empty, widest, c) ← readEmptyLines given (c.rest.length + 1) 0 [] c
  let column := contentColumn parent header.indent widest
  let (lines, c) ← readLines style column (c.rest.length + 1) { empty } c
  .ok (chomp header.chomping lines, c)

end RecipeEngine.Yaml.Block
