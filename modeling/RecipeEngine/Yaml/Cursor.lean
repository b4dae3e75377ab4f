import RecipeEngine.Text.Range

namespace RecipeEngine.Yaml

/-- A place in a text; all three are counted from zero. -/
structure Mark where
  index : Nat
  line : Nat
  column : Nat
deriving DecidableEq, Repr

def allowedRanges : List (Nat × Nat) :=
  [(0x9, 0xa), (0xd, 0xd), (0x20, 0x7e), (0x85, 0x85), (0xa0, 0xd7ff), (0xe000, 0xfffd),
   (0x10000, 0x10ffff)]

def isAllowed (c : Char) : Bool := Text.inRanges allowedRanges c.toNat

def isBlank (c : Char) : Bool := c = ' ' || c = '\t'

def isBreak (c : Char) : Bool := Text.inRanges [(0xa, 0xa), (0xd, 0xd), (0x85, 0x85), (0x2028, 0x2029)] c.toNat

/-- A character that words are made of: ASCII letters and digits, the hyphen and the underscore. -/
def isWordChar (c : Char) : Bool := c.isAlphanum || c = '-' || c = '_'

/-- What a line break stands for: itself if it is a separator, else a line feed. -/
def breakChar (c : Char) : Char := if 0x2000 < c.toNat then c else '\n'

structure Cursor where
  rest : List Char
  mark : Mark

namespace Cursor

def start (cs : List Char) : Cursor := ⟨cs, ⟨0, 0, 0⟩⟩

def ahead (c : Cursor) (offset : Nat) : Option Char := c.rest[offset]?

def next (c : Cursor) : Option Char := c.rest.head?

def nextIs (c : Cursor) (p : Char → Bool) : Bool := c.next.any p

/-- Whether the character some places ahead is white space or the end of the text. -/
def endsAt (c : Cursor) (offset : Nat) : Bool :=
  (c.ahead offset).all fun x => isBlank x || isBreak x

/-- Whether the character some places ahead is a line break or the end of the text. -/
def lineEndsAt (c : Cursor) (offset : Nat) : Bool := (c.ahead offset).all isBreak

def skip (c : Cursor) (count : Nat) : Cursor :=
  ⟨c.rest.drop count,
   { c.mark with index := c.mark.index + count, column := c.mark.column + count }⟩

/-- Past a line break; a carriage return and a line feed are one. -/
def skipBreak (c : Cursor) : Cursor :=
  let count := if (c.ahead 0) = some '\r' ∧ (c.ahead 1) = some '\n' then 2 else 1
  ⟨c.rest.drop count, ⟨c.mark.index + count, c.mark.line + 1, 0⟩⟩

/-- The characters of this line that satisfy a test, and the place after them. -/
def span (p : Char → Bool) (c : Cursor) : List Char × Cursor :=
  let taken := c.rest.takeWhile fun x => p x && !isBreak x
  (taken, c.skip taken.length)

def skipWhile (p : Char → Bool) (c : Cursor) : Cursor := (c.span p).2

def skipComment (c : Cursor) : Cursor :=
  if c.next = some '#' then c.skipWhile fun _ => true else c

/-- Whether the three characters ahead are some given one, followed by white space or the end. -/
def isMarker (c : Cursor) (x : Char) : Bool :=
  c.mark.column = 0 && c.rest.take 3 = [x, x, x] && c.endsAt 3

def atDocumentMarker (c : Cursor) : Bool := c.isMarker '-' || c.isMarker '.'

end Cursor

end RecipeEngine.Yaml
