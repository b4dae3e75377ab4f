import RecipeEngine.Yaml.Scalar.Block
import RecipeEngine.Yaml.Scalar.Plain
import RecipeEngine.Yaml.Scalar.Quoted

namespace RecipeEngine.Yaml

/-- A token that may turn out to be a mapping key. That is seen only at the colon behind it, on the
same line and at most 1024 characters on; the key token is put in before it then. -/
structure Candidate where
  position : Nat
  mark : Mark
  /-- It stands where only a key can. -/
  required : Bool

structure Lexer where
  cursor : Cursor
  /-- The tokens read so far, the last one first. -/
  read : List Located := []
  /-- The column of the current block, -1 outside all blocks. -/
  indent : Int := -1
  enclosing : List Int := []
  keyAllowed : Bool := true
  candidate : Option Candidate := none
  /-- The candidates of the enclosing bracket levels; there are as many as open brackets. -/
  outer : List (Option Candidate) := []

namespace Lexer

def keyLimit : Nat := 1024

def inFlow (s : Lexer) : Bool := !s.outer.isEmpty

def emit (s : Lexer) (token : Token) : Lexer :=
  { s with read := ⟨token, s.cursor.mark⟩ :: s.read }

/-- Puts a token in before the one with a given number of tokens before it. -/
def emitAt (s : Lexer) (position : Nat) (token : Token) (mark : Mark) : Lexer :=
  { s with read := s.read.insertIdx (s.read.length - position) ⟨token, mark⟩ }

def openBlock (s : Lexer) (column position : Nat) (token : Token) (mark : Mark) : Lexer :=
  if s.inFlow then s
  else if s.indent < column then
    { s with indent := column, enclosing := s.indent :: s.enclosing }.emitAt position token mark
  else s

def openBlockHere (s : Lexer) (token : Token) : Lexer :=
  s.openBlock s.cursor.mark.column s.read.length token s.cursor.mark

def closeBlocks (column : Int) : List Int → Lexer → Lexer
  | [], s => s
  | parent :: parents, s =>
    if s.indent ≤ column then s
    else closeBlocks column parents { s.emit .blockEnd with indent := parent, enclosing := parents }

/-- Closes the blocks right of a column; within brackets there are none. -/
def dedent (s : Lexer) (column : Int) : Lexer :=
  if s.inFlow then s else closeBlocks column s.enclosing s

def dropCandidate (s : Lexer) : Except Problem Lexer :=
  if s.candidate.any (·.required) then s.cursor.fail .missingColon
  else .ok { s with candidate := none }

/-- Makes the token at the cursor a candidate, where a key may start. -/
def addCandidate (s : Lexer) : Except Problem Lexer :=
  if s.keyAllowed then do
    let s ← s.dropCandidate
    .ok { s with
      candidate := some
        ⟨s.read.length, s.cursor.mark, !s.inFlow && s.indent == s.cursor.mark.column⟩ }
  else .ok s

def isStale (here : Mark) (candidate : Candidate) : Bool :=
  candidate.mark.line < here.line || candidate.mark.index + keyLimit < here.index

def dropStale (s : Lexer) : Except Problem Lexer :=
  let stale (candidate : Option Candidate) := candidate.filter (isStale s.cursor.mark)
  if (s.candidate :: s.outer).any fun c => (stale c).any (·.required) then
    s.cursor.fail .missingColon
  else
    let fresh (candidate : Option Candidate) := candidate.filter fun c => !isStale s.cursor.mark c
    .ok { s with candidate := fresh s.candidate, outer := s.outer.map fresh }

/-- Past a byte order mark at the start of a line; it counts as a character of that line. -/
def skipByteOrderMark (c : Cursor) : Cursor :=
  if c.mark.column = 0 ∧ c.next = some (Char.ofNat 0xfeff) then c.skip 1 else c

/-- Past white space, comments and line breaks. Where a key may start, a tab is no white space. -/
def skipSpace : Nat → Lexer → Lexer
  | 0, s => s
  | room + 1, s =>
    let blank (c : Char) : Bool := c = ' ' || ((s.inFlow || !s.keyAllowed) && c = '\t')
    let c := ((skipByteOrderMark s.cursor).skipWhile blank).skipComment
    if c.nextIs isBreak then
      skipSpace room { s with cursor := c.skipBreak, keyAllowed := s.keyAllowed || !s.inFlow }
    else { s with cursor := c }

/-- Emits a token and passes its characters; afterwards a key may start or not. -/
def take (s : Lexer) (token : Token) (count : Nat) (keyAllowed : Bool) : Lexer :=
  { s.emit token with cursor := s.cursor.skip count, keyAllowed }

/-- Emits a token that was read up to a place; no key may start right behind it. -/
def takeTo (s : Lexer) (token : Token) (after : Cursor) : Lexer :=
  { s.emit token with cursor := after, keyAllowed := false }

def openBracket (s : Lexer) (token : Token) : Except Problem Lexer := do
  let s ← s.addCandidate
  .ok { s.take token 1 true with candidate := none, outer := s.candidate :: s.outer }

def closeBracket (s : Lexer) (token : Token) : Except Problem Lexer := do
  let s ← s.dropCandidate
  let s := s.take token 1 false
  .ok (match s.outer with
    | candidate :: outer => { s with candidate, outer }
    | [] => s)

def separator (s : Lexer) : Except Problem Lexer := do
  let s ← s.dropCandidate
  .ok (s.take .separator 1 true)

def entry (s : Lexer) : Except Problem Lexer := do
  if !s.inFlow && !s.keyAllowed then s.cursor.fail .entryNotAllowed
  else
    let s ← (s.openBlockHere .blockSequenceStart).dropCandidate
    .ok (s.take .entry 1 true)

def explicitKey (s : Lexer) : Except Problem Lexer := do
  if !s.inFlow && !s.keyAllowed then s.cursor.fail .keyNotAllowed
  else
    let s ← (s.openBlockHere .blockMappingStart).dropCandidate
    .ok (s.take .key 1 !s.inFlow)

/-- A colon before a value. If there is a candidate, it was the key. -/
def value (s : Lexer) : Except Problem Lexer :=
  match s.candidate with
  | some c =>
    let s := (s.emitAt c.position .key c.mark).openBlock c.mark.column c.position
      .blockMappingStart c.mark
    .ok { s.take .value 1 false with candidate := none }
  | none =>
    if !s.inFlow && !s.keyAllowed then s.cursor.fail .valueNotAllowed
    else .ok ((s.openBlockHere .blockMappingStart).take .value 1 !s.inFlow)

def documentMarker (s : Lexer) (token : Token) : Except Problem Lexer := do
  let s ← (s.dedent (-1)).dropCandidate
  .ok (s.take token 3 false)

def anchorEnds : List Char := ['?', ':', ',', ']', '\x7d', '%', '@', Char.ofNat 0x60]

def anchor (s : Lexer) (make : String → Token) : Except Problem Lexer := do
  let s ← s.addCandidate
  let (name, after) := (s.cursor.skip 1).span isWordChar
  if name.isEmpty || !(after.endsAt 0 || after.nextIs anchorEnds.contains) then
    after.fail .badAnchor
  else .ok (s.takeTo (make (String.ofList name)) after)

def tagChars : List Char :=
  [';', '/', '?', ':', '@', '&', '=', '+', '$', '.', '!', '~', '*', '\'', '(', ')']

/-- The bytes that percent signs and two digits each write at the head of a text, at most four. -/
def escapedBytes : Nat → List Char → List Nat
  | room + 1, '%' :: a :: b :: rest =>
    match Quoted.hexValue? [a, b] with
    | some byte => byte :: escapedBytes room rest
    | none => []
  | _, _ => []

def escapedChar? (bytes : List Nat) : Option (Char × Nat) :=
  let tail (xs : List Nat) (start : Nat) : Option Nat :=
    xs.foldl (fun n b => n.bind fun n => if b / 64 = 2 then some (64 * n + b % 64) else none)
      (some start)
  let make (width start : Nat) : Option (Char × Nat) :=
    if bytes.length < width then none
    else (tail ((bytes.take width).drop 1) start).map fun n => (Char.ofNat n, width)
  match bytes with
  | [] => none
  | b :: _ =>
    if b < 128 then make 1 b
    else if b / 32 = 6 then make 2 (b % 32)
    else if b / 16 = 14 then make 3 (b % 16)
    else if b / 8 = 30 then make 4 (b % 8)
    else none

/-- Reads the characters of a tag; within angle brackets a few more are allowed. -/
def readTagChars (verbatim : Bool) : Nat → List Char → Cursor → Except Problem (List Char × Cursor)
  | 0, read, c => .ok (read.reverse, c)
  | room + 1, read, c =>
    match c.next with
    | none => .ok (read.reverse, c)
    | some x =>
      if x = '%' then
        match escapedChar? (escapedBytes 4 c.rest) with
        | some (y, width) => readTagChars verbatim room (y :: read) (c.skip (3 * width))
        | none => c.fail .badTag
      else if isWordChar x || tagChars.contains x || (verbatim && [',', '[', ']'].contains x) then
        readTagChars verbatim room (x :: read) (c.skip 1)
      else .ok (read.reverse, c)

def readTagRest (verbatim : Bool) (c : Cursor) : Except Problem (List Char × Cursor) := do
  let (cs, after) ← readTagChars verbatim c.rest.length [] c
  if cs.isEmpty then after.fail .badTag else .ok (cs, after)

/-- Reads an exclamation mark, the word behind it, and the mark that ends it, if there is one. -/
def readTagHandle (c : Cursor) : List Char × Cursor :=
  let (word, after) := (c.skip 1).span isWordChar
  if after.next = some '!' then ('!' :: word ++ ['!'], after.skip 1) else ('!' :: word, after)

/-- Reads a tag: in angle brackets, after a handle between exclamation marks, or after a single
mark, which alone is a tag of its own. -/
def readTag (c : Cursor) : Except Problem (TagName × Cursor) :=
  if c.ahead 1 = some '<' then do
    let (cs, c) ← readTagRest true (c.skip 2)
    if c.next = some '>' then .ok (⟨"", String.ofList cs⟩, c.skip 1) else c.fail .badTag
  else
    let (handle, after) := readTagHandle c
    if 1 < handle.length && handle.getLast? = some '!' then do
      let (cs, after) ← readTagRest false after
      .ok (⟨String.ofList handle, String.ofList cs⟩, after)
    else do
      let (cs, after) ← readTagChars false after.rest.length [] after
      match handle.drop 1 ++ cs with
      | [] => .ok (⟨"", "!"⟩, after)
      | suffix => .ok (⟨"!", String.ofList suffix⟩, after)

def tag (s : Lexer) : Except Problem Lexer := do
  let s ← s.addCandidate
  let (name, after) ← readTag s.cursor
  if after.endsAt 0 || (s.inFlow && after.next = some ',') then .ok (s.takeTo (.tag name) after)
  else after.fail .badTag

def scalarToken (style : Style) (cs : List Char) : Token := .scalar style (String.ofList cs)

def blockScalar (s : Lexer) (style : Style) : Except Problem Lexer := do
  let s ← s.dropCandidate
  let (cs, after) ← Block.read style s.indent s.cursor
  .ok { s.takeTo (scalarToken style cs) after with keyAllowed := true }

def quotedScalar (s : Lexer) (single : Bool) : Except Problem Lexer := do
  let s ← s.addCandidate
  let (cs, after) ← Quoted.read single s.cursor
  .ok (s.takeTo (scalarToken .quoted cs) after)

/-- A plain scalar; after one that is followed by a line break a key may start. -/
def plainScalar (s : Lexer) : Except Problem Lexer := do
  let s ← s.addCandidate
  let result ← Plain.read s.inFlow (s.indent + 1).toNat s.cursor
  .ok { s.takeTo (scalarToken .plain result.text) result.after with keyAllowed := result.lineEnded }

def readVersionPart (c : Cursor) : Except Problem (Nat × Cursor) :=
  let (digits, after) := c.span Char.isDigit
  if digits.isEmpty || 9 < digits.length then after.fail .badDirective
  else .ok (digits.foldl (fun n d => 10 * n + (d.toNat - '0'.toNat)) 0, after)

def readDirective (name : List Char) (c : Cursor) : Except Problem (Token × Cursor) :=
  let c := c.skipWhile isBlank
  if name = "YAML".toList then do
    let (major, c) ← readVersionPart c
    if c.next = some '.' then
      let (minor, c) ← readVersionPart (c.skip 1)
      .ok (.versionDirective major minor, c)
    else c.fail .badDirective
  else if name = "TAG".toList && c.next = some '!' then do
    let (handle, c) := readTagHandle c
    if (handle ≠ ['!'] && handle.getLast? ≠ some '!') || !(c.nextIs isBlank) then
      c.fail .badDirective
    else
      let (lead, c) ← readTagRest true (c.skipWhile isBlank)
      if c.endsAt 0 then .ok (.tagDirective (String.ofList handle) (String.ofList lead), c)
      else c.fail .badDirective
  else c.fail .badDirective

def directive (s : Lexer) : Except Problem Lexer := do
  let s ← (s.dedent (-1)).dropCandidate
  let (name, c) := (s.cursor.skip 1).span isWordChar
  if name.isEmpty || !c.endsAt 0 then c.fail .badDirective
  else
    let (token, c) ← readDirective name c
    let c := (c.skipWhile isBlank).skipComment
    if c.lineEndsAt 0 then
      .ok (s.takeTo token (if c.rest.isEmpty then c else c.skipBreak))
    else c.fail .badDirective

def indicators : List Char :=
  ['-', '?', ':', ',', '[', ']', '\x7b', '\x7d', '#', '&', '*', '!', '|', '>', '\'', '"', '%', '@',
   Char.ofNat 0x60]

def startsPlain (s : Lexer) (x : Char) : Bool :=
  let c := s.cursor
  !(c.endsAt 0 || indicators.contains x) ||
    (x = '-' && !((c.ahead 1).any isBlank)) ||
    (!s.inFlow && (x = '?' || x = ':') && !c.endsAt 1)

def token (s : Lexer) (x : Char) : Except Problem Lexer :=
  let c := s.cursor
  let indicator := s.inFlow || c.endsAt 1
  if c.mark.column = 0 && x = '%' then s.directive
  else if c.isMarker '-' then s.documentMarker .documentStart
  else if c.isMarker '.' then s.documentMarker .documentEnd
  else if x = '[' then s.openBracket .sequenceOpen
  else if x = '\x7b' then s.openBracket .mappingOpen
  else if x = ']' then s.closeBracket .sequenceClose
  else if x = '\x7d' then s.closeBracket .mappingClose
  else if x = ',' then s.separator
  else if x = '-' && c.endsAt 1 then s.entry
  else if x = '?' && indicator then s.explicitKey
  else if x = ':' && indicator then s.value
  else if x = '*' then s.anchor .reference
  else if x = '&' then s.anchor .anchor
  else if x = '!' then s.tag
  else if x = '|' && !s.inFlow then s.blockScalar .literal
  else if x = '>' && !s.inFlow then s.blockScalar .folded
  else if x = '\'' then s.quotedScalar true
  else if x = '"' then s.quotedScalar false
  else if s.startsPlain x then s.plainScalar
  else c.fail (.unexpectedCharacter x)

def finish (s : Lexer) : Except Problem (List Located) := do
  let s ← (s.dedent (-1)).dropCandidate
  .ok (s.emit .streamEnd).read.reverse

/-- Reads the tokens from here on; each takes at least one character. -/
def tokensFrom : Nat → Lexer → Except Problem (List Located)
  | 0, s => s.finish
  | room + 1, s => do
    let s ← (skipSpace (s.cursor.rest.length + 1) s).dropStale
    let s := s.dedent s.cursor.mark.column
    match s.cursor.next with
    | none => s.finish
    | some x => tokensFrom room (← s.token x)

def tokens (text : String) : Except Problem (List Located) :=
  match text.toList.find? fun c => !isAllowed c with
  | some c => .error ⟨.forbiddenCharacter c, none⟩
  | none =>
    tokensFrom (text.length + 1) { cursor := .start text.toList }

end Lexer

end RecipeEngine.Yaml
