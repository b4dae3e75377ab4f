namespace RecipeEngine.Csv

/-- The fields of a record, and the line the reader had come to when it started on the record:
one more than the line feeds read before. -/
structure Record where
  fields : List String
  line : Nat
deriving DecidableEq, Repr

inductive Mode where
  | betweenRecords
  | fieldStart
  | plain
  | quoted
  | afterQuote
deriving DecidableEq, Repr

/-- What has been read so far, latest first. -/
structure Progress where
  mode : Mode
  field : List Char
  fields : List String
  records : List Record
  line : Nat
  recordLine : Nat
deriving DecidableEq, Repr

namespace Progress

def start : Progress := ⟨.betweenRecords, [], [], [], 1, 1⟩

def push (p : Progress) (mode : Mode) (c : Char) : Progress :=
  { p with mode, field := c :: p.field }

def endField (p : Progress) : Progress :=
  { p with
    mode := .fieldStart, field := [], fields := String.ofList p.field.reverse :: p.fields }

def endRecord (p : Progress) : Progress :=
  let p := p.endField
  { p with
    mode := .betweenRecords
    fields := []
    records := ⟨p.fields.reverse, p.recordLine⟩ :: p.records
    recordLine := p.line }

def isTerminator (c : Char) : Bool := c = '\n' || c = '\r'

def openField (p : Progress) (c : Char) : Progress :=
  if c = '"' then { p with mode := .quoted }
  else if c = ',' then p.endField
  else if isTerminator c then p.endRecord
  else p.push .plain c

/-- Reads one character. Blank lines between records are passed over, so that a carriage return and
a line feed end one record. A field that starts with a double quote runs to the next lone one, a
quote inside it being written twice; what follows the closing quote up to the next separator belongs
to the field. -/
def step (p : Progress) (c : Char) : Progress :=
  let p := if c = '\n' then { p with line := p.line + 1 } else p
  match p.mode with
  | .betweenRecords => if isTerminator c then p else p.openField c
  | .fieldStart => p.openField c
  | .plain =>
    if c = ',' then p.endField
    else if isTerminator c then p.endRecord
    else p.push .plain c
  | .quoted => if c = '"' then { p with mode := .afterQuote } else p.push .quoted c
  | .afterQuote =>
    if c = '"' then p.push .quoted c
    else if c = ',' then p.endField
    else if isTerminator c then p.endRecord
    else p.push .plain c

/-- The records read, the last one ended by the end of the text. -/
def finish (p : Progress) : List Record :=
  match p.mode with
  | .betweenRecords => p.records.reverse
  | _ => p.endRecord.records.reverse

end Progress

def byteOrderMark : Char := Char.ofNat 0xfeff

def dropMark : List Char → List Char
  | [] => []
  | c :: rest => if c = byteOrderMark then rest else c :: rest

def records (cs : List Char) : List Record :=
  ((dropMark cs).foldl Progress.step Progress.start).finish

end RecipeEngine.Csv
