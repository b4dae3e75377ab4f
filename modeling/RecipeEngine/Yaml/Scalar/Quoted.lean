import RecipeEngine.Yaml.Scalar.Gap

namespace RecipeEngine.Yaml.Quoted

def hexDigit? (c : Char) : Option Nat :=
  if c.isDigit then some (c.toNat - '0'.toNat)
  else if 'a' ≤ c ∧ c ≤ 'f' then some (c.toNat - 'a'.toNat + 10)
  else if 'A' ≤ c ∧ c ≤ 'F' then some (c.toNat - 'A'.toNat + 10)
  else none

def hexValue? (digits : List Char) : Option Nat :=
  digits.foldl (fun n c => match n, hexDigit? c with
    | some n, some d => some (16 * n + d)
    | _, _ => none) (some 0)

def simpleEscape? : Char → Option Char
  | '0' => some (Char.ofNat 0)
  | 'a' => some (Char.ofNat 0x7)
  | 'b' => some (Char.ofNat 0x8)
  | 't' => some '\t'
  | '\t' => some '\t'
  | 'n' => some '\n'
  | 'v' => some (Char.ofNat 0xb)
  | 'f' => some (Char.ofNat 0xc)
  | 'r' => some '\r'
  | 'e' => some (Char.ofNat 0x1b)
  | ' ' => some ' '
  | '"' => some '"'
  | '/' => some '/'
  | '\\' => some '\\'
  | 'N' => some (Char.ofNat 0x85)
  | '_' => some (Char.ofNat 0xa0)
  | 'L' => some (Char.ofNat 0x2028)
  | 'P' => some (Char.ofNat 0x2029)
  | _ => none

def digitCount? : Char → Option Nat
  | 'x' => some 2
  | 'u' => some 4
  | 'U' => some 8
  | _ => none

def ofCode? (n : Nat) : Option Char :=
  if n < 0xd800 ∨ (0xdfff < n ∧ n ≤ 0x10ffff) then some (Char.ofNat n) else none

def readEscape (c : Cursor) : Except Problem (Char × Cursor) :=
  match c.ahead 1 with
  | none => c.fail .badEscape
  | some letter =>
    match simpleEscape? letter, digitCount? letter with
    | some x, _ => .ok (x, c.skip 2)
    | none, none => c.fail .badEscape
    | none, some count =>
      let digits := (c.rest.drop 2).take count
      match (if digits.length = count then hexValue? digits else none).bind ofCode? with
      | some x => .ok (x, c.skip (2 + count))
      | none => c.fail .badEscape

/-- Reads a part without white space, up to the closing quote, white space or an escaped line
break; the flag tells of the last. -/
def readPart (single : Bool) : Nat → List Char → Cursor →
    Except Problem (List Char × Bool × Cursor)
  | 0, read, c => .ok (read.reverse, false, c)
  | room + 1, read, c =>
    match c.next with
    | none => .ok (read.reverse, false, c)
    | some x =>
      if c.endsAt 0 then .ok (read.reverse, false, c)
      else if single then
        if x = '\'' then
          if c.ahead 1 = some '\'' then readPart single room (x :: read) (c.skip 2)
          else .ok (read.reverse, false, c)
        else readPart single room (x :: read) (c.skip 1)
      else if x = '"' then .ok (read.reverse, false, c)
      else if x = '\\' then
        if (c.ahead 1).any isBreak then .ok (read.reverse, true, (c.skip 1).skipBreak)
        else match readEscape c with
          | .ok (y, c) => readPart single room (y :: read) c
          | .error e => .error e
      else readPart single room (x :: read) (c.skip 1)

def readParts (single : Bool) : Nat → List Char → Cursor → Except Problem (List Char × Cursor)
  | 0, _, c => c.fail .unclosedQuote
  | room + 1, read, c =>
    if c.atDocumentMarker then c.fail .markerInQuotes
    else if c.rest.isEmpty then c.fail .unclosedQuote
    else do
      let (part, joined, c) ← readPart single c.rest.length [] c
      if c.next = some (if single then '\'' else '"') then .ok (read ++ part, c.skip 1)
      else
        let (gap, c) ← Gap.read 0 c.rest.length { broken := joined } c
        readParts single room (read ++ part ++ gap.text) c

/-- Reads a quoted scalar from its opening quote on. Between single quotes a quote is written twice;
between double quotes a backslash starts an escape, and joins the lines at the end of one. -/
def read (single : Bool) (c : Cursor) : Except Problem (List Char × Cursor) :=
  readParts single (c.rest.length + 1) [] (c.skip 1)

end RecipeEngine.Yaml.Quoted
