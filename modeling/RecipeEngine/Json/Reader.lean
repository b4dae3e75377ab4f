import RecipeEngine.Json.Basic
import RecipeEngine.Number.Numeral

namespace RecipeEngine.Json

/-- How `significand * 10 ^ exponent` becomes a double; none if it is out of range. -/
abbrev Scaling := Nat → Int → Option Float

namespace Scaling

def powerOfTen (power : Nat) : Float := Decimal.toFloat false ⟨1, power⟩

/-- One multiplication or division by a power of ten, with a division by `10 ^ 308` before it for
very small numbers. The result may differ from the nearest double in the last place. -/
def stepwise : Scaling := fun significand exponent =>
  let start := Float.ofNat significand
  if 308 < exponent then if significand = 0 then some start else none
  else if 0 ≤ exponent then some (start * powerOfTen exponent.toNat) |>.filter Float.isFinite
  else if -308 ≤ exponent then some (start / powerOfTen (-exponent).toNat)
  else if -616 ≤ exponent then some (start / powerOfTen 308 / powerOfTen (-exponent - 308).toNat)
  else some 0

end Scaling

def isSpace (c : Char) : Bool :=
  c = ' ' || c = '\n' || c = '\t' || c = '\r'

def skipSpace (cs : List Char) : List Char := cs.dropWhile isSpace

def significandLimit : Nat := twoTo 64 - 1

/-- Appends digits to a significand as long as it stays in its limit; the digits left over. -/
def gather : Nat → List Char → Nat × List Char
  | significand, [] => (significand, [])
  | significand, c :: rest =>
    let next := 10 * significand + (c.toNat - '0'.toNat)
    if significandLimit < next then (significand, c :: rest) else gather next rest

def readExponent : List Char → Option (Int × List Char)
  | [] => some (0, [])
  | c :: rest =>
    if c = 'e' ∨ c = 'E' then
      let (negative, after) := Numeral.splitSign rest
      let digits := after.takeWhile Char.isDigit
      if digits.isEmpty then none
      else
        let power : Int := Numeral.digitsValue digits
        some (if negative then -power else power, after.dropWhile Char.isDigit)
    else some (0, c :: rest)

/-- A float with the given sign, or none if it is out of range. -/
def scaled (scale : Scaling) (negative : Bool) (significand : Nat) (exponent : Int) :
    Option Json :=
  (scale significand exponent).map fun x => .float (if negative then -x else x)

/-- An integer without point or exponent; a negative zero and integers beyond 64 bits are
floats. -/
def ofDigits (scale : Scaling) (negative : Bool) (significand : Nat) (dropped : Nat) :
    Option Json :=
  if dropped ≠ 0 then scaled scale negative significand dropped
  else if !negative then some (.integer significand)
  else if significand = 0 ∨ twoTo 63 < significand then some (.float (-(Float.ofNat significand)))
  else some (.integer (-significand))

/-- The number at the head of a text, after its sign. With a point, an exponent or more digits than
a 64-bit integer holds it is a float. -/
def readNumber (scale : Scaling) (negative : Bool) (cs : List Char) :
    Option (Json × List Char) :=
  let whole := cs.takeWhile Char.isDigit
  let rest := cs.dropWhile Char.isDigit
  if whole.isEmpty || (1 < whole.length && whole.head? = some '0') then none
  else
    let (significand, dropped) := gather 0 whole
    match rest with
    | '.' :: tail =>
      let fraction := tail.takeWhile Char.isDigit
      if fraction.isEmpty then none
      else
        let (significand, ignored) := gather significand fraction
        match readExponent (tail.dropWhile Char.isDigit) with
        | none => none
        | some (power, rest) =>
          let places : Int := fraction.length - ignored.length
          (scaled scale negative significand (dropped.length - places + power)).map (·, rest)
    | 'e' :: _ | 'E' :: _ =>
      match readExponent rest with
      | none => none
      | some (power, rest) =>
        (scaled scale negative significand (dropped.length + power)).map (·, rest)
    | _ => (ofDigits scale negative significand dropped.length).map (·, rest)

def hexValue? (c : Char) : Option Nat :=
  if c.isDigit then some (c.toNat - '0'.toNat)
  else if 'a' ≤ c ∧ c ≤ 'f' then some (c.toNat - 'a'.toNat + 10)
  else if 'A' ≤ c ∧ c ≤ 'F' then some (c.toNat - 'A'.toNat + 10)
  else none

def readFourHex : List Char → Option (Nat × List Char)
  | a :: b :: c :: d :: rest => do
    let a ← hexValue? a
    let b ← hexValue? b
    let c ← hexValue? c
    let d ← hexValue? d
    some (((a * 16 + b) * 16 + c) * 16 + d, rest)
  | _ => none

def readUnits (cs : List Char) : Option (Char × List Char) := do
  let (high, rest) ← readFourHex cs
  if 0xdc00 ≤ high ∧ high ≤ 0xdfff then none
  else if 0xd800 ≤ high ∧ high ≤ 0xdbff then
    match rest with
    | '\\' :: 'u' :: rest =>
      let (low, rest) ← readFourHex rest
      if 0xdc00 ≤ low ∧ low ≤ 0xdfff then
        some (Char.ofNat (0x10000 + (high - 0xd800) * 0x400 + (low - 0xdc00)), rest)
      else none
    | _ => none
  else some (Char.ofNat high, rest)

def unescape? : Char → Option Char
  | '"' => some '"'
  | '\\' => some '\\'
  | '/' => some '/'
  | 'b' => some (Char.ofNat 0x8)
  | 'f' => some (Char.ofNat 0xc)
  | 'n' => some '\n'
  | 'r' => some '\r'
  | 't' => some '\t'
  | _ => none

/-- The characters of a text up to its closing quote; `fuel` bounds the length of the text. -/
def readChars : Nat → List Char → Option (List Char × List Char)
  | 0, _ => none
  | _ + 1, [] => none
  | _ + 1, '"' :: rest => some ([], rest)
  | fuel + 1, '\\' :: 'u' :: rest => do
    let (c, rest) ← readUnits rest
    let (chars, rest) ← readChars fuel rest
    some (c :: chars, rest)
  | fuel + 1, '\\' :: letter :: rest => do
    let c ← unescape? letter
    let (chars, rest) ← readChars fuel rest
    some (c :: chars, rest)
  | fuel + 1, c :: rest =>
    if c = '\\' ∨ c.toNat < 0x20 then none
    else do
      let (chars, rest) ← readChars fuel rest
      some (c :: chars, rest)

def readText (cs : List Char) : Option (String × List Char) :=
  (readChars cs.length cs).map fun (chars, rest) => (String.ofList chars, rest)

abbrev ReadValue := List Char → Option (Json × List Char)

def readItems (value : ReadValue) : Nat → List Char → Option (List Json × List Char)
  | 0, _ => none
  | fuel + 1, cs =>
    match skipSpace cs with
    | ']' :: rest => some ([], rest)
    | ',' :: rest => do
      let (item, rest) ← value (skipSpace rest)
      let (items, rest) ← readItems value fuel rest
      some (item :: items, rest)
    | _ => none

def readField (value : ReadValue) (cs : List Char) : Option ((String × Json) × List Char) :=
  match cs with
  | '"' :: rest => do
    let (name, rest) ← readText rest
    match skipSpace rest with
    | ':' :: rest =>
      let (item, rest) ← value (skipSpace rest)
      some ((name, item), rest)
    | _ => none
  | _ => none

def readFields (value : ReadValue) : Nat → List Char → Option (List (String × Json) × List Char)
  | 0, _ => none
  | fuel + 1, cs =>
    match skipSpace cs with
    | '\x7d' :: rest => some ([], rest)
    | ',' :: rest => do
      let (field, rest) ← readField value (skipSpace rest)
      let (fields, rest) ← readFields value fuel rest
      some (field :: fields, rest)
    | _ => none

def readList (value : ReadValue) (cs : List Char) : Option (Json × List Char) :=
  match skipSpace cs with
  | ']' :: rest => some (.list [], rest)
  | cs => do
    let (item, rest) ← value cs
    let (items, rest) ← readItems value rest.length rest
    some (.list (item :: items), rest)

def readObject (value : ReadValue) (cs : List Char) : Option (Json × List Char) :=
  match skipSpace cs with
  | '\x7d' :: rest => some (.object [], rest)
  | cs => do
    let (field, rest) ← readField value cs
    let (fields, rest) ← readFields value rest.length rest
    some (.object (field :: fields), rest)

def readLeaf (scale : Scaling) : ReadValue
  | '"' :: rest => (readText rest).map fun (s, rest) => (.text s, rest)
  | 'n' :: 'u' :: 'l' :: 'l' :: rest => some (.null, rest)
  | 't' :: 'r' :: 'u' :: 'e' :: rest => some (.bool true, rest)
  | 'f' :: 'a' :: 'l' :: 's' :: 'e' :: rest => some (.bool false, rest)
  | '-' :: rest => readNumber scale true rest
  | cs => readNumber scale false cs

/-- A value with lists and objects nested at most `depth` deep. -/
def readValue (scale : Scaling) : Nat → ReadValue
  | 0, '[' :: _ => none
  | 0, '\x7b' :: _ => none
  | depth + 1, '[' :: rest => readList (readValue scale depth) rest
  | depth + 1, '\x7b' :: rest => readObject (readValue scale depth) rest
  | _, cs => readLeaf scale cs

def depthLimit : Nat := 127

def read (scale : Scaling) (s : String) : Option Json :=
  match readValue scale depthLimit (skipSpace s.toList) with
  | some (value, rest) => if (skipSpace rest).isEmpty then some value else none
  | none => none

def parse (s : String) : Option Json := read Scaling.stepwise s

end RecipeEngine.Json
