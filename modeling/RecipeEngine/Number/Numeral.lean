import RecipeEngine.Number.Nearest
import RecipeEngine.Text.Blank
import RecipeEngine.Text.Letter

namespace RecipeEngine

/-- The parts of an unsigned numeral `(D+ .? D* | . D+) ([eE] [+-]? D+)?` with digits of any script.
-/
structure Numeral where
  whole : List Char
  fraction : List Char
  power : Option (Bool × List Char)
deriving DecidableEq, Repr

namespace Numeral

def splitSign : List Char → Bool × List Char
  | '-' :: rest => (true, rest)
  | '+' :: rest => (false, rest)
  | cs => (false, cs)

/-- An exponent at the head of the text, if a digit follows the letter and its sign. -/
def scanPower (digit : Char → Bool) : List Char → Option (Bool × List Char) × List Char
  | [] => (none, [])
  | c :: rest =>
    if c = 'e' ∨ c = 'E' then
      let (negative, after) := splitSign rest
      let digits := after.takeWhile digit
      if digits.isEmpty then (none, c :: rest)
      else (some (negative, digits), after.dropWhile digit)
    else (none, c :: rest)

def scanFraction (digit : Char → Bool) : List Char → List Char × List Char
  | '.' :: rest => (rest.takeWhile digit, rest.dropWhile digit)
  | cs => ([], cs)

/-- The longest numeral at the head of the text, and the characters after it. -/
def scan (digit : Char → Bool) (cs : List Char) : Option (Numeral × List Char) :=
  let whole := cs.takeWhile digit
  let (fraction, afterFraction) := scanFraction digit (cs.dropWhile digit)
  if whole.isEmpty && fraction.isEmpty then none
  else
    let (power, rest) := scanPower digit afterFraction
    some (⟨whole, fraction, power⟩, rest)

def digitsValue (digits : List Char) : Nat :=
  digits.foldl (fun n c => 10 * n + (c.toNat - '0'.toNat)) 0

def isAscii (n : Numeral) : Bool :=
  n.whole.all Char.isDigit && n.fraction.all Char.isDigit &&
    (n.power.map (·.2.all Char.isDigit)).getD true

def value (n : Numeral) : Decimal :=
  let power : Int := match n.power with
    | none => 0
    | some (negative, digits) => if negative then -(digitsValue digits) else digitsValue digits
  ⟨digitsValue (n.whole ++ n.fraction), power - n.fraction.length⟩

/-- The double nearest to a signed numeral; none unless all digits are ASCII digits. -/
def toFloat? (negative : Bool) (n : Numeral) : Option Float :=
  if n.isAscii then some (n.value.toFloat negative) else none

/-- A whole text that is an optionally signed ASCII numeral. It may be too large for a finite
double. -/
def readAll? (cs : List Char) : Option Float :=
  let (negative, body) := splitSign cs
  match scan Char.isDigit body with
  | some (numeral, []) => numeral.toFloat? negative
  | _ => none

/-- A text that is a finite number, with white space around it allowed. -/
def readNumber? (s : String) : Option Float :=
  (readAll? (Text.trimChars s.toList)).filter Float.isFinite

def infinityWord : List Char := "Infinity".toList

/-- The number at the head of a text, after white space: a numeral or the word `Infinity`. -/
def readPrefix? (s : String) : Option Float :=
  let (negative, body) := splitSign (Text.dropBlanks s.toList)
  if infinityWord.isPrefixOf body then
    some (Dyadic.withSign negative Dyadic.infinityBits)
  else
    match scan Text.isDecimalDigit body with
    | some (numeral, _) => numeral.toFloat? negative
    | none => none

def readInteger? (s : String) : Option Float :=
  let (negative, body) := splitSign (Text.dropBlanks s.toList)
  let digits := body.takeWhile Text.isDecimalDigit
  if digits.isEmpty then none
  else toFloat? negative ⟨digits, [], none⟩

end Numeral

end RecipeEngine
