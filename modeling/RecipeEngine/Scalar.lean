import RecipeEngine.Json.Basic
import RecipeEngine.Number.Format
import RecipeEngine.Number.Numeral

namespace RecipeEngine

inductive Scalar where
  | number (value : Float)
  | text (value : String)
deriving BEq, DecidableEq

namespace Scalar

def display : Scalar → String
  | .number x => NumberFormat.plain x
  | .text s => s

def number? : Scalar → Option Float
  | .number x => some x
  | .text _ => none

/-- The cell read as a number: a number as it is, a text only if all of it is a finite number. -/
def asNumber? : Scalar → Option Float
  | .number x => some x
  | .text s => Numeral.readNumber? s

def isNumber : Scalar → Bool
  | .number _ => true
  | .text _ => false

/-- A text that a person typed: a finite number becomes one, every other text is kept. -/
def ofInput (raw : String) : Scalar :=
  match Numeral.readNumber? raw with
  | some x => .number x
  | none => .text raw

/-- A field of a delimited text: a numeral without a plus sign becomes a number, even one beyond
the finite doubles; every other field is kept. -/
def ofField (raw : String) : Scalar :=
  let cs := Text.trimChars raw.toList
  if cs.head? = some '+' then .text raw
  else match Numeral.readAll? cs with
    | some x => .number x
    | none => .text raw

/-- Numbers in their order, with every NaN after the others and equal to every other NaN. -/
def compareNumbers (x y : Float) : Ordering :=
  match x.isNaN, y.isNaN with
  | true, true => .eq
  | true, false => .gt
  | false, true => .lt
  | false, false => if x < y then .lt else if y < x then .gt else .eq

def compareTexts (s t : String) : Ordering :=
  if s < t then .lt else if s = t then .eq else .gt

def compare : Scalar → Scalar → Ordering
  | .number x, .number y => compareNumbers x y
  | .number _, .text _ => .lt
  | .text _, .number _ => .gt
  | .text s, .text t => compareTexts s t

/-- A number in JSON; one that is not finite is its name as a text. -/
def numberToJson (x : Float) : Json :=
  if x.isFinite then .float x else .text (NumberFormat.plain x)

def toJson : Scalar → Json
  | .number x => numberToJson x
  | .text s => .text s

def ofInt (n : Int) : Float :=
  Decimal.toFloat (n < 0) ⟨n.natAbs, 0⟩

/-- A cell from JSON. A text that names a number that is not finite is that number. -/
def ofJson? : Json → Option Scalar
  | .float x => some (.number x)
  | .integer n => some (.number (ofInt n))
  | .text s => some (match NumberFormat.ofWord? s with
    | some x => .number x
    | none => .text s)
  | _ => none

end Scalar

end RecipeEngine
