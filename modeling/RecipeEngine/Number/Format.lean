import RecipeEngine.Number.Nearest
import RecipeEngine.Number.Shortest

namespace RecipeEngine.NumberFormat

def shortest (tie : Tie) (x : Float) : Decimal :=
  let bits := Dyadic.magnitudeBits x
  if bits = 0 then ⟨0, 0⟩ else (Dyadic.ofBits bits).shortest tie

def signed (x : Float) (magnitude : List Char) : String :=
  String.ofList (if Dyadic.isNegative x then '-' :: magnitude else magnitude)

/-- A number that is not finite, with `infinity` for the word after the sign. -/
def nonFinite (infinity : String) (x : Float) : String :=
  if x.isNaN then "NaN" else signed x infinity.toList

/-- The text of a number: no exponent, no fraction for integers, and a word for the others. Of two
equally near shortest decimals it shows the upper one. -/
def plain (x : Float) : String :=
  if x.isFinite then signed x (shortest .up x).positional else nonFinite "Infinity" x

def brief (x : Float) : String :=
  if x.isFinite then signed x (shortest .up x).positional else nonFinite "inf" x

/-- The JSON text of a finite number: positional from `1e-5` up to below `1e16`, scientific
elsewhere, and never without a point or an exponent. Of two equally near shortest decimals it shows
the one that ends in an even digit. -/
def json (x : Float) : String :=
  let d := shortest .even x
  if d.digits = 0 then signed x "0.0".toList
  else if -5 ≤ d.leadingPower ∧ d.leadingPower < 16 then
    signed x (d.positional ++ if 0 ≤ d.exponent then ".0".toList else [])
  else signed x d.scientific

/-- The digits of `num / den` with exactly four places, a half going to the even neighbour. -/
def fourPlaces (num den : Nat) : List Char :=
  let units := roundHalfEven (num * 10000) den
  let padded := (Decimal.digitChars (units % 10000))
  Decimal.digitChars (units / 10000) ++ '.' :: Decimal.zeros (4 - padded.length) ++ padded

def fixed (x : Float) : String :=
  if x.isNaN then "NaN"
  else if x.isFinite then
    let d := Dyadic.ofBits (Dyadic.magnitudeBits x)
    signed x (fourPlaces (d.mantissa * twoTo d.exponent.toNat) (twoTo (-d.exponent).toNat))
  else nonFinite "inf" x

def ofWord? : String → Option Float
  | "NaN" => some (0.0 / 0.0)
  | "Infinity" => some (Dyadic.withSign false Dyadic.infinityBits)
  | "-Infinity" => some (Dyadic.withSign true Dyadic.infinityBits)
  | _ => none

end RecipeEngine.NumberFormat
