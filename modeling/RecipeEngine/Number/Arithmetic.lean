import RecipeEngine.Number.Nearest

namespace RecipeEngine.Arithmetic

def nan : Float := 0.0 / 0.0

/-- The remainder of two dyadic magnitudes: both are multiples of the smaller power of two. -/
def dyadicRemainder (a b : Dyadic) : Dyadic :=
  let exponent := min a.exponent b.exponent
  let left := a.mantissa * twoTo (a.exponent - exponent).toNat
  let right := b.mantissa * twoTo (b.exponent - exponent).toNat
  ⟨left % right, exponent⟩

def dyadicBits (d : Dyadic) : Nat :=
  if d.mantissa = 0 then 0
  else Dyadic.nearestBits (d.mantissa * twoTo d.exponent.toNat) (twoTo (-d.exponent).toNat)

/-- What is left of `x` after taking away `y` a whole number of times, with the sign of `x`. -/
def remainder (x y : Float) : Float :=
  if x.isNaN || y.isNaN || !x.isFinite || y == 0 then nan
  else if !y.isFinite then x
  else
    let left := Dyadic.ofBits (Dyadic.magnitudeBits x)
    let right := Dyadic.ofBits (Dyadic.magnitudeBits y)
    Dyadic.withSign (Dyadic.isNegative x) (dyadicBits (dyadicRemainder left right))

/-- The greatest number that agrees with `root` above its low `places` bits and whose cube is at most
`n`, if the cube of `root` is. -/
def refineCubeRoot (n : Nat) : Nat → Nat → Nat
  | 0, root => root
  | places + 1, root =>
    let next := root + twoTo places
    refineCubeRoot n places (if next * next * next ≤ n then next else root)

/-- The bits below the point to which the cube root of a mantissa is taken: enough that a root which
is not exact is not half way between two doubles. -/
def cubeRootPlaces : Nat := 56

/-- The magnitude nearest to the cube root of a dyadic number. The root of the scaled mantissa is
cut to an integer; one more bit tells whether that was exact. -/
def cubeRootBits (d : Dyadic) : Nat :=
  let shift := 3 * cubeRootPlaces + (d.exponent % 3).toNat
  let scaled := d.mantissa * twoTo shift
  let root := refineCubeRoot scaled (Nat.log2 scaled / 3 + 1) 0
  let marked := 2 * root + if root * root * root = scaled then 0 else 1
  let exponent := (d.exponent - shift) / 3 - 1
  Dyadic.nearestBits (marked * twoTo exponent.toNat) (twoTo (-exponent).toNat)

/-- The double nearest to the cube root, with the sign of the number. -/
def cubeRoot (x : Float) : Float :=
  if x.isFinite && x != 0 then
    Dyadic.withSign (Dyadic.isNegative x) (cubeRootBits (Dyadic.ofBits (Dyadic.magnitudeBits x)))
  else x

/-- The lesser number; a NaN yields to the other one, and of two equal ones the first is taken. -/
def lesser (x y : Float) : Float :=
  if x.isNaN then y else if y < x then y else x

def greater (x y : Float) : Float :=
  if x.isNaN then y else if x < y then y else x

/-- `result * base ^ power` by squaring, one binary digit of the power a step. -/
def powerSteps : Nat → Float → Float → Nat → Float
  | 0, result, _, _ => result
  | steps + 1, result, base, power =>
    let result := if power % 2 = 1 then result * base else result
    if power / 2 = 0 then result else powerSteps steps result (base * base) (power / 2)

def integerPower (base : Float) (power : Int) : Float :=
  let result := powerSteps 33 1 base power.natAbs
  if power < 0 then 1 / result else result

/-- A number rounded to `places` decimal places, halves away from zero. The number of places is
cut to an integer. -/
def roundTo (x places : Float) : Float :=
  let factor := integerPower 10 places.toInt32.toInt
  (x * factor).round / factor

/-- One with the sign of a number; zeros and NaN stay. -/
def sign (x : Float) : Float :=
  if x == 0 || x.isNaN then x else if Dyadic.isNegative x then -1 else 1

end RecipeEngine.Arithmetic
