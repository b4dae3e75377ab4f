import RecipeEngine.Number.Decimal
import RecipeEngine.Number.Dyadic

namespace RecipeEngine

/-- Which of two equally near neighbours is taken. -/
inductive Tie where
  | up
  | even
deriving DecidableEq, Repr

def Tie.takesBelow (tie : Tie) (below : Nat) : Bool :=
  match tie with
  | .up => false
  | .even => below % 2 = 0

namespace Dyadic

/-- The reals that round to a number, in quarters of its last unit: from `low` to `high` times
`2 ^ exponent`, around `centre`. -/
structure Interval where
  low : Nat
  centre : Nat
  high : Nat
  exponent : Int
  closed : Bool

/-- The interval of a number, whose ends belong to it when the mantissa is even. Below a power of
two the spacing halves. -/
def interval (d : Dyadic) : Interval where
  low := if d.mantissa = twoTo 52 ∧ -1074 < d.exponent then 4 * d.mantissa - 1 else 4 * d.mantissa - 2
  centre := 4 * d.mantissa
  high := 4 * d.mantissa + 2
  exponent := d.exponent - 2
  closed := d.mantissa % 2 = 0

namespace Interval

/-- `num / den` lies in the interval. -/
def holds (i : Interval) (num den : Nat) : Bool :=
  let low := i.low * twoTo i.exponent.toNat * den
  let high := i.high * twoTo i.exponent.toNat * den
  let point := num * twoTo (-i.exponent).toNat
  if i.closed then low ≤ point && point ≤ high else low < point && point < high

/-- The point of the grid of multiples of `10 ^ power` that stands for the interval: a neighbour
of the centre inside the interval, the nearer one if both are. -/
def gridPoint? (i : Interval) (tie : Tie) (power : Int) : Option Nat :=
  let unit := tenTo power.toNat
  let parts := tenTo (-power).toNat
  let num := i.centre * twoTo i.exponent.toNat * parts
  let den := twoTo (-i.exponent).toNat * unit
  let below := num / den
  let above := below + 1
  match i.holds (below * unit) parts, i.holds (above * unit) parts with
  | true, true =>
    let twice := 2 * (num % den)
    some (if twice < den || (twice = den && tie.takesBelow below) then below else above)
  | true, false => some below
  | false, true => some above
  | false, false => none

/-- The point of the coarsest grid that has one, from `10 ^ power` down over `steps` grids. The
coarsest grid gives the fewest digits. -/
def coarsest (i : Interval) (tie : Tie) : Int → Nat → Decimal
  | power, 0 => ⟨(i.gridPoint? tie power).getD 0, power⟩
  | power, steps + 1 =>
    match i.gridPoint? tie power with
    | some digits => ⟨digits, power⟩
    | none => i.coarsest tie (power - 1) steps

end Interval

def decimalBound (d : Dyadic) : Int :=
  (Nat.log2 d.mantissa + 1 + d.exponent) * 30103 / 100000 + 1

/-- The shortest decimal that rounds to the number, which is not zero. Every dyadic number is a
multiple of `10 ^ exponent` or of one, so the search ends there at the latest. -/
def shortest (d : Dyadic) (tie : Tie) : Decimal :=
  let start := d.decimalBound
  d.interval.coarsest tie start (start - min d.exponent 0).toNat

end Dyadic

end RecipeEngine
