import RecipeEngine.Number.Decimal
import RecipeEngine.Number.Dyadic

namespace RecipeEngine

/-- The natural number nearest to `num / den`; of two equally near ones the even one. -/
def roundHalfEven (num den : Nat) : Nat :=
  let quotient := num / den
  let twice := 2 * (num % den)
  if twice < den then quotient
  else if twice = den then quotient + quotient % 2
  else quotient + 1

namespace Dyadic

def floorLog2 (num den : Nat) : Int :=
  let estimate : Int := (Nat.log2 num : Int) - Nat.log2 den
  if num * twoTo (-estimate).toNat < den * twoTo estimate.toNat then estimate - 1 else estimate

/-- The magnitude nearest to `num / den`: 53 bits of it are kept, fewer where the last would fall
below `2 ^ -1074`. -/
def nearestBits (num den : Nat) : Nat :=
  let exponent := max (floorLog2 num den - 52) (-1074)
  let mantissa := roundHalfEven (num * twoTo (-exponent).toNat) (den * twoTo exponent.toNat)
  min (toBits ⟨mantissa, exponent⟩) infinityBits

end Dyadic

namespace Decimal

/-- The magnitude nearest to the number. Exponents far outside the range of doubles are decided by
their size alone. -/
def magnitude (d : Decimal) : Nat :=
  if d.digits = 0 then 0
  else if 310 < d.exponent then Dyadic.infinityBits
  else if d.exponent + Nat.log2 d.digits + 1 < -330 then 0
  else Dyadic.nearestBits (d.digits * tenTo d.exponent.toNat) (tenTo (-d.exponent).toNat)

/-- The double nearest to the number, or to its negative. A tie goes to the even mantissa, and what
lies beyond the largest finite double by half a unit or more is infinite. -/
def toFloat (negative : Bool) (d : Decimal) : Float :=
  Dyadic.withSign negative d.magnitude

end Decimal

end RecipeEngine
