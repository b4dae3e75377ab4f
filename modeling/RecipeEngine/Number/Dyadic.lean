import RecipeEngine.Number.Power

namespace RecipeEngine

structure Dyadic where
  mantissa : Nat
  exponent : Int
deriving DecidableEq, Repr

namespace Dyadic

def infinityBits : Nat := 2047 * twoTo 52

def isNegative (x : Float) : Bool :=
  twoTo 63 ≤ x.toBits.toNat

/-- The bits of a double below its sign. Their order as natural numbers is the order of the numbers
they stand for. -/
def magnitudeBits (x : Float) : Nat :=
  x.toBits.toNat % twoTo 63

def withSign (negative : Bool) (bits : Nat) : Float :=
  Float.ofBits (UInt64.ofNat (if negative then bits + twoTo 63 else bits))

def ofBits (bits : Nat) : Dyadic :=
  if bits < twoTo 52 then ⟨bits, -1074⟩ else ⟨bits % twoTo 52 + twoTo 52, (bits / twoTo 52 : Nat) - 1075⟩

/-- The magnitude that stands for `mantissa * 2 ^ exponent`; exact where the mantissa has 53 bits,
or fewer and the exponent is -1074. A mantissa of `2 ^ 53` carries into the exponent. -/
def toBits (d : Dyadic) : Nat :=
  (d.exponent + 1074).toNat * twoTo 52 + d.mantissa

theorem toBits_ofBits (bits : Nat) : (ofBits bits).toBits = bits := by
  have h : twoTo 52 = 4503599627370496 := rfl
  unfold ofBits toBits
  rw [h]
  split
  · simp
  · have := Nat.div_add_mod bits 4503599627370496
    simp only
    omega

end Dyadic

end RecipeEngine
