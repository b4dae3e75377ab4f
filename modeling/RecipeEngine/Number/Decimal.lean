namespace RecipeEngine

structure Decimal where
  digits : Nat
  exponent : Int
deriving DecidableEq, Repr

namespace Decimal

def digitChars (n : Nat) : List Char :=
  Nat.toDigits 10 n

def zeros (count : Nat) : List Char :=
  List.replicate count '0'

/-- Positional notation without an exponent: zeros are filled in up to the point, and a number
below one has a single zero before the point. -/
def positional (d : Decimal) : List Char :=
  let digits := digitChars d.digits
  if 0 ≤ d.exponent then digits ++ zeros d.exponent.toNat
  else
    let places := (-d.exponent).toNat
    if places < digits.length then
      digits.take (digits.length - places) ++ '.' :: digits.drop (digits.length - places)
    else '0' :: '.' :: zeros (places - digits.length) ++ digits

def leadingPower (d : Decimal) : Int :=
  d.exponent + (digitChars d.digits).length - 1

/-- Scientific notation: one digit before the point, and a sign on every exponent. -/
def scientific (d : Decimal) : List Char :=
  let mantissa := match digitChars d.digits with
    | [] => []
    | first :: rest => if rest.isEmpty then [first] else first :: '.' :: rest
  let power := d.leadingPower
  mantissa ++ 'e' :: (if power < 0 then '-' else '+') :: digitChars power.natAbs

end Decimal

end RecipeEngine
