namespace RecipeEngine

structure IdSeed where
  head : Nat
  middle : Nat
  tail : Nat

namespace IdSeed

def valueCount (digits : Nat) : Nat := Nat.pow 16 digits

def digits (count n : Nat) : String :=
  let shown := Nat.toDigits 16 (n % valueCount count)
  String.ofList (List.replicate (count - shown.length) '0' ++ shown)

/-- The id for a position. The heads count up from a random one, so that all ids of a seed differ in
their first eight digits, which is where generated output names come from. -/
def id (seed : IdSeed) (position : Nat) : String :=
  digits 8 (seed.head + position) ++ "-" ++ digits 4 seed.middle ++ "-4" ++
    digits 3 (seed.middle / valueCount 4) ++ "-a" ++ digits 3 seed.tail ++ "-" ++
    digits 12 (seed.tail / valueCount 3)

end IdSeed

end RecipeEngine
