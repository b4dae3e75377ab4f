import RecipeEngine.Json.Reader
import RecipeEngine.Json.Writer
import RecipeEngine.Proofs.Number.Spelling

namespace RecipeEngine.Json

open Numeral (takeWhile_append dropWhile_append)

/-- What may follow a value: nothing, or a separator. -/
def Ends (rest : List Char) : Prop := ∀ c ∈ rest.head?, c = ',' ∨ c = ']' ∨ c = '\x7d'

theorem ends_nil : Ends [] := by
  intro c member
  cases member

theorem ends_cons {c : Char} {tail : List Char} (separates : c = ',' ∨ c = ']' ∨ c = '\x7d') :
    Ends (c :: tail) := by
  intro other member
  obtain rfl : c = other := by simpa using member
  exact separates

section Append

variable {rest : List Char}

theorem Ends.isDigit_eq_false (ends : Ends rest) : ∀ c ∈ rest.head?, c.isDigit = false := by
  intro c member
  rcases ends c member with rfl | rfl | rfl <;> decide

theorem splitSign_append {cs : List Char} (some : cs ≠ []) (rest : List Char) :
    Numeral.splitSign (cs ++ rest) =
      ((Numeral.splitSign cs).1, (Numeral.splitSign cs).2 ++ rest) := by
  obtain ⟨c, tail, rfl⟩ := List.exists_cons_of_ne_nil some
  by_cases minus : c = '-'
  · subst minus
    rfl
  · by_cases plus : c = '+'
    · subst plus
      rfl
    · simp [Numeral.splitSign, minus, plus]

theorem readExponent_append (ends : Ends rest) {cs tail : List Char} {power : Int}
    (read : readExponent cs = some (power, tail)) :
    readExponent (cs ++ rest) = some (power, tail ++ rest) := by
  cases cs with
  | nil =>
    cases read
    cases rest with
    | nil => rfl
    | cons c after => rcases ends c rfl with rfl | rfl | rfl <;> rfl
  | cons c cs =>
    simp only [List.cons_append, readExponent] at read ⊢
    by_cases letter : c = 'e' ∨ c = 'E'
    · rw [if_pos letter] at read ⊢
      have some : cs ≠ [] := by
        rintro rfl
        simp [Numeral.splitSign] at read
      rw [splitSign_append some, takeWhile_append ends.isDigit_eq_false,
        dropWhile_append ends.isDigit_eq_false]
      split at read
      · cases read
      · rename_i digits
        rw [if_neg digits]
        cases read
        rfl
    · rw [if_neg letter] at read ⊢
      cases read
      rfl

theorem scaledBy_readExponent_append (ends : Ends rest) {form : Int → Option Json}
    {cs : List Char} {j : Json}
    (read : (match readExponent cs with
      | none => none
      | some (power, after) => (form power).map (·, after)) = some (j, [])) :
    (match readExponent (cs ++ rest) with
      | none => none
      | some (power, after) => (form power).map (·, after)) = some (j, rest) := by
  cases exponent : readExponent cs with
  | none =>
    rw [exponent] at read
    cases read
  | some result =>
    obtain ⟨power, after⟩ := result
    rw [exponent] at read
    obtain ⟨value, formed, pair⟩ := Option.map_eq_some_iff.mp read
    cases pair
    rw [readExponent_append ends exponent]
    exact Option.map_eq_some_iff.mpr ⟨j, formed, rfl⟩

theorem readNumber_append (ends : Ends rest) {scale : Scaling} {negative : Bool} {cs : List Char}
    {j : Json} (read : readNumber scale negative cs = some (j, [])) :
    readNumber scale negative (cs ++ rest) = some (j, rest) := by
  unfold readNumber at read ⊢
  rw [takeWhile_append ends.isDigit_eq_false, dropWhile_append ends.isDigit_eq_false]
  dsimp only at read ⊢
  split at read
  · cases read
  · rename_i digits
    rw [if_neg digits]
    cases after : cs.dropWhile Char.isDigit with
    | nil =>
      rw [after] at read
      cases rest with
      | nil => exact read
      | cons c tail =>
        obtain ⟨value, formed, pair⟩ := Option.map_eq_some_iff.mp read
        cases pair
        rcases ends c rfl with rfl | rfl | rfl <;> exact Option.map_eq_some_iff.mpr ⟨j, formed, rfl⟩
    | cons c tail =>
      rw [after] at read
      rw [List.cons_append]
      split at read
      · rename_i fraction point
        cases point
        change (if ((tail ++ rest).takeWhile Char.isDigit).isEmpty = true then none else _) = _
        rw [takeWhile_append ends.isDigit_eq_false, dropWhile_append ends.isDigit_eq_false]
        split at read
        · cases read
        · rename_i places
          rw [if_neg places]
          exact scaledBy_readExponent_append ends read
      · rename_i letter
        cases letter
        exact scaledBy_readExponent_append ends read
      · rename_i letter
        cases letter
        exact scaledBy_readExponent_append ends read
      · obtain ⟨value, formed, pair⟩ := Option.map_eq_some_iff.mp read
        cases pair

end Append

theorem le_ofDigitChars (n : Nat) (cs : List Char) : n ≤ Nat.ofDigitChars 10 cs n := by
  induction cs generalizing n with
  | nil => exact Nat.le_refl n
  | cons c cs ih =>
    rw [Nat.ofDigitChars_cons]
    have step := ih (10 * n + (c.toNat - '0'.toNat))
    omega

/-- Digits whose number is within the limit all go into the significand. -/
theorem gather_eq {n : Nat} {cs : List Char}
    (bound : Nat.ofDigitChars 10 cs n ≤ significandLimit) :
    gather n cs = (Nat.ofDigitChars 10 cs n, []) := by
  induction cs generalizing n with
  | nil => rfl
  | cons c cs ih =>
    rw [Nat.ofDigitChars_cons] at bound ⊢
    have next := Nat.le_trans (le_ofDigitChars _ cs) bound
    rw [gather, if_neg (Nat.not_lt.mpr next)]
    exact ih bound

theorem head?_toDigits_ne {n : Nat} (positive : 0 < n) :
    (Nat.toDigits 10 n).head? ≠ some '0' := by
  induction n using Nat.strongRecOn with
  | ind n ih =>
    by_cases single : n < 10
    · rw [Nat.toDigits_of_lt_base single]
      intro zero
      exact Nat.pos_iff_ne_zero.mp positive (Nat.digitChar_eq_zero.mp (Option.some.inj zero))
    · have ten := Nat.not_lt.mp single
      have below := ih (n / 10) (by omega) (by omega)
      rw [Nat.toDigits_of_base_le (by decide) ten, List.head?_append]
      cases first : (Nat.toDigits 10 (n / 10)).head? with
      | none => exact absurd (List.head?_eq_none_iff.mp first) Nat.toDigits_ne_nil
      | some c =>
        rw [first] at below
        exact below

theorem readNumber_toDigits {n : Nat} (bound : n ≤ significandLimit) (scale : Scaling)
    (negative : Bool) :
    readNumber scale negative (Nat.toDigits 10 n) =
      (ofDigits scale negative n 0).map (·, []) := by
  have digits : ∀ c ∈ Nat.toDigits 10 n, c.isDigit = true := fun c member =>
    Nat.isDigit_of_mem_toDigits (by decide) (by decide) member
  have plain : (Nat.toDigits 10 n).isEmpty = false :=
    List.isEmpty_eq_false_iff.mpr Nat.toDigits_ne_nil
  have leading : ¬ (1 < (Nat.toDigits 10 n).length ∧ (Nat.toDigits 10 n).head? = some '0') := by
    rintro ⟨long, zero⟩
    rcases Nat.eq_zero_or_pos n with rfl | positive
    · exact absurd long (by decide)
    · exact head?_toDigits_ne positive zero
  rw [readNumber, List.takeWhile_eq_self_iff.mpr digits, List.dropWhile_eq_nil_iff.mpr digits,
    gather_eq (Nat.ofDigitChars_ten_toDigits.trans_le bound)]
  simp [plain, leading, Nat.ofDigitChars_ten_toDigits]

def startsNumber (c : Char) : Bool := c = '-' || c.isDigit

theorem readLeaf_of_isDigit (scale : Scaling) {c : Char} (digit : c.isDigit = true)
    (tail : List Char) : readLeaf scale (c :: tail) = readNumber scale false (c :: tail) := by
  unfold readLeaf
  split
  case h_6 => rfl
  all_goals
    rename_i first
    cases first
    exact absurd digit (by decide)

theorem isDigit_of_readNumber {scale : Scaling} {negative : Bool} {cs : List Char}
    {result : Json × List Char} (read : readNumber scale negative cs = some result) :
    ∃ c ∈ cs.head?, c.isDigit = true := by
  cases cs with
  | nil => cases read
  | cons c tail =>
    refine ⟨c, rfl, Classical.byContradiction fun other => ?_⟩
    simp [readNumber, other] at read

theorem readLeaf_number_append {scale : Scaling} {cs rest : List Char} {j : Json}
    (starts : ∃ c ∈ cs.head?, startsNumber c = true) (read : readLeaf scale cs = some (j, []))
    (ends : Ends rest) : readLeaf scale (cs ++ rest) = some (j, rest) := by
  obtain ⟨c, head, number⟩ := starts
  obtain ⟨tail, rfl⟩ := List.head?_eq_some_iff.mp head
  rcases Bool.or_eq_true_iff.mp number with minus | digit
  · obtain rfl := of_decide_eq_true minus
    exact readNumber_append ends read
  · rw [readLeaf_of_isDigit scale digit] at read
    rw [List.cons_append, readLeaf_of_isDigit scale digit]
    exact readNumber_append ends read

/-- The number reader gives back a double from the text that it is written as. -/
def Scaling.Inverts (scale : Scaling) (x : Float) : Prop :=
  readLeaf scale (NumberFormat.json x).toList = some (.float x, [])

theorem Scaling.Inverts.starts {scale : Scaling} {x : Float} (inverts : scale.Inverts x) :
    ∃ c ∈ (NumberFormat.json x).toList.head?, startsNumber c = true := by
  unfold Inverts at inverts
  generalize (NumberFormat.json x).toList = cs at inverts
  unfold readLeaf at inverts
  split at inverts
  case h_1 =>
    obtain ⟨_, _, text⟩ := Option.map_eq_some_iff.mp inverts
    cases text
  case h_5 => exact ⟨'-', rfl, rfl⟩
  case h_6 =>
    obtain ⟨c, head, digit⟩ := isDigit_of_readNumber inverts
    exact ⟨c, head, Bool.or_eq_true_iff.mpr (Or.inr digit)⟩
  all_goals cases inverts

/-- The integers that fit into 64 bits, with a sign or without. -/
def Fits (n : Int) : Prop := -(twoTo 63 : Int) ≤ n ∧ n < twoTo 64

theorem starts_toDigits (n : Nat) : ∃ c ∈ (Nat.toDigits 10 n).head?, c.isDigit = true := by
  obtain ⟨c, tail, digits⟩ := List.exists_cons_of_ne_nil (Nat.toDigits_ne_nil (n := n) (b := 10))
  have member : c ∈ Nat.toDigits 10 n := digits ▸ List.mem_cons_self
  exact ⟨c, by rw [digits]; rfl, Nat.isDigit_of_mem_toDigits (by decide) (by decide) member⟩

theorem toList_toString_ofNat (m : Nat) : (toString (Int.ofNat m)).toList = Nat.toDigits 10 m :=
  String.toList_ofList

theorem toList_toString_negSucc (m : Nat) :
    (toString (Int.negSucc m)).toList = '-' :: Nat.toDigits 10 (m + 1) := by
  change ("-" ++ (m + 1).repr).toList = _
  rw [String.toList_append]
  exact congrArg ('-' :: ·) String.toList_ofList

theorem readLeaf_integer {n : Int} (fits : Fits n) (scale : Scaling) :
    (∃ c ∈ (toString n).toList.head?, startsNumber c = true) ∧
      readLeaf scale (toString n).toList = some (.integer n, []) := by
  have limit : significandLimit = twoTo 64 - 1 := rfl
  have less : twoTo 63 < twoTo 64 := by decide
  obtain ⟨low, high⟩ := fits
  cases n with
  | ofNat m =>
    have bound : m ≤ significandLimit := by
      rw [Int.ofNat_eq_natCast] at high
      omega
    have text := toList_toString_ofNat m
    obtain ⟨c, head, digit⟩ := starts_toDigits m
    obtain ⟨tail, digits⟩ := List.head?_eq_some_iff.mp head
    refine ⟨⟨c, text ▸ head, Bool.or_eq_true_iff.mpr (Or.inr digit)⟩, ?_⟩
    rw [text, digits, readLeaf_of_isDigit scale digit, ← digits, readNumber_toDigits bound]
    rfl
  | negSucc m =>
    have bound : m + 1 ≤ significandLimit := by omega
    have within : ¬ (m + 1 = 0 ∨ twoTo 63 < m + 1) := by omega
    have text := toList_toString_negSucc m
    refine ⟨⟨'-', by rw [text]; rfl, rfl⟩, ?_⟩
    rw [text]
    change readNumber scale true (Nat.toDigits 10 (m + 1)) = _
    rw [readNumber_toDigits bound, ofDigits, if_neg (by simp), if_neg (by simp), if_neg within]
    rfl

end RecipeEngine.Json
