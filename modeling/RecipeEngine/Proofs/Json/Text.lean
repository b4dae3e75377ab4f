import RecipeEngine.Json.Reader
import RecipeEngine.Json.Writer

namespace RecipeEngine.Json

theorem readFourHex_append {cs : List Char} {n : Nat} (read : readFourHex cs = some (n, []))
    (rest : List Char) : readFourHex (cs ++ rest) = some (n, rest) := by
  unfold readFourHex at read
  split at read
  · rename_i a b c d after
    simp only [Option.bind_eq_bind, Option.bind_eq_some_iff, Option.some.injEq,
      Prod.mk.injEq] at read
    obtain ⟨p, readA, q, readB, r, readC, s, readD, rfl, rfl⟩ := read
    simp [readFourHex, readA, readB, readC, readD]
  · cases read

theorem readFourHex_fourHex {n : Nat} (low : n < 32) (rest : List Char) :
    readFourHex (fourHex n ++ rest) = some (n, rest) := by
  have all : ∀ n < 32, readFourHex (fourHex n) = some (n, []) := by decide
  exact readFourHex_append (all n low) rest

theorem readUnits_fourHex {c : Char} (low : c.toNat < 32) (rest : List Char) :
    readUnits (fourHex c.toNat ++ rest) = some (c, rest) := by
  have noLow : ¬ (0xdc00 ≤ c.toNat ∧ c.toNat ≤ 0xdfff) := by omega
  have noHigh : ¬ (0xd800 ≤ c.toNat ∧ c.toNat ≤ 0xdbff) := by omega
  simp [readUnits, readFourHex_fourHex low, noLow, noHigh, Char.ofNat_toNat]

theorem readChars_letter (letter : Char) {c : Char} (known : unescape? letter = some c)
    (fuel : Nat) (rest : List Char) :
    readChars (fuel + 1) ('\\' :: letter :: rest) =
      (readChars fuel rest).map fun (chars, after) => (c :: chars, after) := by
  -- Another equation of the reader holds for code units.
  have simple : letter ≠ 'u' := by
    rintro rfl
    cases known
  cases read : readChars fuel rest <;> simp [readChars, known, read]

theorem readChars_escaped (c : Char) (fuel : Nat) (rest : List Char) :
    readChars (fuel + 1) (escaped c ++ rest) =
      (readChars fuel rest).map fun (chars, after) => (c :: chars, after) := by
  unfold escaped
  split
  · rename_i quote
    exact readChars_letter '"' (by rw [quote]; rfl) fuel rest
  split
  · rename_i backslash
    exact readChars_letter '\\' (by rw [backslash]; rfl) fuel rest
  split
  · rename_i feed
    exact readChars_letter 'n' (by rw [feed]; rfl) fuel rest
  split
  · rename_i carriage
    exact readChars_letter 'r' (by rw [carriage]; rfl) fuel rest
  split
  · rename_i tab
    exact readChars_letter 't' (by rw [tab]; rfl) fuel rest
  split
  · rename_i backspace
    have known : Char.ofNat 0x8 = c := backspace ▸ Char.ofNat_toNat c
    exact readChars_letter 'b' (congrArg some known) fuel rest
  split
  · rename_i formFeed
    have known : Char.ofNat 0xc = c := formFeed ▸ Char.ofNat_toNat c
    exact readChars_letter 'f' (congrArg some known) fuel rest
  split
  · rename_i control
    cases read : readChars fuel rest <;>
      simp [readChars, readUnits_fourHex control, read]
  · rename_i backslash _ _ _ _ _ control
    cases read : readChars fuel rest <;>
      simp [readChars, backslash, control, read]

theorem readChars_flatMap {cs rest : List Char} {fuel : Nat} (enough : cs.length < fuel) :
    readChars fuel (cs.flatMap escaped ++ '"' :: rest) = some (cs, rest) := by
  induction cs generalizing fuel with
  | nil =>
    obtain ⟨fuel, rfl⟩ := Nat.exists_eq_add_of_lt enough
    rfl
  | cons c cs ih =>
    obtain ⟨fuel, rfl⟩ := Nat.exists_eq_add_of_lt enough
    rw [List.flatMap_cons, List.append_assoc, readChars_escaped, ih (by simp; omega)]
    rfl

theorem length_le_flatMap_escaped (cs : List Char) :
    cs.length ≤ (cs.flatMap escaped).length := by
  induction cs with
  | nil => exact Nat.le_refl 0
  | cons c cs ih =>
    have some : 0 < (escaped c).length := by
      unfold escaped
      repeat' split
      all_goals simp
    rw [List.flatMap_cons, List.length_append, List.length_cons]
    omega

theorem readText_escaped (s : String) (rest : List Char) :
    readText (s.toList.flatMap escaped ++ '"' :: rest) = some (s, rest) := by
  have enough : s.toList.length < (s.toList.flatMap escaped ++ '"' :: rest).length := by
    have bound := length_le_flatMap_escaped s.toList
    simp only [List.length_append, List.length_cons]
    omega
  rw [readText, readChars_flatMap enough]
  exact congrArg (fun text => some (text, rest)) String.ofList_toList

theorem quote_append (s : String) (rest : List Char) :
    quote s ++ rest = '"' :: (s.toList.flatMap escaped ++ '"' :: rest) := by
  simp [quote]

theorem readLeaf_quote (scale : Scaling) (s : String) (rest : List Char) :
    readLeaf scale (quote s ++ rest) = some (.text s, rest) := by
  rw [quote_append, readLeaf, readText_escaped]
  rfl

end RecipeEngine.Json
