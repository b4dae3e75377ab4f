import RecipeEngine.Proofs.Number.Spelling
import RecipeEngine.Proofs.Text.Trim
import RecipeEngine.Scalar

namespace RecipeEngine

namespace Text

def Blanks (cs : List Char) : Prop := ∀ c ∈ cs, isBlank c = true

theorem exists_blanks_trimChars (cs : List Char) :
    ∃ left right, Blanks left ∧ Blanks right ∧ cs = left ++ dropBlanks cs ∧
      dropBlanks cs = trimChars cs ++ right := by
  refine ⟨cs.takeWhile isBlank, ((dropBlanks cs).reverse.takeWhile isBlank).reverse,
    fun c member => List.mem_takeWhile_imp member,
    fun c member => List.mem_takeWhile_imp (List.mem_reverse.mp member),
    List.takeWhile_append_dropWhile.symm, ?_⟩
  rw [trimChars, dropEndBlanks, ← List.reverse_append, List.takeWhile_append_dropWhile,
    List.reverse_reverse]

theorem inRanges_eq_false {left right : List (Nat × Nat)} {n : Nat}
    (apart : ∀ first ∈ left, ∀ last ∈ right, first.2 < last.1 ∨ last.2 < first.1)
    (inside : inRanges left n = true) : inRanges right n = false := by
  rw [← Bool.not_eq_true]
  intro both
  obtain ⟨first, memberFirst, low, high⟩ := inRanges_iff.mp inside
  obtain ⟨last, memberLast, low', high'⟩ := inRanges_iff.mp both
  have := apart first memberFirst last memberLast
  omega

theorem inRanges_of_isDecimalDigit {c : Char} (isDigit : isDecimalDigit c = true) :
    inRanges ((48, 57) :: digitRanges) c.toNat = true := by
  unfold isDecimalDigit at isDigit
  rw [inRanges, List.any_cons, Bool.or_eq_true]
  split at isDigit
  · exact .inl (by simpa using toNat_of_isDigit isDigit)
  · exact .inr isDigit

theorem not_isDecimalDigit_of_isBlank {c : Char} (blank : isBlank c = true) :
    isDecimalDigit c = false := by
  rw [← Bool.not_eq_true]
  intro isDigit
  have apart : ∀ first ∈ blankRanges, ∀ last ∈ (48, 57) :: digitRanges,
      first.2 < last.1 ∨ last.2 < first.1 := by decide +kernel
  have none := inRanges_eq_false apart blank
  rw [inRanges_of_isDecimalDigit isDigit] at none
  cases none

theorem isDecimalDigit_of_isDigit {c : Char} (isDigit : c.isDigit = true) :
    isDecimalDigit c = true := by
  have := toNat_of_isDigit isDigit
  rw [isDecimalDigit, if_pos (by omega), isDigit]

end Text

namespace Numeral

open Text (Blanks isBlank trimChars)

theorem isDigitClass_isDecimalDigit : IsDigitClass Text.isDecimalDigit where
  ascii _ isDigit := Text.isDecimalDigit_of_isDigit isDigit
  mark := by
    rintro c (rfl | rfl | rfl | rfl | rfl) <;> decide

theorem not_mark_of_isBlank {c : Char} (blank : isBlank c = true) : ¬ IsMark c := by
  rintro (rfl | rfl | rfl | rfl | rfl) <;> exact absurd blank (by decide)

theorem ends_of_blanks {cs : List Char} (blanks : Blanks cs) : Ends Text.isDecimalDigit cs :=
  fun c head =>
    have blank := blanks c (List.mem_of_mem_head? head)
    ⟨Text.not_isDecimalDigit_of_isBlank blank, not_mark_of_isBlank blank⟩

theorem not_isBlank_of_begins {c : Char} (begins : c.isDigit = true ∨ c = '.') :
    ¬ isBlank c = true := by
  intro blank
  rcases begins with isDigit | rfl
  · have other := Text.not_isDecimalDigit_of_isBlank blank
    rw [Text.isDecimalDigit_of_isDigit isDigit] at other
    cases other
  · exact absurd blank (by decide)

inductive Writes : Bool → Numeral → List Char → Prop
  | parts {negative sign n body} : SpellsSign negative sign → Spells n body →
      Writes negative n (sign ++ body)

theorem Writes.visible {negative : Bool} {n : Numeral} {cs : List Char}
    (written : Writes negative n cs) : ∀ c ∈ cs, ¬ isBlank c = true := by
  obtain ⟨signed, spelled⟩ := written
  intro c here blank
  have noMark := not_mark_of_isBlank blank
  rcases List.mem_append.mp here with inSign | inBody
  · exact noMark (signed.mark c inSign)
  · rcases spelled.isDigit_or_mark c inBody with isDigit | mark
    · exact not_isBlank_of_begins (.inl isDigit) blank
    · exact noMark mark

theorem Spells.bare {n : Numeral} {body : List Char} (spelled : Spells n body) (rest : List Char) :
    ∀ c ∈ (body ++ rest).head?, c ≠ '+' ∧ c ≠ '-' := by
  intro c head
  obtain ⟨first, tail, rfl, begins⟩ := spelled.begins
  cases head
  rcases begins with isDigit | rfl
  · exact ⟨fun plus => absurd (plus ▸ isDigit) (by decide),
      fun minus => absurd (minus ▸ isDigit) (by decide)⟩
  · exact ⟨by decide, by decide⟩

/-- The strict reader takes exactly the signed numerals, as the doubles nearest to them. -/
theorem readAll?_eq_some_iff {cs : List Char} {x : Float} :
    readAll? cs = some x ↔ ∃ negative n, Writes negative n cs ∧ n.value.toFloat negative = x := by
  constructor
  · intro read
    obtain ⟨sign, whole, signed⟩ := spellsSign_splitSign cs
    unfold readAll? at read
    dsimp only at read
    split at read
    · rename_i n scanned
      obtain ⟨body, split, spelled⟩ := spells_of_scan scanned
      have written := Writes.parts signed spelled
      rw [← List.append_nil body, ← split, ← whole] at written
      rw [spelled.toFloat?] at read
      exact ⟨_, n, written, Option.some.inj read⟩
    · cases read
  · rintro ⟨negative, n, ⟨signed, spelled⟩, rfl⟩
    rename_i sign body
    have scanned := spelled.scan isDigitClass_isDigit ends_nil
    have bare := spelled.bare []
    rw [List.append_nil] at scanned bare
    rw [readAll?, signed.splitSign bare]
    dsimp only
    rw [scanned]
    exact spelled.toFloat? negative

theorem readNumber?_eq_some_iff {s : String} {x : Float} :
    readNumber? s = some x ↔ readAll? (trimChars s.toList) = some x ∧ x.isFinite = true := by
  rw [readNumber?, Option.filter_eq_some_iff]

/-- A numeral is read at the head of a text as it is read alone. -/
theorem readPrefix?_of_writes {s : String} {negative : Bool} {n : Numeral}
    (written : Writes negative n (trimChars s.toList)) :
    readPrefix? s = some (n.value.toFloat negative) := by
  obtain ⟨left, right, -, blanks, -, dropped⟩ := Text.exists_blanks_trimChars s.toList
  generalize trimChars s.toList = cs at written dropped
  cases written with
  | @parts _ sign body signed spelled =>
    have word : infinityWord.isPrefixOf (body ++ right) = false := by
      obtain ⟨c, tail, rfl, begins⟩ := spelled.begins
      rcases begins with isDigit | rfl
      · have other : ('I' == c) = false := by
          rw [beq_eq_false_iff_ne]
          rintro rfl
          exact absurd isDigit (by decide)
        exact (congrArg (· && _) other).trans (Bool.false_and _)
      · rfl
    rw [readPrefix?, dropped, List.append_assoc, signed.splitSign (spelled.bare right)]
    dsimp only
    rw [word, if_neg Bool.false_ne_true,
      spelled.scan isDigitClass_isDecimalDigit (ends_of_blanks blanks)]
    exact spelled.toFloat? negative

end Numeral

namespace Scalar

open Numeral Text

theorem ofInput_of_readNumber? {s : String} {x : Float} (read : readNumber? s = some x) :
    ofInput s = .number x := by
  rw [ofInput, read]

/-- A field is a number exactly if it is a numeral without a plus sign. -/
theorem ofField_eq_number_iff {s : String} {x : Float} :
    ofField s = .number x ↔
      (trimChars s.toList).head? ≠ some '+' ∧ readAll? (trimChars s.toList) = some x := by
  unfold ofField
  dsimp only
  split
  · rename_i plus
    exact iff_of_false nofun fun both => both.1 plus
  · rename_i plus
    cases read : readAll? (trimChars s.toList) with
    | none => exact iff_of_false nofun fun both => nomatch both.2
    | some y =>
      constructor
      · intro same
        cases same
        exact ⟨plus, rfl⟩
      · rintro ⟨-, same⟩
        cases same
        rfl

end Scalar

end RecipeEngine
