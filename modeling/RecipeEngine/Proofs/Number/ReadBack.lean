import RecipeEngine.Environment
import RecipeEngine.Proofs.Number.Head
import RecipeEngine.Proofs.Number.Shortest

namespace RecipeEngine

open Numeral
open RecipeEngine.Dyadic (isNegative)
open Text (isDecimalDigit dropBlanks trimChars dropBlanks_of_head trimChars_of_ends)

namespace Environment

variable {env : Environment} {name : String} {cell : Scalar}

theorem updateScalar_of_string {held : String} (stored : env.get? name = some (.string held)) :
    env.updateScalar name cell = .ok (env.insert name (.string cell.display)) := by
  rw [updateScalar, stored]

theorem updateScalar_of_number {held x : Float} (stored : env.get? name = some (.number held))
    (number : cell.asNumber? = some x) :
    env.updateScalar name cell = .ok (env.insert name (.number x)) := by
  rw [updateScalar, stored]
  dsimp only
  rw [number]

end Environment

namespace NumberFormat

variable {x : Float}

/-- The text of a finite number is a signed numeral without a plus sign. -/
theorem plain_writes (finite : x.isFinite = true) :
    ∃ n, Writes (isNegative x) n (plain x).toList ∧ n.value.toFloat (isNegative x) = x ∧
      (plain x).toList.head? ≠ some '+' := by
  obtain ⟨n, body, spelled, text, value⟩ := plain_spells finite
  rw [text, String.toList_ofList]
  generalize isNegative x = negative at value
  cases negative with
  | true => exact ⟨n, .parts .minus spelled, value, by simp⟩
  | false =>
    refine ⟨n, .parts .none spelled, value, fun plus => ?_⟩
    have bare := spelled.bare []
    rw [List.append_nil] at bare
    exact (bare '+' plus).1 rfl

theorem trimChars_plain (finite : x.isFinite = true) :
    dropBlanks (plain x).toList = (plain x).toList ∧
      trimChars (plain x).toList = (plain x).toList := by
  obtain ⟨n, written, -⟩ := plain_writes finite
  have first : ∀ c ∈ (plain x).toList.head?, ¬ Text.isBlank c = true := fun c head =>
    written.visible c (List.mem_of_mem_head? head)
  have last : ∀ c ∈ (plain x).toList.getLast?, ¬ Text.isBlank c = true := fun c end' =>
    written.visible c (List.mem_of_getLast? end')
  exact ⟨dropBlanks_of_head first, trimChars_of_ends first last⟩

theorem readAll?_plain (finite : x.isFinite = true) :
    readAll? (trimChars (plain x).toList) = some x := by
  obtain ⟨n, written, value, -⟩ := plain_writes finite
  rw [(trimChars_plain finite).2]
  exact readAll?_eq_some_iff.mpr ⟨_, n, written, value⟩

theorem readNumber?_plain (finite : x.isFinite = true) : readNumber? (plain x) = some x :=
  readNumber?_eq_some_iff.mpr ⟨readAll?_plain finite, finite⟩

theorem readPrefix?_plain (finite : x.isFinite = true) : readPrefix? (plain x) = some x := by
  obtain ⟨n, written, value, -⟩ := plain_writes finite
  rw [← (trimChars_plain finite).2] at written
  rw [readPrefix?_of_writes written, value]

theorem isLongest_plain (finite : x.isFinite = true) :
    IsLongest (Form.number isDecimalDigit) (dropBlanks (plain x).toList) (plain x).toList := by
  obtain ⟨n, written, -⟩ := plain_writes finite
  rw [(trimChars_plain finite).1]
  exact isLongest_self (written.mem_number isDigitClass_isDecimalDigit)

theorem ofField_plain (finite : x.isFinite = true) : Scalar.ofField (plain x) = .number x := by
  obtain ⟨n, -, -, noPlus⟩ := plain_writes finite
  rw [← (trimChars_plain finite).2] at noPlus
  exact Scalar.ofField_eq_number_iff.mpr ⟨noPlus, readAll?_plain finite⟩

/-- The text of a finite number is read as this number by every reader, from end to end. Through a
string variable and then a number variable the number comes back as well. -/
theorem plain_read_back (finite : x.isFinite = true) :
    readNumber? (plain x) = some x ∧
    (readPrefix? (plain x) = some x ∧
      IsLongest (Form.number isDecimalDigit) (dropBlanks (plain x).toList) (plain x).toList) ∧
    Scalar.ofField (plain x) = .number x ∧ Scalar.ofInput (plain x) = .number x ∧
    ∀ (env : Environment) (label count : String) (held : String) (old : Float),
      env.get? label = some (.string held) → env.get? count = some (.number old) →
      ∃ stored text read, env.updateScalar label (.number x) = .ok stored ∧
        stored.get? label = some (.string text) ∧
        stored.updateScalar count (.text text) = .ok read ∧
        read.get? count = some (.number x) := by
  have whole := readNumber?_plain finite
  refine ⟨whole, ⟨readPrefix?_plain finite, isLongest_plain finite⟩, ofField_plain finite,
    Scalar.ofInput_of_readNumber? whole, fun env label count held old string number => ?_⟩
  have other : count ≠ label := by
    rintro rfl
    rw [string] at number
    cases number
  have kept : (env.insert label (.string (plain x))).get? count = some (.number old) := by
    rw [NameMap.get?_insert_of_ne _ _ other.symm, number]
  exact ⟨_, plain x, _, Environment.updateScalar_of_string string, NameMap.get?_insert_self ..,
    Environment.updateScalar_of_number kept whole, NameMap.get?_insert_self ..⟩

theorem plain_read_back_negativeZero :
    (-0.0 : Float).isFinite = true ∧ plain (-0.0) = "-0" ∧
    readNumber? (plain (-0.0)) = some (-0.0) ∧
    (readPrefix? (plain (-0.0)) = some (-0.0) ∧
      IsLongest (Form.number isDecimalDigit) (dropBlanks (plain (-0.0)).toList)
        (plain (-0.0)).toList) ∧
    Scalar.ofField (plain (-0.0)) = .number (-0.0) ∧
    Scalar.ofInput (plain (-0.0)) = .number (-0.0) ∧
    ∃ stored text read,
      Environment.updateScalar (.ofList [("note", .string "none"), ("rate", .number 2)]) "note"
        (.number (-0.0)) = .ok stored ∧
      stored.get? "note" = some (.string text) ∧
      stored.updateScalar "rate" (.text text) = .ok read ∧
      read.get? "rate" = some (.number (-0.0)) := by
  have finite : (-0.0 : Float).isFinite = true := by decide +kernel
  obtain ⟨whole, head, field, typed, through⟩ := plain_read_back finite
  exact ⟨finite, by decide +kernel, whole, head, field, typed,
    through _ "note" "rate" "none" 2 rfl rfl⟩

end NumberFormat

end RecipeEngine
