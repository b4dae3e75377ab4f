import RecipeEngine.Proofs.Expression.Literal

namespace RecipeEngine

open Numeral Text

namespace Formula

theorem compile_of_writes {s : String} {negative : Bool} {n : Numeral}
    (written : Writes negative n (trimChars s.toList)) :
    ∃ f, compile s = .ok f ∧
      ∀ scope, f.evaluate scope = .ok (.number (n.value.toFloat negative)) := by
  obtain ⟨e, parsed, answers⟩ := Expression.ofSource_of_writes written
  refine ⟨⟨s, e⟩, ?_, fun scope => ?_⟩
  · rw [compile, parsed]
  · rw [evaluate, answers]

end Formula

namespace Numeral

/-- A text that is a finite number as a whole is the same number for every other reader: typed into
a cell, at the head of a text, and as a formula in any scope. Fields of delimited texts that are
finite numbers are among these texts, and have the same value. -/
theorem readers_agree (s : String) :
    (∀ x, readNumber? s = some x →
      Scalar.ofInput s = .number x ∧ readPrefix? s = some x ∧
        ∃ f, Formula.compile s = .ok f ∧ ∀ scope, f.evaluate scope = .ok (.number x)) ∧
    ∀ x, Scalar.ofField s = .number x → x.isFinite = true → readNumber? s = some x := by
  constructor
  · intro x read
    obtain ⟨whole, -⟩ := readNumber?_eq_some_iff.mp read
    obtain ⟨negative, n, written, rfl⟩ := readAll?_eq_some_iff.mp whole
    exact ⟨Scalar.ofInput_of_readNumber? read, readPrefix?_of_writes written,
      Formula.compile_of_writes written⟩
  · intro x field finite
    exact readNumber?_eq_some_iff.mpr ⟨(Scalar.ofField_eq_number_iff.mp field).2, finite⟩

theorem readers_agree_padded :
    (readNumber? " -2.5e1\t" = some (-25) ∧ Scalar.ofField " -2.5e1\t" = .number (-25) ∧
      (-25 : Float).isFinite = true) ∧
    (Scalar.ofInput " -2.5e1\t" = .number (-25) ∧ readPrefix? " -2.5e1\t" = some (-25) ∧
      ∃ f, Formula.compile " -2.5e1\t" = .ok f ∧
        ∀ scope, f.evaluate scope = .ok (.number (-25))) ∧
    readNumber? " -2.5e1\t" = some (-25) := by
  have read : readNumber? " -2.5e1\t" = some (-25) := by decide +kernel
  have field : Scalar.ofField " -2.5e1\t" = .number (-25) := by decide +kernel
  have finite : (-25 : Float).isFinite = true := by decide +kernel
  obtain ⟨typed, fields⟩ := readers_agree " -2.5e1\t"
  exact ⟨⟨read, field, finite⟩, typed (-25) read, fields (-25) field finite⟩

end Numeral

namespace Scalar

variable {s : String} {negative : Bool} {n : Numeral}

theorem ofInput_of_writes (written : Writes negative n (trimChars s.toList)) :
    ofInput s =
      if (n.value.toFloat negative).isFinite = true then .number (n.value.toFloat negative)
      else .text s := by
  have whole := readAll?_eq_some_iff.mpr ⟨negative, n, written, rfl⟩
  rw [ofInput, readNumber?, whole, Option.filter_some]
  by_cases finite : (n.value.toFloat negative).isFinite = true
  · rw [if_pos finite, if_pos finite]
  · rw [if_neg finite, if_neg finite]

theorem ofField_of_writes (written : Writes negative n (trimChars s.toList)) :
    ofField s = if (trimChars s.toList).head? = some '+' then .text s
      else .number (n.value.toFloat negative) := by
  have whole := readAll?_eq_some_iff.mpr ⟨negative, n, written, rfl⟩
  rw [ofField, whole]

/-- A text that is no numeral stays a text, typed or as a field. -/
theorem ofInput_eq_ofField_of_readAll? (whole : readAll? (trimChars s.toList) = none) :
    ofInput s = ofField s := by
  rw [ofInput, readNumber?, whole, ofField, whole]
  exact (ite_self _).symm

/-- A typed text and a field of a delimited text become the same cell unless the text is a numeral
on which they differ: a plus sign keeps a field a text, and only what is typed has to be finite. -/
theorem ofInput_eq_ofField_iff (s : String) :
    ofInput s = ofField s ↔ ∀ negative n, Writes negative n (trimChars s.toList) →
      ((trimChars s.toList).head? = some '+' ↔ (n.value.toFloat negative).isFinite = false) := by
  constructor
  · intro same negative n written
    rw [ofInput_of_writes written, ofField_of_writes written] at same
    by_cases plus : (trimChars s.toList).head? = some '+'
    · rw [if_pos plus] at same
      refine iff_of_true plus ?_
      rw [← Bool.not_eq_true]
      intro finite
      rw [if_pos finite] at same
      cases same
    · rw [if_neg plus] at same
      refine iff_of_false plus fun infinite => ?_
      rw [infinite, if_neg Bool.false_ne_true] at same
      cases same
  · intro alike
    cases whole : readAll? (trimChars s.toList) with
    | none => exact ofInput_eq_ofField_of_readAll? whole
    | some x =>
      obtain ⟨negative, n, written, -⟩ := readAll?_eq_some_iff.mp whole
      have plus := alike negative n written
      rw [ofInput_of_writes written, ofField_of_writes written]
      by_cases finite : (n.value.toFloat negative).isFinite = true
      · rw [if_pos finite, if_neg fun signed => ?_]
        rw [plus.mp signed] at finite
        cases finite
      · rw [if_neg finite, if_pos (plus.mpr (Bool.not_eq_true _ ▸ finite))]

/-- A plus sign is read in a typed text and not in a field; a numeral beyond the finite doubles is
read in a field and not in a typed text. -/
theorem not_ofInput_eq_ofField :
    (ofInput "+5" = .number 5 ∧ ofField "+5" = .text "+5") ∧
    (ofInput "1e999" = .text "1e999" ∧ ofField "1e999" = .number (1 / 0)) ∧
    ¬ ∀ s, ofInput s = ofField s := by
  have typed : ofInput "+5" = .number 5 := by decide +kernel
  have field : ofField "+5" = .text "+5" := by decide +kernel
  refine ⟨⟨typed, field⟩, ⟨by decide +kernel, by decide +kernel⟩, fun same => ?_⟩
  have cells := same "+5"
  rw [typed, field] at cells
  cases cells

end Scalar

end RecipeEngine
