import RecipeEngine.Expression.Evaluation
import RecipeEngine.Proofs.Number.NonFinite
import RecipeEngine.Proofs.Number.ReadBack
import RecipeEngine.Proofs.Table.Sort

namespace RecipeEngine

open NumberOrder

namespace Answer

theorem compareNumbers_eq (x y : Float) :
    compareNumbers x y = x.toModel.unpack.compare y.toModel.unpack := by
  have less : ∀ u v : Float, u < v ↔ u.toModel.unpack.compare v.toModel.unpack = some .lt := by
    intro u v
    show decide ((u.toModel.unpack.compare v.toModel.unpack == some .lt) = true) = true ↔ _
    rw [decide_eq_true_iff, beq_iff_eq]
  have same : (x == y) = (x.toModel.unpack.compare y.toModel.unpack == some .eq) := rfl
  unfold compareNumbers
  simp only [less, same, compare_swap y.toModel.unpack x.toModel.unpack]
  cases x.toModel.unpack.compare y.toModel.unpack with
  | none => rfl
  | some order => cases order <;> rfl

/-- A comparison the other way round gives the reverse, or nothing if this one does. -/
theorem compare_swap (a b : Answer) : a.compare b = (b.compare a).map Ordering.swap := by
  have texts : some (Scalar.compareTexts a.display b.display) =
      (some (Scalar.compareTexts b.display a.display)).map Ordering.swap :=
    congrArg some Std.OrientedCmp.eq_swap
  unfold compare
  cases a.number? with
  | none => cases b.number? <;> exact texts
  | some x =>
    cases b.number? with
    | none => exact texts
    | some y =>
      dsimp only
      rw [compareNumbers_eq, compareNumbers_eq]
      exact NumberOrder.compare_swap _ _

theorem compare_eq_comm {a b : Answer} : a.compare b = some .eq ↔ b.compare a = some .eq := by
  rw [compare_swap a b]
  cases b.compare a with
  | none => exact iff_of_false nofun nofun
  | some order => simp only [Option.map_some, Option.some_inj, Ordering.swap_eq_eq]

end Answer

def Scalar.IsProper : Scalar → Prop
  | .number x => x.isNaN = false
  | .text _ => True

namespace NumberFormat

variable {x y : Float}

theorem ofInput_plain_of_infinite (infinite : x.isFinite = false) (proper : x.isNaN = false) :
    Scalar.ofInput (plain x) = .text (plain x) := by
  rw [Dyadic.eq_withSign_of_infinite infinite proper]
  cases Dyadic.isNegative x <;> decide +kernel

theorem compare_infinite_iff (left : x.isFinite = false) (leftProper : x.isNaN = false)
    (right : y.isFinite = false) (rightProper : y.isNaN = false) :
    Answer.compareNumbers x y = some .eq ↔ plain x = plain y := by
  rw [Dyadic.eq_withSign_of_infinite left leftProper,
    Dyadic.eq_withSign_of_infinite right rightProper]
  cases Dyadic.isNegative x <;> cases Dyadic.isNegative y <;> decide +kernel

end NumberFormat

namespace Answer

/-- The answer shows a finite number and is compared as this number. -/
structure ShowsNumber (a : Answer) (x : Float) : Prop where
  read : a.number? = some x
  finite : x.isFinite = true
  typed : Scalar.ofInput a.display = .number x

/-- The answer shows no number to read. If it is one nevertheless, then an infinity. -/
structure ShowsWord (a : Answer) : Prop where
  typed : Scalar.ofInput a.display = .text a.display
  infinite : ∀ x, a.number? = some x →
    x.isFinite = false ∧ x.isNaN = false ∧ a.display = NumberFormat.plain x

theorem shows_of_proper {cell : Scalar} (proper : cell.IsProper) :
    (∃ x, (ofScalar cell).ShowsNumber x) ∨ (ofScalar cell).ShowsWord := by
  cases cell with
  | number x =>
    cases finite : x.isFinite with
    | true =>
      have read := NumberFormat.readNumber?_plain finite
      exact .inl ⟨x, rfl, finite, Scalar.ofInput_of_readNumber? read⟩
    | false =>
      refine .inr ⟨NumberFormat.ofInput_plain_of_infinite finite proper, fun y same => ?_⟩
      cases same
      exact ⟨finite, proper, rfl⟩
  | text s =>
    cases read : Numeral.readNumber? s with
    | some x =>
      have finite := (Numeral.readNumber?_eq_some_iff.mp read).2
      exact .inl ⟨x, read, finite, Scalar.ofInput_of_readNumber? read⟩
    | none =>
      have kept : Scalar.ofInput s = .text s := by rw [Scalar.ofInput, read]
      refine .inr ⟨kept, fun x number => ?_⟩
      cases read.symm.trans number

variable {a b : Answer} {x y : Float}

theorem ShowsNumber.compare_number (left : a.ShowsNumber x) (right : b.ShowsNumber y) :
    a.compare b = some .eq ↔ Scalar.compareNumbers x y = .eq := by
  rw [compare, left.read, right.read]
  dsimp only
  rw [compareNumbers_eq, Scalar.compareNumbers_eq,
    compare_eq_comparePlaces (Dyadic.isNaN_eq_false left.finite)
      (Dyadic.isNaN_eq_false right.finite), Option.some_inj]

theorem ShowsNumber.compare_word (left : a.ShowsNumber x) (right : b.ShowsWord) :
    a.compare b ≠ some .eq := by
  rw [compare, left.read]
  cases number : b.number? with
  | some y =>
    dsimp only
    rw [compareNumbers_eq]
    exact compare_infinite_ne left.finite (right.infinite y number).1
  | none =>
    intro same
    have shown : a.display = b.display := Scalar.compareTexts_eq_iff.mp (Option.some_inj.mp same)
    have typed := left.typed
    rw [shown, right.typed] at typed
    cases typed

theorem ShowsWord.compare_word (left : a.ShowsWord) (right : b.ShowsWord) :
    a.compare b = some .eq ↔ Scalar.compareTexts a.display b.display = .eq := by
  unfold compare
  cases number : a.number? with
  | none => exact Option.some_inj
  | some x =>
    cases number' : b.number? with
    | none => exact Option.some_inj
    | some y =>
      -- Two infinities are compared as numbers, and their words tell them apart as well.
      obtain ⟨endless, proper, shown⟩ := left.infinite x number
      obtain ⟨endless', proper', shown'⟩ := right.infinite y number'
      rw [shown, shown', Scalar.compareTexts_eq_iff]
      exact NumberFormat.compare_infinite_iff endless proper endless' proper'

/-- Answers are equal exactly if the texts that they show would become equal cells. -/
theorem compare_eq_iff (left : (∃ x, a.ShowsNumber x) ∨ a.ShowsWord)
    (right : (∃ y, b.ShowsNumber y) ∨ b.ShowsWord) : a.compare b = some .eq ↔
      (Scalar.ofInput a.display).compare (Scalar.ofInput b.display) = .eq := by
  rcases left with ⟨x, number⟩ | word
  · rcases right with ⟨y, number'⟩ | word'
    · rw [number.typed, number'.typed]
      exact number.compare_number number'
    · rw [number.typed, word'.typed]
      exact iff_of_false (number.compare_word word') nofun
  · rcases right with ⟨y, number'⟩ | word'
    · rw [word.typed, number'.typed, compare_eq_comm]
      exact iff_of_false (number'.compare_word word) nofun
    · rw [word.typed, word'.typed]
      exact word.compare_word word'

end Answer

namespace Expression

variable {scope : Scope} {left right : Expression} {a b : Answer}

/-- The expression has a value that a scope can hold, and it is not NaN. -/
def HasProperValue (scope : Scope) (e : Expression) : Prop :=
  ∃ cell : Scalar, cell.IsProper ∧ e.eval scope = .ok (.ofScalar cell)

/-- An operator that never decides by its left operand is applied to the values of both. -/
theorem eval_binary {op : BinaryOp} (strict : shortCircuit? op a = none)
    (first : left.eval scope = .ok a) (second : right.eval scope = .ok b) :
    (binary op left right).eval scope = applyBinary op a b := by
  rw [eval, first]
  dsimp only
  rw [strict]
  dsimp only
  rw [second]

theorem eval_equal_iff {cell other : Scalar} (proper : cell.IsProper) (properOther : other.IsProper)
    (first : left.eval scope = .ok (.ofScalar cell))
    (second : right.eval scope = .ok (.ofScalar other)) :
    (binary .equal left right).eval scope = .ok (.truth true) ↔
      (Scalar.ofInput (Answer.ofScalar cell).display).compare
        (Scalar.ofInput (Answer.ofScalar other).display) = .eq := by
  rw [eval_binary rfl first second, applyBinary, Except.ok.injEq, Answer.truth.injEq,
    decide_eq_true_iff]
  exact Answer.compare_eq_iff (Answer.shows_of_proper proper) (Answer.shows_of_proper properOther)

/-- In formulas `==` is an equivalence relation on the values that a scope holds, NaN excepted, and
`!=` is its negation on all values. Every comparison is reversed with its operands. -/
theorem equal_equivalence (scope : Scope) :
    Equivalence (fun left right : {e : Expression // e.HasProperValue scope} =>
      (binary .equal left.1 right.1).eval scope = .ok (.truth true)) ∧
    (∀ left right : {e : Expression // ∃ a, e.eval scope = .ok a}, ∃ same : Bool,
      (binary .equal left.1 right.1).eval scope = .ok (.truth same) ∧
      (binary .notEqual left.1 right.1).eval scope = .ok (.truth !same)) ∧
    ∀ a b : Answer, a.compare b = (b.compare a).map Ordering.swap := by
  refine ⟨⟨?_, ?_, ?_⟩, ?_, Answer.compare_swap⟩
  · rintro ⟨e, cell, proper, value⟩
    rw [eval_equal_iff proper proper value value]
    exact Std.ReflCmp.compare_self
  · rintro ⟨_, _, proper, value⟩ ⟨_, _, proper', value'⟩ same
    rw [eval_equal_iff proper proper' value value'] at same
    rw [eval_equal_iff proper' proper value' value]
    exact Std.OrientedCmp.eq_symm same
  · rintro ⟨_, _, proper, value⟩ ⟨_, _, proper', value'⟩ ⟨_, _, proper'', value''⟩ first second
    rw [eval_equal_iff proper proper' value value'] at first
    rw [eval_equal_iff proper' proper'' value' value''] at second
    rw [eval_equal_iff proper proper'' value value'']
    exact Std.TransCmp.eq_trans first second
  · rintro ⟨_, a, value⟩ ⟨_, b, value'⟩
    refine ⟨decide (a.compare b = some .eq), eval_binary rfl value value', ?_⟩
    rw [eval_binary rfl value value', applyBinary, ← decide_not]

-- Truth values would break the equivalence: `true` equals `1` and the text `true`.
example : (Answer.truth true).compare (.number 1) = some .eq ∧
    (Answer.truth true).compare (.text "true") = some .eq ∧
    (Answer.number 1).compare (.text "true") ≠ some .eq := by decide +kernel

end Expression

end RecipeEngine
