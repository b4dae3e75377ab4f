import RecipeEngine.Operation.Arguments
import RecipeEngine.Proofs.Text.Trim

namespace RecipeEngine.Arguments

variable {args : Arguments} {argument s : String}

theorem text?_of_get? (given : args.get? argument = some (.text s)) :
    args.text? argument = some s := by
  rw [text?, given]

theorem required_of_text? (given : args.text? argument = some s) :
    args.required argument =
      if Text.isAllBlank s then .error (.missingArgument argument) else .ok (Text.trim s) := by
  rw [required, present?, given, Option.filter_some]
  cases Text.isAllBlank s <;> rfl

/-- A text is its own argument if nothing is trimmed off it and it is not empty. -/
theorem required_eq_self_iff (given : args.text? argument = some s) :
    args.required argument = .ok s ↔ Text.trim s = s ∧ s ≠ "" := by
  rw [required_of_text? given]
  by_cases blank : Text.isAllBlank s = true
  · have trimmed := Text.trim_of_isAllBlank blank
    rw [if_pos blank, trimmed]
    exact iff_of_false nofun fun ⟨void, visible⟩ => visible void.symm
  · have visible : s ≠ "" := fun void => blank (void ▸ rfl)
    rw [if_neg blank, Except.ok.injEq, and_iff_left visible]

end RecipeEngine.Arguments
