import RecipeEngine.Proofs.Text.Trim
import RecipeEngine.Recipe.Basic

namespace RecipeEngine.Step

variable {step first second : Step} {lead : String}

theorem outputName_of_blank (blank : Text.isAllBlank step.output = true) (lead : String) :
    step.outputName lead = lead ++ stem step.id :=
  if_pos blank

theorem outputName_of_configured (configured : ¬ Text.isAllBlank step.output = true)
    (lead : String) : step.outputName lead = Text.trim step.output :=
  if_neg configured

/-- Names that are made from ids agree exactly if the ids have the same stem. -/
theorem outputName_eq_iff (firstBlank : Text.isAllBlank first.output = true)
    (secondBlank : Text.isAllBlank second.output = true) (lead : String) :
    first.outputName lead = second.outputName lead ↔ stem first.id = stem second.id := by
  rw [outputName_of_blank firstBlank, outputName_of_blank secondBlank, String.append_right_inj]

theorem visible_of_mem_stem {id : String} {c : Char} (member : c ∈ (stem id).toList) :
    ¬ Text.isBlank c = true := by
  rw [stem, String.toList_ofList] at member
  exact Text.visible_of_isAlphanum (List.mem_filter.mp (List.mem_of_mem_take member)).2

/-- A step whose result gets a name that an argument can give as it is: a configured one, or one
with no white space at its ends, where the start that the settings give could bring some in. -/
def IsReferable (lead : String) (step : Step) : Prop :=
  Text.isAllBlank step.output = true →
    (∀ c ∈ lead.toList.head?, ¬ Text.isBlank c = true) ∧
      (stem step.id = "" → lead ≠ "" ∧ ∀ c ∈ lead.toList.getLast?, ¬ Text.isBlank c = true)

/-- A name survives as an argument, which is trimmed and must not be blank. -/
theorem isReferable_iff : step.IsReferable lead ↔
    Text.trim (step.outputName lead) = step.outputName lead ∧ step.outputName lead ≠ "" := by
  unfold IsReferable
  by_cases blank : Text.isAllBlank step.output = true
  · have void : lead ++ stem step.id ≠ "" ↔ (stem step.id = "" → lead ≠ "") := by
      rw [ne_eq, String.append_eq_empty_iff]
      tauto
    rw [outputName_of_blank blank, Text.trim_append_eq_self_iff fun c => visible_of_mem_stem, void,
      forall_prop_of_true blank, and_assoc, ← forall_and]
    simp only [and_comm]
  · have written := mt Text.trim_eq_empty_iff.mp blank
    rw [outputName_of_configured blank, Text.trim_trim]
    exact iff_of_true (fun here => absurd here blank) ⟨rfl, written⟩

end RecipeEngine.Step
