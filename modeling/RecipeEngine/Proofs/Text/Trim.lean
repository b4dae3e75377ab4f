import Mathlib.Data.List.DropRight
import Mathlib.Data.List.TakeWhile
import RecipeEngine.Text.Blank

namespace RecipeEngine.Text

variable {cs : List Char} {c : Char} {s : String}

theorem toNat_of_isDigit {c : Char} (isDigit : c.isDigit = true) : 48 ≤ c.toNat ∧ c.toNat ≤ 57 := by
  simp only [Char.isDigit, Bool.and_eq_true, decide_eq_true_eq] at isDigit
  exact isDigit

theorem toNat_of_isAlpha {c : Char} (letter : c.isAlpha = true) :
    65 ≤ c.toNat ∧ c.toNat ≤ 90 ∨ 97 ≤ c.toNat ∧ c.toNat ≤ 122 := by
  rcases Bool.or_eq_true_iff.mp letter with capital | small
  · exact .inl (of_decide_eq_true capital)
  · have ends : (decide (97 ≤ c.toNat) && decide (c.toNat ≤ 122)) = true := small
    rw [Bool.and_eq_true, decide_eq_true_eq, decide_eq_true_eq] at ends
    exact .inr ends

theorem visible_of_isAlphanum (inWord : c.isAlphanum = true) : ¬ isBlank c = true := by
  intro blank
  obtain ⟨range, member, low, high⟩ := inRanges_iff.mp blank
  have apart : ∀ range ∈ blankRanges, range.2 < 48 ∨ 122 < range.1 := by decide
  have := apart range member
  rcases Bool.or_eq_true_iff.mp inWord with letter | digit
  · have := toNat_of_isAlpha letter
    omega
  · have := toNat_of_isDigit digit
    omega

theorem dropBlanks_of_head {cs : List Char} (visible : ∀ c ∈ cs.head?, ¬ isBlank c = true) :
    dropBlanks cs = cs := by
  cases cs with
  | nil => rfl
  | cons c tail => exact List.dropWhile_cons_of_neg (visible c rfl)

/-- Nothing is trimmed off a text with no white space at its ends. -/
theorem trimChars_of_ends {cs : List Char} (first : ∀ c ∈ cs.head?, ¬ isBlank c = true)
    (last : ∀ c ∈ cs.getLast?, ¬ isBlank c = true) : trimChars cs = cs := by
  have backwards : cs.reverse.dropWhile isBlank = cs.reverse := by
    rw [← List.head?_reverse] at last
    exact dropBlanks_of_head last
  rw [trimChars, dropBlanks_of_head first, dropEndBlanks, backwards, List.reverse_reverse]

theorem visible_head_dropBlanks (here : c ∈ (dropBlanks cs).head?) : ¬ isBlank c = true := by
  have visible := List.head?_dropWhile_not isBlank cs
  rw [← dropBlanks, here] at visible
  simpa using visible

theorem visible_getLast_trimChars (here : c ∈ (trimChars cs).getLast?) : ¬ isBlank c = true := by
  rw [trimChars, dropEndBlanks, List.getLast?_reverse] at here
  exact visible_head_dropBlanks here

theorem visible_head_trimChars (here : c ∈ (trimChars cs).head?) : ¬ isBlank c = true := by
  obtain ⟨rest, whole⟩ : trimChars cs <+: dropBlanks cs := List.rdropWhile_prefix isBlank _
  have first : c ∈ (dropBlanks cs).head? := by
    rw [← whole, List.head?_append, here]
    rfl
  exact visible_head_dropBlanks first

/-- Trimming leaves exactly the texts with no white space at their ends as they are. -/
theorem trimChars_eq_self_iff :
    trimChars cs = cs ↔
      (∀ c ∈ cs.head?, ¬ isBlank c = true) ∧ ∀ c ∈ cs.getLast?, ¬ isBlank c = true := by
  constructor
  · intro same
    rw [← same]
    exact ⟨fun c => visible_head_trimChars, fun c => visible_getLast_trimChars⟩
  · rintro ⟨first, last⟩
    exact trimChars_of_ends first last

theorem trim_eq_self_iff :
    trim s = s ↔ (∀ c ∈ s.toList.head?, ¬ isBlank c = true) ∧
      ∀ c ∈ s.toList.getLast?, ¬ isBlank c = true := by
  rw [← trimChars_eq_self_iff, trim, ← String.toList_inj, String.toList_ofList]

@[simp] theorem trim_trim (s : String) : trim (trim s) = trim s := by
  rw [trim_eq_self_iff, trim, String.toList_ofList]
  exact ⟨fun c => visible_head_trimChars, fun c => visible_getLast_trimChars⟩

/-- After visible characters nothing is trimmed; before them the start counts, and where there are
none also the end of what stands before. -/
theorem trim_append_eq_self_iff {lead tail : String}
    (visible : ∀ c ∈ tail.toList, ¬ isBlank c = true) :
    trim (lead ++ tail) = lead ++ tail ↔
      (∀ c ∈ lead.toList.head?, ¬ isBlank c = true) ∧
        (tail = "" → ∀ c ∈ lead.toList.getLast?, ¬ isBlank c = true) := by
  rw [trim_eq_self_iff, String.toList_append, List.head?_append, List.getLast?_append]
  refine and_congr ?_ ?_
  · cases lead.toList.head? with
    | some c => rfl
    | none =>
      refine iff_of_true (fun c here => visible c ?_) (fun c here => by cases here)
      exact List.mem_of_mem_head? here
  · cases last : tail.toList.getLast? with
    | none =>
      rw [List.getLast?_eq_none_iff, String.toList_eq_nil_iff] at last
      exact ⟨fun ends _ => ends, fun ends => ends last⟩
    | some c =>
      have member := List.mem_of_getLast? last
      refine iff_of_true (fun d here => ?_) (fun void => ?_)
      · cases here
        exact visible c member
      · rw [void] at member
        cases member

theorem trim_eq_empty_iff : trim s = "" ↔ isAllBlank s = true := by
  rw [trim, String.ofList_eq_empty_iff, isAllBlank, List.all_eq_true]
  constructor
  · intro void
    -- What is left by the cut at the start would begin with a visible character.
    have none : dropBlanks s.toList = [] := by
      cases left : dropBlanks s.toList with
      | nil => rfl
      | cons c rest =>
        have blank := List.rdropWhile_eq_nil_iff.mp void c (left ▸ List.mem_cons_self)
        have here : c ∈ (dropBlanks s.toList).head? := by rw [left]; rfl
        exact absurd blank (visible_head_dropBlanks here)
    exact List.dropWhile_eq_nil_iff.mp none
  · intro blank
    have none : dropBlanks s.toList = [] := List.dropWhile_eq_nil_iff.mpr blank
    rw [trimChars, none]
    rfl

theorem trim_of_isAllBlank {s : String} (blank : isAllBlank s = true) : trim s = "" :=
  trim_eq_empty_iff.mpr blank

end RecipeEngine.Text
