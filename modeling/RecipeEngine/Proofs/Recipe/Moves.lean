import RecipeEngine.Recipe.Basic

namespace RecipeEngine.Recipe

section Lists

variable (left right : Recipe) (step : Step)

theorem insertIdx_length : (left ++ right).insertIdx left.length step = left ++ step :: right := by
  induction left with
  | nil => rfl
  | cons first rest ih => exact congrArg (first :: ·) ih

theorem insertIdx_succ_length (other : Step) :
    (left ++ other :: right).insertIdx (left.length + 1) step =
      left ++ other :: step :: right := by
  have place : left.length + 1 = (left ++ [other]).length := by simp
  have behind := insertIdx_length (left ++ [other]) right step
  rw [place]
  simpa using behind

theorem eraseIdx_length : (left ++ step :: right).eraseIdx left.length = left ++ right := by
  rw [List.eraseIdx_append_of_length_le (Nat.le_refl _), Nat.sub_self, List.eraseIdx_zero,
    List.tail_cons]

theorem getElem?_length : (left ++ step :: right)[left.length]? = some step := by
  rw [List.getElem?_append_right (Nat.le_refl _), Nat.sub_self, List.getElem?_cons_zero]

end Lists

variable {recipe left middle right : Recipe} {first second : Step} {id target : String}

/-- A step is the first with its id where no step before it has that id. -/
theorem position?_of_split (found : first.id = id) (fresh : ∀ step ∈ left, step.id ≠ id) :
    (left ++ first :: right).position? id = some left.length := by
  have none : left.findIdx? (fun step => decide (step.id = id)) = none :=
    List.findIdx?_eq_none_iff.mpr fun step member => decide_eq_false (fresh step member)
  rw [position?, List.findIdx?_append, none, List.findIdx?_cons, if_pos (decide_eq_true found)]
  simp

theorem exists_split {i : Nat} (found : recipe.position? id = some i) :
    ∃ left step right, recipe = left ++ step :: right ∧ left.length = i ∧ step.id = id ∧
      ∀ earlier ∈ left, earlier.id ≠ id := by
  obtain ⟨bound, same, before⟩ := List.findIdx?_eq_some_iff_getElem.mp found
  refine ⟨recipe.take i, recipe[i], recipe.drop (i + 1), ?_,
    List.length_take_of_le (Nat.le_of_lt bound), of_decide_eq_true same, ?_⟩
  · rw [List.getElem_cons_drop, List.take_append_drop]
  · intro earlier member
    obtain ⟨j, short, rfl⟩ := List.mem_take_iff_getElem.mp member
    exact fun clash => before j (by omega) (decide_eq_true clash)

/-- The first step with one id stands before the first step with another one. -/
def StandsBefore (recipe : Recipe) (id target : String) : Prop :=
  ∃ i j, recipe.position? id = some i ∧ recipe.position? target = some j ∧ i < j

/-- A recipe cut at the first steps with two ids, of which one stands before the other. -/
structure Ordered (recipe : Recipe) (id target : String) (left : Recipe) (first : Step)
    (middle : Recipe) (second : Step) (right : Recipe) : Prop where
  parts : recipe = left ++ first :: (middle ++ second :: right)
  here : first.id = id
  there : second.id = target
  fresh : ∀ step ∈ left, step.id ≠ id
  unseen : ∀ step ∈ left ++ first :: middle, step.id ≠ target

theorem StandsBefore.ordered (before : recipe.StandsBefore id target) :
    ∃ left first middle second right, recipe.Ordered id target left first middle second right := by
  obtain ⟨i, j, found, found', less⟩ := before
  obtain ⟨left, first, after, parts, rfl, here, fresh⟩ := exists_split found
  obtain ⟨front, second, right, parts', rfl, there, unseen⟩ := exists_split found'
  -- Both splits are of one recipe; the one at the target has the longer front.
  rcases List.append_eq_append_iff.mp (parts.symm.trans parts') with
    ⟨between, rfl, rest⟩ | ⟨between, rfl, -⟩
  · cases between with
    | nil => simp at less
    | cons _ middle =>
      obtain ⟨rfl, rfl⟩ := List.cons.inj rest
      exact ⟨left, _, middle, second, right, parts, here, there, fresh, unseen⟩
  · rw [List.length_append] at less
    omega

namespace Ordered

variable (ordered : recipe.Ordered id target left first middle second right)

include ordered

theorem parts_second : recipe = (left ++ first :: middle) ++ second :: right := by
  simpa using ordered.parts

theorem apart : id ≠ target := by
  rw [← ordered.here]
  exact ordered.unseen first (by simp)

theorem position?_first : recipe.position? id = some left.length :=
  ordered.parts ▸ position?_of_split ordered.here ordered.fresh

theorem position?_second : recipe.position? target = some (left ++ first :: middle).length :=
  ordered.parts_second ▸ position?_of_split ordered.there ordered.unseen

theorem getElem?_first : recipe[left.length]? = some first :=
  ordered.parts ▸ getElem?_length _ _ _

theorem getElem?_second : recipe[(left ++ first :: middle).length]? = some second :=
  ordered.parts_second ▸ getElem?_length _ _ _

theorem eraseIdx_first : recipe.eraseIdx left.length = (left ++ middle) ++ second :: right := by
  rw [ordered.parts, eraseIdx_length, List.append_assoc]

theorem eraseIdx_second :
    recipe.eraseIdx (left ++ first :: middle).length = left ++ first :: (middle ++ right) := by
  rw [ordered.parts_second, eraseIdx_length]
  simp

/-- Without the first step the second one is still found, one place earlier. -/
theorem position?_without_first :
    position? (recipe.eraseIdx left.length) target = some (left ++ middle).length := by
  rw [ordered.eraseIdx_first]
  refine position?_of_split ordered.there fun step member => ordered.unseen step ?_
  exact (List.sublist_cons_self first middle).append_left left |>.subset member

theorem position?_without_second :
    position? (recipe.eraseIdx (left ++ first :: middle).length) id = some left.length := by
  rw [ordered.eraseIdx_second]
  exact position?_of_split ordered.here ordered.fresh

theorem reorder_down :
    recipe.reorder id target = (true, (left ++ middle) ++ second :: first :: right) := by
  have distinct : left.length ≠ (left ++ first :: middle).length := by simp
  have place : (left ++ first :: middle).length = (left ++ middle).length + 1 := by
    simp [Nat.add_assoc]
  rw [reorder, ordered.position?_first, ordered.position?_second]
  dsimp only
  rw [if_neg distinct, relocate, ordered.getElem?_first, ordered.eraseIdx_first]
  dsimp only
  rw [place, insertIdx_succ_length]

theorem reorder_up :
    recipe.reorder target id = (true, left ++ second :: first :: (middle ++ right)) := by
  have distinct : (left ++ first :: middle).length ≠ left.length := by simp
  rw [reorder, ordered.position?_first, ordered.position?_second]
  dsimp only
  rw [if_neg distinct, relocate, ordered.getElem?_second, ordered.eraseIdx_second]
  dsimp only
  rw [insertIdx_length]

theorem moveRelative_after :
    recipe.moveRelative id target .after =
      (true, (left ++ middle) ++ second :: first :: right) := by
  rw [moveRelative, ordered.position?_first, ordered.position?_second]
  dsimp only
  rw [if_neg ordered.apart, ordered.position?_without_first, ordered.getElem?_first,
    ordered.eraseIdx_first]
  dsimp only [Option.getD_some]
  rw [insertIdx_succ_length]

theorem moveRelative_before :
    recipe.moveRelative target id .before =
      (true, left ++ second :: first :: (middle ++ right)) := by
  rw [moveRelative, ordered.position?_first, ordered.position?_second]
  dsimp only
  rw [if_neg ordered.apart.symm, ordered.position?_without_second, ordered.getElem?_second,
    ordered.eraseIdx_second]
  dsimp only [Option.getD_some]
  rw [insertIdx_length]

end Ordered

theorem position?_eq_none_iff : recipe.position? id = none ↔ ∀ step ∈ recipe, step.id ≠ id := by
  rw [position?, List.findIdx?_eq_none_iff]
  exact forall₂_congr fun step _ => decide_eq_false_iff_not

/-- No move finds its way from or to an id that no step has. -/
theorem unmoved_of_unknown
    (unknown : recipe.position? id = none ∨ recipe.position? target = none) :
    recipe.reorder id target = (false, recipe) ∧
      ∀ placement, recipe.moveRelative id target placement = (false, recipe) := by
  unfold reorder moveRelative
  rcases unknown with none | none
  · rw [none]
    cases recipe.position? target <;> simp
  · rw [none]
    cases recipe.position? id <;> simp

theorem unmoved_of_self {i : Nat} (found : recipe.position? id = some i) :
    recipe.reorder id id = (true, recipe) ∧
      ∀ placement, recipe.moveRelative id id placement = (true, recipe) := by
  simp [reorder, moveRelative, found]

theorem unmoved (still : recipe.position? id = none ∨ recipe.position? target = none ∨ id = target) :
    ∃ flag, recipe.reorder id target = (flag, recipe) ∧
      ∀ placement, recipe.moveRelative id target placement = (flag, recipe) := by
  cases here : recipe.position? id with
  | none => exact ⟨false, unmoved_of_unknown (.inl here)⟩
  | some i =>
    rcases still with absent | absent | rfl
    · cases here.symm.trans absent
    · exact ⟨false, unmoved_of_unknown (.inr absent)⟩
    · exact ⟨true, unmoved_of_self here⟩

theorem eq_of_position?_eq {i : Nat} (found : recipe.position? id = some i)
    (found' : recipe.position? target = some i) : id = target := by
  obtain ⟨_, same, _⟩ := List.findIdx?_eq_some_iff_getElem.mp found
  obtain ⟨_, same', _⟩ := List.findIdx?_eq_some_iff_getElem.mp found'
  exact (of_decide_eq_true same).symm.trans (of_decide_eq_true same')

theorem reorder_before (notBefore : ¬ recipe.StandsBefore id target) :
    recipe.reorder id target = recipe.moveRelative id target .before := by
  have same (still : recipe.position? id = none ∨ recipe.position? target = none ∨ id = target) :
      recipe.reorder id target = recipe.moveRelative id target .before := by
    obtain ⟨flag, dropped, placed⟩ := unmoved still
    rw [dropped, placed]
  cases here : recipe.position? id with
  | none => exact same (.inl here)
  | some i =>
    cases there : recipe.position? target with
    | none => exact same (.inr (.inl there))
    | some j =>
      have notLess : ¬ i < j := fun less => notBefore ⟨i, j, here, there, less⟩
      rcases Nat.lt_or_eq_of_le (Nat.le_of_not_lt notLess) with after | rfl
      · have behind : recipe.StandsBefore target id := ⟨j, i, there, here, after⟩
        obtain ⟨_, _, _, _, _, ordered⟩ := behind.ordered
        rw [ordered.reorder_up, ordered.moveRelative_before]
      · exact same (.inr (.inr (eq_of_position?_eq here there)))

/-- Dropping a step on another one gives the same flag and the same recipe as placing it after that
one if the first step with its id stands before the first step with the other id, and as placing it
before that one if not. Neither changes the recipe if one of the ids is unknown or both are the
same. -/
theorem reorder_eq_moveRelative (recipe : Recipe) (id target : String) :
    (recipe.StandsBefore id target →
        recipe.reorder id target = recipe.moveRelative id target .after) ∧
      (¬ recipe.StandsBefore id target →
        recipe.reorder id target = recipe.moveRelative id target .before) ∧
      ((∀ step ∈ recipe, step.id ≠ id) ∨ (∀ step ∈ recipe, step.id ≠ target) ∨ id = target →
        (recipe.reorder id target).2 = recipe ∧
          ∀ placement, (recipe.moveRelative id target placement).2 = recipe) := by
  refine ⟨fun before => ?_, reorder_before, fun still => ?_⟩
  · obtain ⟨_, _, _, _, _, ordered⟩ := before.ordered
    rw [ordered.reorder_down, ordered.moveRelative_after]
  · rw [← position?_eq_none_iff, ← position?_eq_none_iff] at still
    obtain ⟨flag, dropped, placed⟩ := unmoved still
    exact ⟨congrArg Prod.snd dropped, fun placement => congrArg Prod.snd (placed placement)⟩

def courses : Recipe :=
  ["soup", "fish", "soup", "cake", "fish"].map fun id => ⟨id, "constant-math", .empty, id⟩

theorem reorder_eq_moveRelative_courses :
    courses.StandsBefore "soup" "fish" ∧ ¬ courses.StandsBefore "cake" "soup" ∧
      (∀ step ∈ courses, step.id ≠ "tea") ∧
      courses.reorder "soup" "fish" = courses.moveRelative "soup" "fish" .after ∧
      courses.reorder "cake" "soup" = courses.moveRelative "cake" "soup" .before ∧
      (courses.moveRelative "soup" "tea" .after).2 = courses := by
  have soup : courses.position? "soup" = some 0 := by decide
  have fish : courses.position? "fish" = some 1 := by decide
  have ahead : courses.StandsBefore "soup" "fish" := ⟨0, 1, soup, fish, by decide⟩
  have behind : ¬ courses.StandsBefore "cake" "soup" := by
    rintro ⟨i, j, -, there, less⟩
    cases soup.symm.trans there
    exact Nat.not_lt_zero i less
  have noTea : ∀ step ∈ courses, step.id ≠ "tea" := by decide
  exact ⟨ahead, behind, noTea, (reorder_eq_moveRelative courses _ _).1 ahead,
    (reorder_eq_moveRelative courses _ _).2.1 behind,
    ((reorder_eq_moveRelative courses _ _).2.2 (.inr (.inl noTea))).2 .after⟩

end RecipeEngine.Recipe
