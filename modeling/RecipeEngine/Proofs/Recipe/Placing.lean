import RecipeEngine.Proofs.Recipe.Order

namespace RecipeEngine.Recipe

/-- A step between others, right before or right after one of them. -/
def beside (front : Recipe) (step anchor : Step) (back : Recipe) : Placement → Recipe
  | .before => front ++ step :: anchor :: back
  | .after => front ++ anchor :: step :: back

/-- The step with an id stands right before or right after the one with another id. -/
def NextTo (recipe : Recipe) (id target : String) (placement : Placement) : Prop :=
  ∃ front step anchor back, step.id = id ∧ anchor.id = target ∧
    recipe = beside front step anchor back placement

/-- The step at an index and the others; none if the index is out of range. -/
def takeAt? (recipe : Recipe) (index : Nat) : Option (Step × Recipe) :=
  recipe[index]?.map fun step => (step, recipe.eraseIdx index)

/-- The recipe with a step put in at an index; none if the index is out of range. -/
def putAt? (recipe : Recipe) (index : Nat) (step : Step) : Option Recipe :=
  if index ≤ recipe.length then some (recipe.insertIdx index step) else none

/-- A step moved next to another one; none if an index on the way is out of range. -/
def moveInRange? (recipe : Recipe) (id target : String) (placement : Placement) :
    Option (Bool × Recipe) :=
  match recipe.position? target, recipe.position? id with
  | some _, some source =>
    if id = target then some (true, recipe)
    else do
      let (step, others) ← recipe.takeAt? source
      let anchor := (position? others target).getD others.length
      let index := match placement with
        | .before => anchor
        | .after => anchor + 1
      let moved ← others.putAt? index step
      some (true, moved)
  | _, _ => some (false, recipe)

/-- A recipe cut at the first step with an id, and the others cut at the first step with another. -/
structure Cut (recipe : Recipe) (id target : String) (left : Recipe) (step : Step) (right : Recipe)
    (front : Recipe) (anchor : Step) (back : Recipe) : Prop where
  apart : id ≠ target
  parts : recipe = left ++ step :: right
  here : step.id = id
  fresh : id ∉ left.ids
  others : left ++ right = front ++ anchor :: back
  there : anchor.id = target
  unseen : target ∉ front.ids

variable {recipe : Recipe} {id target : String} {placement : Placement}

/-- The step that a move is to goes on standing among the others. -/
theorem exists_cut (apart : id ≠ target) (known : id ∈ recipe.ids) (known' : target ∈ recipe.ids) :
    ∃ left step right front anchor back,
      recipe.Cut id target left step right front anchor back := by
  obtain ⟨left, step, right, rfl, here, fresh⟩ := exists_split_of_mem known
  have remains : target ∈ ids (left ++ right) := by
    rw [ids_append, ids_cons, List.mem_append, List.mem_cons] at known'
    rw [ids_append, List.mem_append]
    exact known'.imp_right fun member => member.resolve_left fun same => apart (here ▸ same.symm)
  obtain ⟨front, anchor, back, others, there, unseen⟩ := exists_split_of_mem remains
  exact ⟨left, step, right, front, anchor, back, apart, rfl, here, fresh, others, there, unseen⟩

theorem perm_beside (front : Recipe) (step anchor : Step) (back : Recipe) :
    (beside front step anchor back placement).Perm (step :: (front ++ anchor :: back)) := by
  cases placement with
  | before => exact List.perm_middle
  | after =>
    have moved : (front ++ [anchor] ++ step :: back).Perm (step :: (front ++ [anchor] ++ back)) :=
      List.perm_middle
    simpa [beside] using moved

namespace Cut

variable {left right front back : Recipe} {step anchor : Step}
  (cut : recipe.Cut id target left step right front anchor back)

include cut

theorem position?_source : recipe.position? id = some left.length :=
  cut.parts ▸ position?_of_split cut.here (not_mem_ids.mp cut.fresh)

theorem target_mem : target ∈ recipe.ids := by
  have member : target ∈ ids (left ++ right) := by
    rw [cut.others, ids_append, ids_cons, cut.there]
    simp
  rw [cut.parts, ids_append, ids_cons]
  rw [ids_append, List.mem_append] at member
  exact List.mem_append.mpr (member.imp_right (List.mem_cons_of_mem _))

theorem getElem?_source : recipe[left.length]? = some step :=
  cut.parts ▸ getElem?_length _ _ _

theorem eraseIdx_source : recipe.eraseIdx left.length = front ++ anchor :: back := by
  rw [cut.parts, eraseIdx_length, cut.others]

theorem position?_anchor : position? (front ++ anchor :: back) target = some front.length :=
  position?_of_split cut.there (not_mem_ids.mp cut.unseen)

theorem moveRelative_eq :
    recipe.moveRelative id target placement = (true, beside front step anchor back placement) := by
  obtain ⟨j, found⟩ := exists_position? cut.target_mem
  rw [moveRelative, found, cut.position?_source]
  dsimp only
  rw [if_neg cut.apart, cut.eraseIdx_source, cut.position?_anchor, cut.getElem?_source]
  cases placement with
  | before => exact congrArg (true, ·) (insertIdx_length front (anchor :: back) step)
  | after => exact congrArg (true, ·) (insertIdx_succ_length front back step anchor)

/-- The index at which the step is put in is the anchor's or the one after, and so in range. -/
theorem moveInRange?_eq :
    recipe.moveInRange? id target placement =
      some (true, beside front step anchor back placement) := by
  obtain ⟨j, found⟩ := exists_position? cut.target_mem
  have before : front.length ≤ (front ++ anchor :: back).length := by simp
  have after : front.length + 1 ≤ (front ++ anchor :: back).length := by simp
  rw [moveInRange?, found, cut.position?_source]
  dsimp only
  rw [if_neg cut.apart, takeAt?, cut.getElem?_source, cut.eraseIdx_source, Option.map_some]
  simp only [Option.bind_eq_bind, Option.bind_some, cut.position?_anchor, Option.getD_some]
  cases placement with
  | before => rw [putAt?, if_pos before, insertIdx_length]; rfl
  | after => rw [putAt?, if_pos after, insertIdx_succ_length]; rfl

theorem perm : (beside front step anchor back placement).Perm recipe := by
  rw [cut.parts]
  refine (perm_beside front step anchor back).trans ?_
  rw [← cut.others]
  exact List.perm_middle.symm

theorem without_eq : (beside front step anchor back placement).without id = recipe.without id := by
  have others : recipe.without id = without (front ++ anchor :: back) id := by
    rw [cut.parts, without_append, without_cons_of_eq cut.here, ← without_append, cut.others]
  rw [others]
  cases placement with
  | before => simp only [beside, without_append, without_cons_of_eq cut.here]
  | after =>
    have regroup (rest : Recipe) : anchor :: rest = [anchor] ++ rest := rfl
    rw [beside, regroup, regroup back]
    simp only [without_append, without_cons_of_eq cut.here]

/-- A step that is not repeated is what the move is undone by removing. -/
theorem removeStep_beside (distinct : recipe.ids.Nodup) :
    (beside front step anchor back placement).removeStep id = .ok (step, left ++ right) := by
  rw [cut.parts, nodup_ids_iff, cut.here] at distinct
  have absent := distinct.1
  rw [cut.others, ids_append, ids_cons, List.mem_append, not_or, List.mem_cons, not_or] at absent
  rw [cut.others]
  cases placement with
  | before => exact removeStep_of_split cut.here absent.1
  | after =>
    have fresh : id ∉ ids (front ++ [anchor]) := by
      rw [ids_append, List.mem_append, not_or]
      exact ⟨absent.1, fun member => absent.2.1 (List.mem_singleton.mp member)⟩
    have removed : Recipe.removeStep (front ++ [anchor] ++ step :: back) id =
        .ok (step, front ++ [anchor] ++ back) := removeStep_of_split cut.here fresh
    simpa [beside] using removed

end Cut

/-- A move is refused, or is from a step to itself, or goes by the two cuts. -/
theorem moveRelative_cases (recipe : Recipe) (id target : String) (placement : Placement) :
    ((id ∉ recipe.ids ∨ target ∉ recipe.ids) ∧
        recipe.moveRelative id target placement = (false, recipe)) ∨
      (id ∈ recipe.ids ∧ id = target ∧
        recipe.moveRelative id target placement = (true, recipe)) ∨
      (id ∈ recipe.ids ∧ target ∈ recipe.ids ∧ ∃ left step right front anchor back,
        recipe.Cut id target left step right front anchor back) := by
  by_cases known : id ∈ recipe.ids
  · by_cases known' : target ∈ recipe.ids
    · by_cases same : id = target
      · subst same
        obtain ⟨i, found⟩ := exists_position? known
        exact .inr (.inl ⟨known, rfl, (unmoved_of_self found).2 placement⟩)
      · exact .inr (.inr ⟨known, known', exists_cut same known known'⟩)
    · have absent := position?_eq_none_iff_ids.mpr known'
      exact .inl ⟨.inr known', (unmoved_of_unknown (.inr absent)).2 placement⟩
  · have absent := position?_eq_none_iff_ids.mpr known
    exact .inl ⟨.inl known, (unmoved_of_unknown (.inl absent)).2 placement⟩

theorem moveRelative_perm (recipe : Recipe) (id target : String) (placement : Placement) :
    (recipe.moveRelative id target placement).2.Perm recipe := by
  rcases recipe.moveRelative_cases id target placement with
    ⟨-, refused⟩ | ⟨-, -, still⟩ | ⟨-, -, left, step, right, front, anchor, back, cut⟩
  · rw [refused]
  · rw [still]
  · rw [cut.moveRelative_eq]
    exact cut.perm

theorem moveRelative_without (recipe : Recipe) (id target : String) (placement : Placement) :
    (recipe.moveRelative id target placement).2.without id = recipe.without id := by
  rcases recipe.moveRelative_cases id target placement with
    ⟨-, refused⟩ | ⟨-, -, still⟩ | ⟨-, -, left, step, right, front, anchor, back, cut⟩
  · rw [refused]
  · rw [still]
  · rw [cut.moveRelative_eq]
    exact cut.without_eq

/-- A move with its indices tested goes through and gives what the move gives. -/
theorem moveInRange?_eq_moveRelative (recipe : Recipe) (id target : String)
    (placement : Placement) :
    recipe.moveInRange? id target placement = some (recipe.moveRelative id target placement) := by
  rcases recipe.moveRelative_cases id target placement with
    ⟨unknown, refused⟩ | ⟨known, rfl, still⟩ | ⟨-, -, left, step, right, front, anchor, back, cut⟩
  · rw [refused, moveInRange?]
    rcases unknown with absent | absent <;> rw [position?_eq_none_iff_ids.mpr absent]
    cases recipe.position? target <;> rfl
  · obtain ⟨i, found⟩ := exists_position? known
    rw [still, moveInRange?, found]
    dsimp only
    rw [if_pos rfl]
  · rw [cut.moveRelative_eq, cut.moveInRange?_eq]

/-- Where ids are not repeated, a move is refused, and then changes nothing, exactly if one of the
two ids is unknown. Otherwise the step stands next to the other one as asked for, and the recipes
before and after are the same without it; a move of a step to itself changes nothing. Also where ids
are repeated, a move gives the same steps in some order, and all its indices are in range. -/
theorem moveRelative_places (recipe : Recipe) (id target : String) (placement : Placement) :
    let result := recipe.moveRelative id target placement
    (recipe.ids.Nodup →
      (result.1 = false ↔ id ∉ recipe.ids ∨ target ∉ recipe.ids) ∧
        (result.1 = false → result.2 = recipe) ∧
        (id = target → result.2 = recipe) ∧
        (result.1 = true → id ≠ target →
          result.2.NextTo id target placement ∧
            ∃ step others, recipe.removeStep id = .ok (step, others) ∧
              result.2.removeStep id = .ok (step, others))) ∧
      result.2.Perm recipe ∧
      recipe.moveInRange? id target placement = some result := by
  refine ⟨fun distinct => ?_, recipe.moveRelative_perm id target placement,
    recipe.moveInRange?_eq_moveRelative id target placement⟩
  rcases recipe.moveRelative_cases id target placement with
    ⟨unknown, refused⟩ | ⟨known, rfl, still⟩ |
      ⟨known, known', left, step, right, front, anchor, back, cut⟩
  · rw [refused]
    exact ⟨iff_of_true rfl unknown, fun _ => rfl, fun _ => rfl, Bool.noConfusion⟩
  · rw [still]
    exact ⟨iff_of_false Bool.noConfusion (by simp [known]), fun _ => rfl, fun _ => rfl,
      fun _ apart => absurd rfl apart⟩
  · have removed : recipe.removeStep id = .ok (step, left ++ right) := by
      rw [cut.parts]
      exact removeStep_of_split cut.here cut.fresh
    rw [cut.moveRelative_eq]
    refine ⟨iff_of_false Bool.noConfusion (by simp [known, known']),
      Bool.noConfusion, fun same => absurd same cut.apart, fun _ _ => ⟨?_, ?_⟩⟩
    · exact ⟨front, step, anchor, back, cut.here, cut.there, rfl⟩
    · exact ⟨step, left ++ right, removed, cut.removeStep_beside distinct⟩

def meal : Recipe :=
  ["soup", "fish", "cake", "tea"].map fun id => ⟨id, "constant-math", .empty, id⟩

theorem moveRelative_places_meal :
    (meal.ids.Nodup ∧ (meal.moveRelative "soup" "cake" .after).1 = true ∧ "soup" ≠ "cake") ∧
      (meal.moveRelative "soup" "cake" .after).2.NextTo "soup" "cake" .after ∧
      ∃ step others, meal.removeStep "soup" = .ok (step, others) ∧
        (meal.moveRelative "soup" "cake" .after).2.removeStep "soup" = .ok (step, others) := by
  have distinct : meal.ids.Nodup := by decide
  have accepted : (meal.moveRelative "soup" "cake" .after).1 = true := by decide
  have apart : "soup" ≠ "cake" := by decide
  exact ⟨⟨distinct, accepted, apart⟩,
    ((moveRelative_places meal "soup" "cake" .after).1 distinct).2.2.2 accepted apart⟩

end RecipeEngine.Recipe
