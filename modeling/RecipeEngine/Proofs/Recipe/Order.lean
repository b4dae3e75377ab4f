import RecipeEngine.Proofs.Recipe.Moves

namespace RecipeEngine.Recipe

def ids (recipe : Recipe) : List String := recipe.map Step.id

def without (recipe : Recipe) (id : String) : Recipe := recipe.filter fun step => step.id ≠ id

section Ids

variable {recipe left right : Recipe} {step : Step} {id other : String}

theorem mem_ids : id ∈ recipe.ids ↔ ∃ step ∈ recipe, step.id = id := List.mem_map

theorem not_mem_ids : id ∉ recipe.ids ↔ ∀ step ∈ recipe, step.id ≠ id := by
  rw [mem_ids]
  exact ⟨fun absent step member same => absent ⟨step, member, same⟩,
    fun apart ⟨step, member, same⟩ => apart step member same⟩

@[simp] theorem ids_append : ids (left ++ right) = left.ids ++ right.ids := List.map_append

@[simp] theorem ids_cons : ids (step :: right) = step.id :: right.ids := rfl

theorem nodup_ids_iff : (ids (left ++ step :: right)).Nodup ↔
    step.id ∉ ids (left ++ right) ∧ (ids (left ++ right)).Nodup := by
  rw [ids_append, ids_cons, List.perm_middle.nodup_iff, List.nodup_cons, ← ids_append]

theorem position?_eq_none_iff_ids : recipe.position? id = none ↔ id ∉ recipe.ids := by
  rw [position?_eq_none_iff, not_mem_ids]

theorem exists_position? (member : id ∈ recipe.ids) : ∃ i, recipe.position? id = some i :=
  Option.ne_none_iff_exists'.mp fun absent => position?_eq_none_iff_ids.mp absent member

@[simp] theorem without_append : without (left ++ right) id = left.without id ++ right.without id :=
  List.filter_append ..

theorem without_cons_of_eq (same : step.id = id) :
    without (step :: right) id = right.without id :=
  List.filter_cons_of_neg (by simp [same])

theorem mem_ids_without : other ∈ (recipe.without id).ids ↔ other ∈ recipe.ids ∧ other ≠ id := by
  simp only [mem_ids, without, List.mem_filter, decide_eq_true_eq]
  constructor
  · rintro ⟨step, ⟨member, apart⟩, rfl⟩
    exact ⟨⟨step, member, rfl⟩, apart⟩
  · rintro ⟨⟨step, member, rfl⟩, apart⟩
    exact ⟨step, ⟨member, apart⟩, rfl⟩

theorem exists_split_of_mem (member : id ∈ recipe.ids) :
    ∃ (left : Recipe) (step : Step) (right : Recipe),
      recipe = left ++ step :: right ∧ step.id = id ∧ id ∉ left.ids := by
  obtain ⟨i, found⟩ := exists_position? member
  obtain ⟨left, step, right, parts, -, here, fresh⟩ := exists_split found
  exact ⟨left, step, right, parts, here, not_mem_ids.mpr fresh⟩

end Ids

section Found

variable {recipe next left right : Recipe} {step : Step} {id other : String}

/-- The first step with an id is the one that is found. -/
theorem step?_of_split (here : step.id = id) (fresh : id ∉ left.ids) :
    (left ++ step :: right).step? id = some step := by
  have none : left.find? (fun step => decide (step.id = id)) = none :=
    List.find?_eq_none.mpr fun step member same =>
      not_mem_ids.mp fresh step member (of_decide_eq_true same)
  rw [step?, List.find?_append, none, Option.none_or]
  exact List.find?_cons_of_pos (decide_eq_true here)

/-- The first step with an id is the one that is removed. -/
theorem removeStep_of_split (here : step.id = id) (fresh : id ∉ left.ids) :
    (left ++ step :: right).removeStep id = .ok (step, left ++ right) := by
  have place : (left ++ step :: right).position? id = some left.length :=
    position?_of_split here (not_mem_ids.mp fresh)
  rw [removeStep, step?_of_split here fresh, place]
  dsimp only
  rw [eraseIdx_length]

theorem step?_eq_none_iff : recipe.step? id = none ↔ id ∉ recipe.ids := by
  rw [step?, List.find?_eq_none, not_mem_ids]
  exact forall₂_congr fun step _ => by rw [decide_eq_true_eq]

theorem step?_without (apart : other ≠ id) :
    (recipe.without id).step? other = recipe.step? other := by
  rw [step?, without, List.find?_filter, step?]
  congr 1
  funext step
  by_cases here : step.id = other
  · simp [here, apart]
  · simp [here]

/-- A step of a recipe without repeated ids is the one found under its id. -/
theorem step?_of_mem (distinct : recipe.ids.Nodup) (member : step ∈ recipe) :
    recipe.step? step.id = some step := by
  obtain ⟨left, right, rfl⟩ := List.append_of_mem member
  have absent := (nodup_ids_iff.mp distinct).1
  rw [ids_append, List.mem_append, not_or] at absent
  exact step?_of_split rfl absent.1

theorem mem_of_step? (found : recipe.step? id = some step) :
    step ∈ recipe ∧ step.id = id := by
  have named := List.find?_some found
  exact ⟨List.mem_of_find?_eq_some found, of_decide_eq_true named⟩

/-- Where no id is repeated, the order has no say in which step is found. -/
theorem step?_of_perm (distinct : recipe.ids.Nodup) (perm : next.Perm recipe) :
    next.step? id = recipe.step? id := by
  have distinct' : next.ids.Nodup := (perm.map Step.id).nodup_iff.mpr distinct
  refine Option.ext fun step => ⟨fun found => ?_, fun found => ?_⟩
  · obtain ⟨member, rfl⟩ := mem_of_step? found
    exact step?_of_mem distinct (perm.mem_iff.mp member)
  · obtain ⟨member, rfl⟩ := mem_of_step? found
    exact step?_of_mem distinct' (perm.mem_iff.mpr member)

end Found

section Order

variable {recipe next : Recipe} {id first second : String}

/-- One id stands before another where a cut of the recipe has the first with the one on its left
and the first with the other on its right. -/
theorem standsBefore_iff :
    recipe.StandsBefore first second ↔ ∃ left right : Recipe, recipe = left ++ right ∧
      first ∈ left.ids ∧ second ∉ left.ids ∧ second ∈ right.ids := by
  constructor
  · intro before
    obtain ⟨left, one, middle, two, right, ordered⟩ := before.ordered
    refine ⟨left ++ [one], middle ++ two :: right, by simpa using ordered.parts, ?_, ?_, ?_⟩
    · simp [ids, ordered.here]
    · exact not_mem_ids.mpr fun step member => ordered.unseen step (by
        rcases List.mem_append.mp member with earlier | last
        · exact List.mem_append_left _ earlier
        · rw [List.mem_singleton.mp last]
          simp)
    · simp [ids, ordered.there]
  · rintro ⟨left, right, rfl, here, unseen, there⟩
    obtain ⟨front, one, middle, rfl, rfl, fresh⟩ := exists_split_of_mem here
    obtain ⟨rest, two, back, rfl, rfl, fresh'⟩ := exists_split_of_mem there
    have absent : two.id ∉ ids (front ++ one :: middle ++ rest) := by
      rw [ids_append, List.mem_append, not_or]
      exact ⟨unseen, fresh'⟩
    have place : position? (front ++ one :: (middle ++ (rest ++ two :: back))) one.id =
        some front.length := position?_of_split rfl (not_mem_ids.mp fresh)
    have place' : position? (front ++ one :: middle ++ rest ++ two :: back) two.id =
        some (front ++ one :: middle ++ rest).length :=
      position?_of_split rfl (not_mem_ids.mp absent)
    refine ⟨front.length, (front ++ one :: middle ++ rest).length, ?_, ?_, ?_⟩
    · simpa using place
    · simpa using place'
    · simp

theorem position?_eq_findIdx? : recipe.position? id = recipe.ids.findIdx? (· = id) := by
  rw [position?, ids, List.findIdx?_map]
  rfl

theorem standsBefore_congr (same : next.ids = recipe.ids) :
    next.StandsBefore first second ↔ recipe.StandsBefore first second := by
  unfold StandsBefore
  simp only [position?_eq_findIdx?, same]

theorem standsBefore_without (here : first ≠ id) (there : second ≠ id) :
    (recipe.without id).StandsBefore first second ↔ recipe.StandsBefore first second := by
  rw [standsBefore_iff, standsBefore_iff]
  constructor
  · rintro ⟨left, right, parts, before, unseen, after⟩
    obtain ⟨left, right, rfl, rfl, rfl⟩ := List.filter_eq_append_iff.mp parts
    refine ⟨left, right, rfl, (mem_ids_without.mp before).1, ?_, (mem_ids_without.mp after).1⟩
    exact fun member => unseen (mem_ids_without.mpr ⟨member, there⟩)
  · rintro ⟨left, right, rfl, before, unseen, after⟩
    refine ⟨left.without id, right.without id, without_append, mem_ids_without.mpr ⟨before, here⟩,
      ?_, mem_ids_without.mpr ⟨after, there⟩⟩
    exact fun member => unseen (mem_ids_without.mp member).1

end Order

end RecipeEngine.Recipe
