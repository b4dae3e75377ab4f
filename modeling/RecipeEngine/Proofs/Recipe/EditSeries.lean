import RecipeEngine.Proofs.Recipe.Edits

namespace RecipeEngine

/-- What becomes of a step by some edits: its operation stays, its arguments have those of the edits
with its id put over them name by name, and its output is the last one that an edit with its id
configures. -/
structure Step.Evolves (edits : List Edit) (was now : Step) : Prop where
  operation : now.operation = was.operation
  arguments : ∀ name, now.arguments.get? name =
    (edits.filterMap (Edit.argumentsFor? was.id)).foldl
      (fun bound args => (args.get? name).or bound) (was.arguments.get? name)
  output : now.output = (edits.filterMap (Edit.outputFor? was.id)).getLast?.getD was.output

namespace Recipe

def performAll (recipe : Recipe) (edits : List Edit) : Recipe :=
  edits.foldl (fun now edit => (now.perform edit).1) recipe

/-- No id is repeated among those of the steps and those drawn for new ones. -/
def Fresh (recipe : Recipe) (edits : List Edit) : Prop :=
  (recipe.ids ++ edits.filterMap Edit.drawn?).Nodup

variable {recipe : Recipe} {edit : Edit} {edits : List Edit}

theorem drawn_cons (edit : Edit) (edits : List Edit) :
    (edit :: edits).filterMap Edit.drawn? = edit.drawn?.toList ++ edits.filterMap Edit.drawn? := by
  rw [List.filterMap_cons]
  cases edit.drawn? <;> rfl

theorem fresh_cons : recipe.Fresh (edit :: edits) ↔
    (recipe.ids ++ edit.drawn?.toList ++ edits.filterMap Edit.drawn?).Nodup := by
  rw [Fresh, drawn_cons, List.append_assoc]

theorem Fresh.first (fresh : recipe.Fresh (edit :: edits)) :
    (recipe.ids ++ edit.drawn?.toList).Nodup :=
  (List.nodup_append.mp (fresh_cons.mp fresh)).1

/-- What is new to a recipe and its edits is new also after the first of them. -/
theorem Fresh.rest (fresh : recipe.Fresh (edit :: edits)) :
    (recipe.perform edit).1.Fresh edits := by
  have turns := edit.perform_turns recipe
  obtain ⟨-, drawn, apart⟩ := List.nodup_append.mp (fresh_cons.mp fresh)
  refine List.nodup_append.mpr ⟨turns.nodup_ids fresh.first, drawn, fun id member => ?_⟩
  refine apart id (List.mem_append.mpr ?_)
  exact (turns.mem_ids member).imp_right Option.mem_toList.mpr

theorem Fresh.performAll {later : List Edit} (fresh : recipe.Fresh (edits ++ later)) :
    (recipe.performAll edits).Fresh later := by
  induction edits generalizing recipe with
  | nil => exact fresh
  | cons edit rest ih => exact ih fresh.rest

theorem mem_ids_performAll {id : String} (member : id ∈ (recipe.performAll edits).ids) :
    id ∈ recipe.ids ∨ id ∈ edits.filterMap Edit.drawn? := by
  induction edits generalizing recipe with
  | nil => exact .inl member
  | cons edit rest ih =>
    rw [drawn_cons, List.mem_append, Option.mem_toList, ← or_assoc]
    exact (ih member).imp_left (edit.perform_turns recipe).mem_ids

/-- What becomes of the step with an id is the work of the edits with that id. -/
theorem step?_performAll (fresh : recipe.Fresh edits) (id : String) :
    (recipe.performAll edits).step? id = edits.foldl (Edit.onStep id) (recipe.step? id) := by
  induction edits generalizing recipe with
  | nil => rfl
  | cons edit rest ih =>
    rw [List.foldl_cons, ← (edit.perform_turns recipe).step?_eq fresh.first]
    exact ih fresh.rest

/-- Two steps that stay, and of which none is moved, keep their order. -/
theorem standsBefore_performAll (fresh : recipe.Fresh edits) {first second : String}
    (here : first ∈ recipe.ids ∧ first ∈ (recipe.performAll edits).ids)
    (there : second ∈ recipe.ids ∧ second ∈ (recipe.performAll edits).ids)
    (still : ∀ edit ∈ edits, edit.moved? ≠ some first ∧ edit.moved? ≠ some second) :
    (recipe.performAll edits).StandsBefore first second ↔ recipe.StandsBefore first second := by
  induction edits generalizing recipe with
  | nil => rfl
  | cons edit rest ih =>
    -- A step that is there at the end is there on the way, since its id is not drawn again.
    have onTheWay {id : String} (member : id ∈ recipe.ids)
        (last : id ∈ (recipe.performAll (edit :: rest)).ids) :
        id ∈ (recipe.perform edit).1.ids := by
      have late : id ∈ ((recipe.perform edit).1.performAll rest).ids := last
      refine (mem_ids_performAll late).resolve_right fun drawn => ?_
      have apart := (List.nodup_append.mp (fresh_cons.mp fresh)).2.2
      exact apart id (List.mem_append_left _ member) id drawn rfl
    have middle := onTheWay here.1 here.2
    have middle' := onTheWay there.1 there.2
    obtain ⟨now, now'⟩ := still edit List.mem_cons_self
    have one := (edit.perform_turns recipe).standsBefore_iff fresh.first ⟨here.1, middle⟩
      ⟨there.1, middle'⟩ now now'
    have others := ih fresh.rest ⟨middle, here.2⟩ ⟨middle', there.2⟩ fun later member =>
      still later (List.mem_cons_of_mem _ member)
    exact others.trans one

end Recipe

namespace Step.Evolves

variable {edit : Edit} {edits : List Edit} {was now : Step}

theorem refl (step : Step) : step.Evolves [] step := ⟨rfl, fun _ => rfl, rfl⟩

/-- An edit that is none of the step's arguments and output leaves it as it is. -/
theorem aside (noArguments : edit.argumentsFor? was.id = none)
    (noOutput : edit.outputFor? was.id = none) (evolves : was.Evolves edits now) :
    was.Evolves (edit :: edits) now where
  operation := evolves.operation
  arguments := by
    rw [List.filterMap_cons_none noArguments]
    exact evolves.arguments
  output := by
    rw [List.filterMap_cons_none noOutput]
    exact evolves.output

theorem merged {id : String} (here : was.id = id) (args : Arguments)
    (evolves : Evolves edits { was with arguments := was.arguments.merge args } now) :
    was.Evolves (.arguments id args :: edits) now where
  operation := evolves.operation
  arguments := fun name => by
    have own : (Edit.arguments id args).argumentsFor? was.id = some args := if_pos here.symm
    rw [List.filterMap_cons_some own, List.foldl_cons, ← NameMap.get?_overlay]
    exact evolves.arguments name
  output := by
    rw [List.filterMap_cons_none rfl]
    exact evolves.output

theorem configured {id : String} (here : was.id = id) (name : String)
    (evolves : Evolves edits { was with output := name } now) :
    was.Evolves (.output id name :: edits) now where
  operation := evolves.operation
  arguments := by
    rw [List.filterMap_cons_none rfl]
    exact evolves.arguments
  output := by
    have own : (Edit.output id name).outputFor? was.id = some name := if_pos here.symm
    rw [List.filterMap_cons_some own, List.getLast?_cons, Option.getD_some]
    exact evolves.output

theorem kept (evolves : was.Evolves edits now) {name : String} {value : Json}
    (bound : was.arguments.get? name = some value) :
    ∃ last, now.arguments.get? name = some last := by
  rw [evolves.arguments, bound]
  clear bound
  induction edits.filterMap (Edit.argumentsFor? was.id) generalizing value with
  | nil => exact ⟨value, rfl⟩
  | cons args rest ih =>
    rw [List.foldl_cons]
    cases args.get? name with
    | none => exact ih
    | some next => exact ih

/-- The step that is found in the end under an id that is not drawn on the way was there, and became
what it is by the edits with its id. -/
theorem of_foldl_onStep {id : String} {step? : Option Step}
    (undrawn : id ∉ edits.filterMap Edit.drawn?)
    (last : edits.foldl (Edit.onStep id) step? = some now) :
    ∃ was, step? = some was ∧ (was.id = id → was.Evolves edits now) := by
  induction edits generalizing step? with
  | nil => exact ⟨now, last, fun _ => refl now⟩
  | cons edit rest ih =>
    -- `middle` is what the first edit leaves under the id; the cases ask what that edit was.
    rw [Recipe.drawn_cons, List.mem_append, not_or] at undrawn
    obtain ⟨middle, given, evolves⟩ := ih undrawn.2 last
    by_cases about : edit.subject = id
    · rw [Edit.onStep, if_pos about] at given
      cases edit with
      | add registry operation lead other =>
        cases adds : (Edit.add registry operation lead other).added? with
        | none =>
          rw [Edit.onSubject, adds, Option.none_or] at given
          exact ⟨middle, given, fun here => (evolves here).aside rfl rfl⟩
        | some step =>
          have drawn : (Edit.add registry operation lead other).drawn? = some id := by
            rw [Edit.drawn?, adds, Option.map_some, Edit.added?_id adds, about]
          exact absurd (Option.mem_toList.mpr drawn) undrawn.1
      | arguments other args =>
        obtain ⟨was, found, rfl⟩ := Option.map_eq_some_iff.mp given
        exact ⟨was, found, fun here => (evolves here).merged (here.trans about.symm) args⟩
      | output other name =>
        obtain ⟨was, found, rfl⟩ := Option.map_eq_some_iff.mp given
        exact ⟨was, found, fun here => (evolves here).configured (here.trans about.symm) name⟩
      | remove other => cases given
      | reorder other target => exact ⟨middle, given, fun here => (evolves here).aside rfl rfl⟩
      | move other target placement =>
        exact ⟨middle, given, fun here => (evolves here).aside rfl rfl⟩
    · rw [Edit.onStep, if_neg about] at given
      refine ⟨middle, given, fun here => (evolves here).aside ?_ ?_⟩
      · exact Edit.argumentsFor?_of_ne (here ▸ about)
      · exact Edit.outputFor?_of_ne (here ▸ about)

end Step.Evolves

namespace Recipe

/-- Between any two moments of a series of edits that draws new ids: a call that is refused changes
nothing; no id is repeated; what is found under an id comes of what was found there by the edits
with that id, which never change an operation and put arguments over the former ones without losing
any; an id that is gone does not come back; and two steps change their order only if one of them is
moved. -/
theorem edits_keep_steps {recipe : Recipe} {earlier later : List Edit}
    (fresh : recipe.Fresh (earlier ++ later)) :
    let was := recipe.performAll earlier
    let now := recipe.performAll (earlier ++ later)
    (∀ edit, (was.perform edit).2.IsNegative → (was.perform edit).1 = was) ∧
      now.ids.Nodup ∧
      (∀ id, now.step? id = later.foldl (Edit.onStep id) (was.step? id)) ∧
      (∀ before ∈ was, ∀ after ∈ now, after.id = before.id →
        before.Evolves later after ∧ ∀ name value, before.arguments.get? name = some value →
          ∃ last, after.arguments.get? name = some last) ∧
      (∀ id ∈ recipe.ids ++ earlier.filterMap Edit.drawn?, id ∉ was.ids → id ∉ now.ids) ∧
      ∀ first second, first ∈ was.ids ∧ first ∈ now.ids → second ∈ was.ids ∧ second ∈ now.ids →
        (∀ edit ∈ later, edit.moved? ≠ some first ∧ edit.moved? ≠ some second) →
        (now.StandsBefore first second ↔ was.StandsBefore first second) := by
  have freshLater := fresh.performAll
  have split : recipe.performAll (earlier ++ later) =
      (recipe.performAll earlier).performAll later := List.foldl_append
  have distinct : (recipe.performAll earlier).ids.Nodup := (List.nodup_append.mp freshLater).1
  obtain ⟨-, -, apart⟩ := List.nodup_append.mp freshLater
  rw [split]
  generalize recipe.performAll earlier = was at *
  have distinctLast : (was.performAll later).ids.Nodup := by
    have whole : was.Fresh (later ++ []) := by rwa [List.append_nil]
    exact (List.nodup_append.mp whole.performAll).1
  refine ⟨fun edit => perform_of_negative, distinctLast, step?_performAll freshLater,
    fun before member after member' same => ?_, fun id known gone last => ?_,
    fun first second => standsBefore_performAll freshLater⟩
  · -- Neither recipe repeats an id, so both steps are the ones found under their common id.
    have undrawn : before.id ∉ later.filterMap Edit.drawn? := fun drawn =>
      apart before.id (List.mem_map_of_mem member) before.id drawn rfl
    have found := step?_of_mem distinctLast member'
    rw [same, step?_performAll freshLater, step?_of_mem distinct member] at found
    obtain ⟨origin, here, evolves⟩ := Step.Evolves.of_foldl_onStep undrawn found
    cases Option.some.inj here
    exact ⟨evolves rfl, fun name value => (evolves rfl).kept⟩
  · have drawn := (mem_ids_performAll last).resolve_left gone
    rw [Fresh, List.filterMap_append, ← List.append_assoc] at fresh
    exact (List.nodup_append.mp fresh).2.2 id known id drawn rfl

def mealChanged : List Edit :=
  [.add .builtin "op_sort_rows" "var_" "0a1b2c3d-4e5f", .remove "fish"]

/-- A soup with an argument, a cake served first, and a course that is not there. -/
def mealServed : List Edit :=
  [.arguments "soup" (NameMap.ofList [("expression", .text "2")]), .reorder "cake" "soup",
   .output "fish" "trout"]

theorem edits_keep_steps_meal :
    let was := meal.performAll mealChanged
    let now := meal.performAll (mealChanged ++ mealServed)
    (meal.Fresh (mealChanged ++ mealServed) ∧ "fish" ∈ meal.ids ∧ "fish" ∉ was.ids ∧
        ("soup" ∈ was.ids ∧ "soup" ∈ now.ids) ∧ ("tea" ∈ was.ids ∧ "tea" ∈ now.ids) ∧
        ∀ edit ∈ mealServed, edit.moved? ≠ some "soup" ∧ edit.moved? ≠ some "tea") ∧
      now.ids.Nodup ∧ "fish" ∉ now.ids ∧
      (now.StandsBefore "soup" "tea" ↔ was.StandsBefore "soup" "tea") := by
  have fresh : meal.Fresh (mealChanged ++ mealServed) := by
    unfold Fresh
    decide
  have gone : "fish" ∉ (meal.performAll mealChanged).ids := by decide
  have soup : "soup" ∈ (meal.performAll mealChanged).ids ∧
      "soup" ∈ (meal.performAll (mealChanged ++ mealServed)).ids := by decide
  have tea : "tea" ∈ (meal.performAll mealChanged).ids ∧
      "tea" ∈ (meal.performAll (mealChanged ++ mealServed)).ids := by decide
  have still : ∀ edit ∈ mealServed, edit.moved? ≠ some "soup" ∧ edit.moved? ≠ some "tea" := by
    decide
  obtain ⟨-, distinct, -, -, forgotten, ordered⟩ := edits_keep_steps fresh
  exact ⟨⟨fresh, by decide, gone, soup, tea, still⟩, distinct,
    forgotten "fish" (by decide) gone, ordered "soup" "tea" soup tea still⟩

end Recipe

end RecipeEngine
