import RecipeEngine.Kitchen.Call
import RecipeEngine.Proofs.Recipe.Placing

namespace RecipeEngine

/-- A call that edits a recipe. An addition comes with the id that is drawn for the new step. -/
inductive Edit where
  | add (registry : Registry) (operation lead id : String)
  | arguments (id : String) (args : Arguments)
  | output (id name : String)
  | remove (id : String)
  | reorder (id target : String)
  | move (id target : String) (placement : Placement)

namespace Edit

def subject : Edit → String
  | .add _ _ _ id => id
  | .arguments id _ => id
  | .output id _ => id
  | .remove id => id
  | .reorder id _ => id
  | .move id _ _ => id

def added? : Edit → Option Step
  | .add registry operation lead id =>
    (registry.get? operation).map fun op =>
      ⟨id, operation, op.defaults, lead ++ Recipe.shortId id⟩
  | _ => none

def drawn? (edit : Edit) : Option String := edit.added?.map Step.id

def moved? : Edit → Option String
  | .reorder id _ => some id
  | .move id _ _ => some id
  | _ => none

/-- The arguments that are put over those of the step with an id. -/
def argumentsFor? (id : String) : Edit → Option Arguments
  | .arguments other args => if other = id then some args else none
  | _ => none

/-- The output name that is configured for the step with an id. -/
def outputFor? (id : String) : Edit → Option String
  | .output other name => if other = id then some name else none
  | _ => none

/-- What an edit makes of the step that it is about. -/
def onSubject (step? : Option Step) : Edit → Option Step
  | .arguments _ args =>
    step?.map fun step => { step with arguments := step.arguments.merge args }
  | .output _ name => step?.map fun step => { step with output := name }
  | .remove _ => none
  | .reorder .. => step?
  | .move .. => step?
  | .add registry operation lead id => (Edit.add registry operation lead id).added?.or step?

def onStep (id : String) (step? : Option Step) (edit : Edit) : Option Step :=
  if edit.subject = id then edit.onSubject step? else step?

end Edit

/-- A reply to a call that did not do what it was to do. -/
def Reply.IsNegative : Reply → Prop
  | .refused _ => True
  | .flag found => found = false
  | _ => False

namespace Recipe

/-- What comes of a call that may be refused, in which case the recipe stays. -/
def settle {α : Type} (recipe : Recipe) (accept : α → Recipe × Reply) :
    Except Failure α → Recipe × Reply
  | .ok a => accept a
  | .error why => (recipe, .refused why)

def perform (recipe : Recipe) : Edit → Recipe × Reply
  | .add registry operation lead id =>
    recipe.settle (fun (step, longer) => (longer, .step step))
      (recipe.addStep registry operation lead id)
  | .arguments id args => recipe.settle (·, .done) (recipe.updateArguments id args)
  | .output id name => recipe.settle (·, .done) (recipe.setOutput id name)
  | .remove id =>
    recipe.settle (fun (step, shorter) => (shorter, .step step)) (recipe.removeStep id)
  | .reorder id target =>
    let (found, next) := recipe.reorder id target
    (next, .flag found)
  | .move id target placement =>
    let (found, next) := recipe.moveRelative id target placement
    (next, .flag found)

section Calls

variable {recipe : Recipe} {id : String}

theorem modifyFirst_of_split {left right : Recipe} {step : Step}
    (change : Step → Step) (here : step.id = id) (fresh : id ∉ left.ids) :
    modifyFirst id change (left ++ step :: right) = left ++ change step :: right := by
  induction left with
  | nil => exact if_pos here
  | cons first rest ih =>
    rw [ids_cons, List.mem_cons, not_or] at fresh
    rw [List.cons_append, modifyFirst, if_neg (Ne.symm fresh.1), ih fresh.2, List.cons_append]

/-- An edit of one step changes the first with the id, or is refused if there is none. -/
theorem edit_cases (recipe : Recipe) (id : String) (change : Step → Step) :
    (id ∉ recipe.ids ∧ recipe.edit id change = .error (.stepNotFound id)) ∨
      ∃ (left : Recipe) (step : Step) (right : Recipe), recipe = left ++ step :: right ∧
        step.id = id ∧ id ∉ left.ids ∧
        recipe.edit id change = .ok (left ++ change step :: right) := by
  by_cases known : id ∈ recipe.ids
  · obtain ⟨left, step, right, rfl, here, fresh⟩ := exists_split_of_mem known
    refine .inr ⟨left, step, right, rfl, here, fresh, ?_⟩
    rw [Recipe.edit, step?_of_split here fresh, modifyFirst_of_split change here fresh]
  · refine .inl ⟨known, ?_⟩
    rw [Recipe.edit, step?_eq_none_iff.mpr known]

theorem addStep_eq (recipe : Recipe) (registry : Registry) (operation lead id : String) :
    recipe.addStep registry operation lead id =
      match (Edit.add registry operation lead id).added? with
      | some step => .ok (step, recipe ++ [step])
      | none => .error (.unknownOperation operation) := by
  rw [addStep, Registry.defaultsFor, Registry.require, Edit.added?]
  cases registry.get? operation <;> rfl

theorem removeStep_of_not_mem (unknown : id ∉ recipe.ids) :
    recipe.removeStep id = .error (.stepNotFound id) := by
  rw [removeStep, step?_eq_none_iff.mpr unknown]

/-- A step dropped on another one goes where it goes when it is placed next to that one. -/
theorem exists_reorder_eq (recipe : Recipe) (id target : String) :
    ∃ placement, recipe.reorder id target = recipe.moveRelative id target placement := by
  by_cases before : recipe.StandsBefore id target
  · obtain ⟨_, _, _, _, _, ordered⟩ := before.ordered
    exact ⟨.after, by rw [ordered.reorder_down, ordered.moveRelative_after]⟩
  · exact ⟨.before, reorder_before before⟩

end Calls

end Recipe

namespace Edit

open Recipe

/-- The ways in which an edit makes one recipe of another. -/
inductive Turns (edit : Edit) : Recipe → Recipe → Prop
  | idle {recipe : Recipe} (adds : edit.added? = none)
      (same : edit.onSubject (recipe.step? edit.subject) = recipe.step? edit.subject) :
      Turns edit recipe recipe
  | added {recipe : Recipe} {step : Step} (adds : edit.added? = some step) :
      Turns edit recipe (recipe ++ [step])
  | changed {left right : Recipe} {step new : Step} (adds : edit.added? = none)
      (here : step.id = edit.subject)
      (fresh : edit.subject ∉ left.ids) (named : new.id = step.id)
      (change : edit.onSubject (some step) = some new) :
      Turns edit (left ++ step :: right) (left ++ new :: right)
  | removed {left right : Recipe} {step : Step} (adds : edit.added? = none)
      (here : step.id = edit.subject)
      (fresh : edit.subject ∉ left.ids) (removes : ∀ step?, edit.onSubject step? = none) :
      Turns edit (left ++ step :: right) (left ++ right)
  | moved {recipe next : Recipe} (adds : edit.added? = none)
      (moves : edit.moved? = some edit.subject)
      (same : ∀ step?, edit.onSubject step? = step?) (perm : next.Perm recipe)
      (others : next.without edit.subject = recipe.without edit.subject) :
      Turns edit recipe next

variable {recipe next : Recipe} {edit : Edit}

theorem turns_edit {id : String} {change : Step → Step} (adds : edit.added? = none)
    (about : edit.subject = id) (named : ∀ step, (change step).id = step.id)
    (changes : ∀ step?, edit.onSubject step? = step?.map change) :
    edit.Turns recipe (recipe.settle (·, .done) (recipe.edit id change)).1 := by
  rcases edit_cases recipe id change with
    ⟨unknown, refused⟩ | ⟨left, step, right, rfl, here, fresh, accepted⟩
  · rw [refused]
    refine .idle adds ?_
    rw [changes, about, step?_eq_none_iff.mpr unknown, Option.map_none]
  · rw [accepted]
    exact .changed adds (here.trans about.symm) (about ▸ fresh) (named step) (changes _)

theorem perform_turns (recipe : Recipe) (edit : Edit) :
    edit.Turns recipe (recipe.perform edit).1 := by
  cases edit with
  | add registry operation lead id =>
    rw [perform, addStep_eq]
    cases adds : (Edit.add registry operation lead id).added? with
    | none =>
      refine .idle adds ?_
      rw [onSubject, adds, Option.none_or]
    | some step => exact .added adds
  | arguments id args => exact turns_edit rfl rfl (fun _ => rfl) fun _ => rfl
  | output id name => exact turns_edit rfl rfl (fun _ => rfl) fun _ => rfl
  | remove id =>
    rw [perform]
    by_cases known : id ∈ recipe.ids
    · obtain ⟨left, step, right, rfl, here, fresh⟩ := exists_split_of_mem known
      rw [removeStep_of_split here fresh]
      exact .removed rfl here fresh fun _ => rfl
    · rw [removeStep_of_not_mem known]
      exact .idle rfl (step?_eq_none_iff.mpr known).symm
  | reorder id target =>
    obtain ⟨placement, same⟩ := recipe.exists_reorder_eq id target
    rw [perform, same]
    exact .moved rfl rfl (fun _ => rfl) (moveRelative_perm ..) (moveRelative_without ..)
  | move id target placement =>
    exact .moved rfl rfl (fun _ => rfl) (moveRelative_perm ..) (moveRelative_without ..)

variable {edit : Edit} {recipe next : Recipe} {id : String}

theorem added?_id {step : Step} (adds : edit.added? = some step) : step.id = edit.subject := by
  unfold added? at adds
  split at adds
  · obtain ⟨op, -, rfl⟩ := Option.map_eq_some_iff.mp adds
    rfl
  · cases adds

theorem onSubject_added {step : Step} (adds : edit.added? = some step) (step? : Option Step) :
    edit.onSubject step? = some step := by
  cases edit with
  | add => rw [onSubject, adds, Option.some_or]
  | _ => cases adds

theorem argumentsFor?_of_ne (apart : edit.subject ≠ id) : edit.argumentsFor? id = none := by
  cases edit with
  | arguments => exact if_neg apart
  | _ => rfl

theorem outputFor?_of_ne (apart : edit.subject ≠ id) : edit.outputFor? id = none := by
  cases edit with
  | output => exact if_neg apart
  | _ => rfl

namespace Turns

/-- The steps with other ids stay as they are, one after the other. -/
theorem without_eq (turns : edit.Turns recipe next) :
    next.without edit.subject = recipe.without edit.subject := by
  cases turns with
  | idle => rfl
  | added adds =>
    rw [without_append, without_cons_of_eq (added?_id adds)]
    exact List.append_nil _
  | changed _ here _ named _ =>
    rw [without_append, without_append, without_cons_of_eq here,
      without_cons_of_eq (named.trans here)]
  | removed _ here _ _ => rw [without_append, without_append, without_cons_of_eq here]
  | moved _ _ _ _ others => exact others

theorem mem_ids (turns : edit.Turns recipe next) (member : id ∈ next.ids) :
    id ∈ recipe.ids ∨ edit.drawn? = some id := by
  cases turns with
  | idle => exact .inl member
  | added adds =>
    rw [ids_append, List.mem_append] at member
    refine member.imp_right fun last => ?_
    rw [drawn?, adds, List.mem_singleton.mp last]
    rfl
  | changed _ _ _ named _ =>
    rw [ids_append, ids_cons, named] at member
    exact .inl (by simpa using member)
  | removed _ _ _ _ =>
    rw [ids_append, List.mem_append] at member
    rw [ids_append, ids_cons, List.mem_append]
    exact .inl (member.imp_right (List.mem_cons_of_mem _))
  | moved _ _ _ perm _ => exact .inl ((perm.map Step.id).mem_iff.mp member)

variable (fresh : (recipe.ids ++ edit.drawn?.toList).Nodup)

include fresh

theorem nodup_ids (turns : edit.Turns recipe next) : next.ids.Nodup := by
  have distinct := (List.nodup_append.mp fresh).1
  cases turns with
  | idle => exact distinct
  | added adds =>
    rw [drawn?, adds] at fresh
    exact ids_append ▸ fresh
  | changed _ _ _ named _ =>
    rw [ids_append, ids_cons] at distinct
    rw [ids_append, ids_cons, named]
    exact distinct
  | removed _ _ _ _ => exact (nodup_ids_iff.mp distinct).2
  | moved _ _ _ perm _ => exact (perm.map Step.id).nodup_iff.mpr distinct

theorem not_mem_of_added {step : Step} (adds : edit.added? = some step) :
    edit.subject ∉ recipe.ids := by
  rw [drawn?, adds] at fresh
  rw [← added?_id adds]
  exact fun member => (List.nodup_append.mp fresh).2.2 _ member _ (List.mem_singleton_self _) rfl

/-- Each step becomes what the edit makes of the step with its id. -/
theorem step?_eq (turns : edit.Turns recipe next) (id : String) :
    next.step? id = edit.onStep id (recipe.step? id) := by
  have distinct := (List.nodup_append.mp fresh).1
  unfold onStep
  by_cases about : edit.subject = id
  · subst about
    rw [if_pos rfl]
    cases turns with
    | idle _ same => exact same.symm
    | added adds =>
      have unknown := not_mem_of_added fresh adds
      rw [step?_of_split (added?_id adds) unknown, onSubject_added adds]
    | changed _ here unseen named change =>
      rw [step?_of_split (named.trans here) unseen, step?_of_split here unseen, change]
    | removed _ here _ removes =>
      rw [removes, step?_eq_none_iff]
      rw [nodup_ids_iff, here] at distinct
      exact distinct.1
    | moved _ _ same perm _ => rw [same, step?_of_perm distinct perm]
  · -- A step with another id is among those that the edit leaves as they are.
    rw [if_neg about, ← step?_without (Ne.symm about), turns.without_eq,
      step?_without (Ne.symm about)]

/-- Two steps that stay, and of which none is moved, keep their order. -/
theorem standsBefore_iff (turns : edit.Turns recipe next) {first second : String}
    (here : first ∈ recipe.ids ∧ first ∈ next.ids) (there : second ∈ recipe.ids ∧ second ∈ next.ids)
    (still : edit.moved? ≠ some first) (still' : edit.moved? ≠ some second) :
    next.StandsBefore first second ↔ recipe.StandsBefore first second := by
  have aside (apart : first ≠ edit.subject) (apart' : second ≠ edit.subject) :
      next.StandsBefore first second ↔ recipe.StandsBefore first second := by
    rw [← standsBefore_without apart apart', turns.without_eq, standsBefore_without apart apart']
  have distinct := (List.nodup_append.mp fresh).1
  cases turns with
  | idle => rfl
  | added adds =>
    have unknown := not_mem_of_added fresh adds
    exact aside (fun same => unknown (same ▸ here.1)) fun same => unknown (same ▸ there.1)
  | changed _ _ _ named _ => exact standsBefore_congr (by simp [named])
  | removed _ at' _ _ =>
    rw [nodup_ids_iff, at'] at distinct
    exact aside (fun same => distinct.1 (same ▸ here.2)) fun same => distinct.1 (same ▸ there.2)
  | moved _ moves _ _ _ =>
    exact aside (fun same => still (same ▸ moves)) fun same => still' (same ▸ moves)

end Turns

end Edit

namespace Recipe

theorem settle_of_negative {α : Type} {recipe : Recipe} {accept : α → Recipe × Reply}
    {outcome : Except Failure α} (positive : ∀ a, ¬ (accept a).2.IsNegative)
    (negative : (recipe.settle accept outcome).2.IsNegative) :
    (recipe.settle accept outcome).1 = recipe := by
  cases outcome with
  | ok a => exact absurd negative (positive a)
  | error why => rfl

theorem moveRelative_of_false {recipe : Recipe} {id target : String} {placement : Placement}
    (refused : (recipe.moveRelative id target placement).1 = false) :
    (recipe.moveRelative id target placement).2 = recipe := by
  rcases recipe.moveRelative_cases id target placement with
    ⟨-, unmoved⟩ | ⟨-, -, still⟩ | ⟨-, -, left, step, right, front, anchor, back, cut⟩
  · rw [unmoved]
  · rw [still]
  · rw [cut.moveRelative_eq] at refused
    cases refused

/-- A call that is refused or finds nothing to move leaves the recipe as it is. -/
theorem perform_of_negative {recipe : Recipe} {edit : Edit}
    (negative : (recipe.perform edit).2.IsNegative) : (recipe.perform edit).1 = recipe := by
  cases edit with
  | add registry operation lead id => exact settle_of_negative (fun _ => False.elim) negative
  | arguments id args => exact settle_of_negative (fun _ => False.elim) negative
  | output id name => exact settle_of_negative (fun _ => False.elim) negative
  | remove id => exact settle_of_negative (fun _ => False.elim) negative
  | reorder id target =>
    obtain ⟨placement, same⟩ := recipe.exists_reorder_eq id target
    rw [perform, same] at negative ⊢
    exact moveRelative_of_false negative
  | move id target placement => exact moveRelative_of_false negative

end Recipe

end RecipeEngine
