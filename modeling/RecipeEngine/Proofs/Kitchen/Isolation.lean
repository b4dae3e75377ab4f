import RecipeEngine.Kitchen.Call
import RecipeEngine.Proofs.Kitchen.TakeOver

namespace RecipeEngine

namespace Call

/-- The calls that are refused while a run is in progress. -/
def needsIdle : Call → Bool
  | .load .. | .setVariable .. | .removeVariable .. | .updateScalar .. | .updateCell ..
  | .updateCellText .. | .clearVariables | .bake .. => true
  | .addStep .. | .updateArguments .. | .setOutput .. | .removeStep .. | .moveStep ..
  | .reorder .. | .reset | .inspect => false

def isReset : Call → Bool
  | .reset => true
  | _ => false

/-- The recipe after a call during a run: the recipe edits change it where they are accepted. -/
def edit (registry : Registry) (lead : String) (recipe : Recipe) : Call → Recipe
  | .addStep operation id =>
    match recipe.addStep registry operation lead id with
    | .ok (_, edited) => edited
    | .error _ => recipe
  | .updateArguments id args =>
    match recipe.updateArguments id args with
    | .ok edited => edited
    | .error _ => recipe
  | .setOutput id output =>
    match recipe.setOutput id output with
    | .ok edited => edited
    | .error _ => recipe
  | .removeStep id =>
    match recipe.removeStep id with
    | .ok (_, edited) => edited
    | .error _ => recipe
  | .moveStep id target placement => (recipe.moveRelative id target placement).2
  | .reorder id target => (recipe.reorder id target).2
  | _ => recipe

end Call

/-- A call and the kitchen on which it is made. -/
structure Moment where
  kitchen : Kitchen
  call : Call

namespace Moment

def next (moment : Moment) : Kitchen := (moment.kitchen.perform moment.call).1

def reply (moment : Moment) : Reply := (moment.kitchen.perform moment.call).2

end Moment

namespace Kitchen

def moments : Kitchen → List Call → List Moment
  | _, [] => []
  | k, call :: rest => ⟨k, call⟩ :: (k.perform call).1.moments rest

def disturbed (k : Kitchen) (calls : List Call) : Kitchen :=
  { k with
    recipe := calls.foldl (Call.edit k.baker.registry k.baker.config.lead) k.recipe
    environment := if calls.any Call.isReset then NameMap.empty else k.environment
    log := if calls.any Call.isReset then [] else k.log }

theorem disturbed_append (k : Kitchen) (former later : List Call) :
    (k.disturbed former).disturbed later = k.disturbed (former ++ later) := by
  simp only [disturbed, List.foldl_append, List.any_append]
  cases later.any Call.isReset <;> simp

section Running

variable {k : Kitchen} (running : k.isRunning = true)

include running

theorem whileIdle_running {α : Type} (edit : Except Failure α) :
    k.whileIdle edit = .error .runInProgress := by
  rw [whileIdle, if_pos running]

theorem bake_running (clock : Clock) : k.bake clock = .error .runInProgress := by
  unfold bake
  have refused : k.baker.begin = .error .runInProgress := if_pos running
  split
  · rename_i why accepted
    rw [← Except.error.inj (refused.symm.trans accepted)]
  · rename_i held accepted
    rw [refused] at accepted
    cases accepted

theorem perform_guarded {call : Call} (guarded : call.needsIdle = true) :
    k.perform call = (k, .refused .runInProgress) := by
  cases call <;> cases guarded <;>
    simp only [perform, load, setVariable, removeVariable, updateScalar, updateCellText, updateCell,
      clearVariables, whileIdle_running running, bake_running running, acknowledge, answer]

theorem perform_running (call : Call) : (k.perform call).1 = k.disturbed [call] := by
  by_cases guarded : call.needsIdle = true
  · rw [perform_guarded running guarded]
    cases call <;> first | rfl | cases guarded
  · cases call with
    | addStep operation id =>
      simp only [perform, addStep, disturbed, Call.edit, List.foldl]
      cases k.recipe.addStep k.baker.registry operation k.baker.config.lead id <;> rfl
    | updateArguments id args =>
      simp only [perform, updateArguments, disturbed, Call.edit, List.foldl]
      cases k.recipe.updateArguments id args <;> rfl
    | setOutput id output =>
      simp only [perform, setOutput, disturbed, Call.edit, List.foldl]
      cases k.recipe.setOutput id output <;> rfl
    | removeStep id =>
      simp only [perform, removeStep, disturbed, Call.edit, List.foldl]
      cases k.recipe.removeStep id <;> rfl
    | moveStep id target placement => rfl
    | reorder id target => rfl
    | reset => rfl
    | inspect => rfl
    | load | setVariable | removeVariable | updateScalar | updateCell | updateCellText
    | clearVariables | bake => exact absurd rfl guarded

theorem disturbed_running (calls : List Call) : (k.disturbed calls).isRunning = true := running

end Running

theorem performAll_running {k : Kitchen} (running : k.isRunning = true) (calls : List Call) :
    k.performAll calls = (k.disturbed calls, (k.moments calls).map Moment.reply) ∧
      (k.moments calls).map Moment.call = calls ∧
      ∀ moment ∈ k.moments calls, moment.kitchen.isRunning = true := by
  induction calls generalizing k with
  | nil => exact ⟨rfl, rfl, fun _ member => absurd member List.not_mem_nil⟩
  | cons call rest ih =>
    have here := perform_running running call
    obtain ⟨performed, made, held⟩ := ih (disturbed_running running [call])
    refine ⟨?_, ?_, ?_⟩
    · simp only [performAll, moments, List.map_cons, here, performed]
      rw [disturbed_append]
      rfl
    · simp only [moments, List.map_cons, here, made]
    · intro moment member
      rcases List.mem_cons.mp member with rfl | later
      · exact running
      · rw [here] at later
        exact held moment later

namespace Busy

def stepCalls (registry : Registry) (calls : List Call) (step : Step) : List Call :=
  if registry.contains step.operation then calls else []

/-- The moments of the calls made during the steps of a recipe. -/
def moments (registry : Registry) (config : Config) (clock : Clock) (calls : Nat → List Call) :
    Nat → Busy → Recipe → List Moment
  | _, _, [] => []
  | position, busy, step :: rest =>
    let next := busy.advance registry config clock (calls position) step
    busy.kitchen.moments (stepCalls registry (calls position) step) ++
      if next.outcome.report.isSuccess then
        moments registry config clock calls (position + 1) next rest
      else []

variable (registry : Registry) (config : Config) (clock : Clock) (calls : Nat → List Call)

/-- A step comes out as it would without the calls, which do to the kitchen what they do to any
kitchen with a run in progress. -/
theorem advance_running (made : List Call) (step : Step) {busy : Busy}
    (running : busy.kitchen.isRunning = true) :
    busy.advance registry config clock made step =
      ⟨busy.outcome.advance registry config clock step,
        busy.kitchen.disturbed (stepCalls registry made step),
        busy.replies ++
          (busy.kitchen.moments (stepCalls registry made step)).map Moment.reply⟩ := by
  have performed := (performAll_running running (stepCalls registry made step)).1
  unfold stepCalls at performed ⊢
  unfold advance
  rw [performed]

theorem follow_running (recipe : Recipe) (position : Nat) (busy : Busy)
    (running : busy.kitchen.isRunning = true) :
    let made := moments registry config clock calls position busy recipe
    Busy.follow registry config clock calls position busy recipe =
        ⟨Outcome.follow registry config clock busy.outcome recipe,
          busy.kitchen.disturbed (made.map Moment.call), busy.replies ++ made.map Moment.reply⟩ ∧
      ∀ moment ∈ made, moment.kitchen.isRunning = true := by
  induction recipe generalizing position busy with
  | nil =>
    refine ⟨?_, fun _ member => absurd member List.not_mem_nil⟩
    simp [Busy.follow, moments, Outcome.follow, disturbed]
  | cons step rest ih =>
    obtain ⟨-, here, held⟩ :=
      performAll_running running (stepCalls registry (calls position) step)
    have next := advance_running registry config clock (calls position) step running
    obtain ⟨followed, heldLater⟩ := ih (position + 1)
      (busy.advance registry config clock (calls position) step)
      (by rw [next]; exact disturbed_running running _)
    simp only [Busy.follow, moments, Outcome.follow]
    rw [followed, next]
    cases (busy.outcome.advance registry config clock step).report.isSuccess with
    | false =>
      simp only [Bool.false_eq_true, if_false, List.append_nil, here, true_and]
      exact held
    | true =>
      simp only [if_true, disturbed_append, List.map_append, here, List.append_assoc, true_and]
      intro moment member
      rcases List.mem_append.mp member with now | later
      · exact held moment now
      · exact heldLater moment (next ▸ later)

theorem moments_quiet (recipe : Recipe) (position : Nat) (busy : Busy) :
    moments registry config clock (fun _ => []) position busy recipe = [] := by
  induction recipe generalizing position busy with
  | nil => rfl
  | cons step rest ih => simp [moments, stepCalls, Kitchen.moments, ih]

end Busy

def underway (k : Kitchen) : Kitchen :=
  { k with baker := { k.baker with running := true } }

/-- The moments of the calls that operations make on the kitchen that runs them. -/
def momentsDuring (k : Kitchen) (clock : Clock) (calls : Nat → List Call) : List Moment :=
  Busy.moments k.baker.registry k.baker.config clock calls 0
    ⟨.start k.environment, k.underway, []⟩ k.recipe

theorem momentsDuring_running {k : Kitchen} {clock : Clock} {calls : Nat → List Call} :
    ∀ moment ∈ k.momentsDuring clock calls, moment.kitchen.isRunning = true :=
  (Busy.follow_running _ _ _ _ _ _ _ rfl).2

theorem bakeDuring_eq {k : Kitchen} (idle : k.isRunning = false) (clock : Clock)
    (calls : Nat → List Call) :
    let made := k.momentsDuring clock calls
    let o := k.recipe.bake k.baker.registry k.baker.config clock k.environment
    k.bakeDuring clock calls =
      .ok (o.report, made.map Moment.reply,
        (k.underway.disturbed (made.map Moment.call)).finish o) := by
  have accepted : k.baker.begin = .ok k.underway.baker := if_neg (Bool.eq_false_iff.mp idle)
  have followed := (Busy.follow_running k.baker.registry k.baker.config clock calls k.recipe 0
    ⟨.start k.environment, k.underway, []⟩ rfl).1
  unfold bakeDuring
  rw [accepted]
  exact congrArg (fun busy : Busy => Except.ok (busy.outcome.report, busy.replies,
    busy.kitchen.finish busy.outcome)) followed

/-- A run during which no calls are made is an ordinary run. -/
theorem bakeDuring_quiet {k : Kitchen} (idle : k.isRunning = false) (clock : Clock) :
    k.bakeDuring clock (fun _ => []) =
      (k.bake clock).map fun (report, last) => (report, [], last) := by
  rw [bakeDuring_eq idle, bake_idle idle, momentsDuring, Busy.moments_quiet]
  obtain ⟨⟨registry, config, running⟩, recipe, env, log⟩ := k
  cases idle
  simp only [Except.map, List.map_nil, finish, disturbed, underway, Baker.finish, after,
    List.any_nil, List.foldl_nil, Bool.false_eq_true, if_false,
    takeOver_undisturbed (recipe.bake_cameFrom env)]

theorem takeOver_disturbed {k : Kitchen} {o : Outcome} (origin : o.CameFrom k.environment)
    (calls : List Call) :
    takeOver (k.disturbed calls).environment o =
      if calls.any Call.isReset then
        o.environment.filter fun name _ => o.report.committed.contains name
      else o.environment := by
  cases reset : calls.any Call.isReset with
  | false => simp only [disturbed, reset, Bool.false_eq_true, if_false, takeOver_undisturbed origin]
  | true => simp only [disturbed, reset, if_true, takeOver_cleared]

/-- A run during which operations make arbitrary calls on their own kitchen. Whatever the calls are
chosen from, they are some calls, so this covers operations that go by the replies they got. -/
theorem bakeDuring_isolated {k : Kitchen} (idle : k.isRunning = false) (clock : Clock)
    (calls : Nat → List Call) :
    ∃ last : Kitchen,
      let made := k.momentsDuring clock calls
      let o := k.underway.baker.bakeWith rfl clock k.recipe k.environment
      k.bakeDuring clock calls = .ok (o.report, made.map Moment.reply, last) ∧
        (∀ moment ∈ made, moment.call.needsIdle = true →
          moment.reply = .refused .runInProgress ∧ moment.next = moment.kitchen) ∧
        last.environment =
          (if made.any fun moment => moment.call.isReset then
            o.environment.filter fun name _ => o.report.committed.contains name
          else o.environment) ∧
        last.log = o.report.log ∧
        last.recipe = (made.map Moment.call).foldl
          (Call.edit k.baker.registry k.baker.config.lead) k.recipe ∧
        last.isRunning = false := by
  refine ⟨_, bakeDuring_eq idle clock calls, ?_, ?_, rfl, rfl, rfl⟩
  · intro moment member guarded
    have refused := perform_guarded (momentsDuring_running moment member) guarded
    exact ⟨congrArg Prod.snd refused, congrArg Prod.fst refused⟩
  · have origin : (k.recipe.bake k.baker.registry k.baker.config clock k.environment).CameFrom
        k.underway.environment := k.recipe.bake_cameFrom k.environment
    have merged := takeOver_disturbed origin ((k.momentsDuring clock calls).map Moment.call)
    rw [List.any_map] at merged
    exact merged

def labelling : Kitchen where
  baker := { registry := .builtin, config := {} }
  recipe := [⟨"s1", "input-constant", NameMap.ofList [("value", .text "north")], "label"⟩]
  environment := NameMap.ofList [("base", .string "2")]

/-- Calls that write a variable, start a run, append a step and reset. -/
def meddling (_position : Nat) : List Call :=
  [.setVariable "base" (.string "3"), .bake fun _ => ⟨"09:00", 1⟩,
    .addStep "input-constant" "s2", .reset]

theorem bakeDuring_isolated_meddling :
    labelling.isRunning = false ∧
    ∃ last : Kitchen,
      let made := labelling.momentsDuring (fun _ => ⟨"09:00", 3⟩) meddling
      let o := labelling.underway.baker.bakeWith rfl (fun _ => ⟨"09:00", 3⟩) labelling.recipe
        labelling.environment
      labelling.bakeDuring (fun _ => ⟨"09:00", 3⟩) meddling =
          .ok (o.report, made.map Moment.reply, last) ∧
        (∀ moment ∈ made, moment.call.needsIdle = true →
          moment.reply = .refused .runInProgress ∧ moment.next = moment.kitchen) ∧
        last.environment =
          (if made.any fun moment => moment.call.isReset then
            o.environment.filter fun name _ => o.report.committed.contains name
          else o.environment) ∧
        last.log = o.report.log ∧
        last.recipe = (made.map Moment.call).foldl (Call.edit .builtin "var_") labelling.recipe ∧
        last.isRunning = false :=
  ⟨rfl, bakeDuring_isolated rfl _ meddling⟩

end Kitchen

end RecipeEngine
