import RecipeEngine.Bake.Run

namespace RecipeEngine

/-- A registry and settings with a mark while a run is in progress. -/
structure Baker where
  registry : Registry
  config : Config
  running : Bool := false

namespace Baker

/-- The guard of a run. It is a proof that one is in progress, so a guarded run needs no test. -/
def Held (baker : Baker) : Prop := baker.running = true

instance (baker : Baker) : Decidable baker.Held :=
  inferInstanceAs (Decidable (baker.running = true))

def begin (baker : Baker) : Except Failure Baker :=
  if baker.running then .error .runInProgress else .ok { baker with running := true }

def finish (baker : Baker) : Baker := { baker with running := false }

def bakeWith (baker : Baker) (_guard : baker.Held) (clock : Clock) (recipe : Recipe)
    (env : Environment) : Outcome :=
  recipe.bake baker.registry baker.config clock env

theorem held_of_begin {baker held : Baker} (accepted : baker.begin = .ok held) : held.Held := by
  unfold begin at accepted
  split at accepted
  · cases accepted
  · cases accepted
    rfl

def bake (baker : Baker) (clock : Clock) (recipe : Recipe) (env : Environment) :
    Except Failure Outcome × Baker :=
  match accepted : baker.begin with
  | .error why => (.error why, baker)
  | .ok held =>
    (.ok (held.bakeWith (held_of_begin accepted) clock recipe env), held.finish)

end Baker

end RecipeEngine
