import RecipeEngine.Bake.Baker

namespace RecipeEngine.Baker

/-- A baker in use: the guards taken and not yet dropped, and the environment of its owner. -/
structure Session where
  baker : Baker
  guards : List Nat := []
  /-- How many guards have been given out so far; they are numbered in that order. -/
  issued : Nat := 0
  environment : Environment

/-- A call on a baker. Drops and guarded runs name a guard. -/
inductive Request where
  | begin
  | drop (guard : Nat)
  | bake (clock : Clock) (recipe : Recipe)
  | bakeWith (guard : Nat) (clock : Clock) (recipe : Recipe)

/-- The calls that are refused while a run is in progress. -/
def Request.needsIdle : Request → Bool
  | .begin | .bake .. => true
  | .drop .. | .bakeWith .. => false

inductive Response where
  | guard (number : Nat)
  | dropped
  | refused (why : Failure)
  | outcome (o : Outcome)
  /-- The call names a guard that is not alive, so nobody is able to make it. -/
  | impossible

namespace Session

/-- Performs one call. A run takes a copy of the owner's environment; what a guarded run leaves
behind takes its place. -/
def perform (s : Session) : Request → Session × Response
  | .begin =>
    match s.baker.begin with
    | .error why => (s, .refused why)
    | .ok held =>
      ({ s with baker := held, guards := s.issued :: s.guards, issued := s.issued + 1 },
        .guard s.issued)
  | .drop guard =>
    if guard ∈ s.guards then
      ({ s with baker := s.baker.finish, guards := s.guards.erase guard }, .dropped)
    else (s, .impossible)
  | .bake clock recipe =>
    match s.baker.bake clock recipe s.environment with
    | (.error why, baker) => ({ s with baker }, .refused why)
    | (.ok o, baker) => ({ s with baker }, .outcome o)
  | .bakeWith guard clock recipe =>
    if held : guard ∈ s.guards ∧ s.baker.Held then
      let o := s.baker.bakeWith held.2 clock recipe s.environment
      ({ s with environment := o.environment }, .outcome o)
    else (s, .impossible)

def start (registry : Registry) (config : Config) (environment : Environment) : Session where
  baker := { registry, config }
  environment

def after (s : Session) (requests : List Request) : Session :=
  requests.foldl (fun now request => (now.perform request).1) s

end Session

section Flag

variable {baker : Baker}

theorem begin_idle (idle : baker.running = false) :
    baker.begin = .ok { baker with running := true } := by
  rw [begin, if_neg (Bool.eq_false_iff.mp idle)]

theorem begin_running (running : baker.running = true) :
    baker.begin = .error .runInProgress := by
  rw [begin, if_pos running]

theorem bake_idle (idle : baker.running = false) (clock : Clock) (recipe : Recipe)
    (env : Environment) :
    baker.bake clock recipe env =
      (.ok (recipe.bake baker.registry baker.config clock env), baker) := by
  unfold bake
  split
  · rename_i why refused
    rw [begin_idle idle] at refused
    cases refused
  · rename_i held accepted
    rw [begin_idle idle] at accepted
    cases accepted
    rw [bakeWith, finish, ← idle]

theorem bake_running (running : baker.running = true) (clock : Clock) (recipe : Recipe)
    (env : Environment) :
    baker.bake clock recipe env = (.error .runInProgress, baker) := by
  unfold bake
  split
  · rename_i why refused
    rw [begin_running running] at refused
    cases refused
    rfl
  · rename_i held accepted
    rw [begin_running running] at accepted
    cases accepted

end Flag

namespace Session

variable {s : Session}

theorem perform_begin_idle (idle : s.baker.running = false) :
    s.perform .begin =
      ({ s with
          baker := { s.baker with running := true }
          guards := s.issued :: s.guards
          issued := s.issued + 1 }, .guard s.issued) := by
  simp only [perform, begin_idle idle]

theorem perform_bake_idle (idle : s.baker.running = false) (clock : Clock) (recipe : Recipe) :
    s.perform (.bake clock recipe) =
      (s, .outcome (recipe.bake s.baker.registry s.baker.config clock s.environment)) := by
  simp only [perform, bake_idle idle]

theorem perform_needsIdle (running : s.baker.running = true) {request : Request}
    (needs : request.needsIdle = true) :
    s.perform request = (s, .refused .runInProgress) := by
  cases request with
  | begin => simp only [perform, begin_running running]
  | bake clock recipe => simp only [perform, bake_running running]
  | drop | bakeWith => cases needs

theorem perform_bakeWith {guard : Nat} (alive : guard ∈ s.guards)
    (running : s.baker.running = true) (clock : Clock) (recipe : Recipe) :
    let o := recipe.bake s.baker.registry s.baker.config clock s.environment
    s.perform (.bakeWith guard clock recipe) =
      ({ s with environment := o.environment }, .outcome o) := by
  have held : guard ∈ s.guards ∧ s.baker.Held := ⟨alive, running⟩
  simp only [perform, dif_pos held, bakeWith]

theorem perform_refused {request : Request} {why : Failure}
    (refused : (s.perform request).2 = .refused why) :
    why = .runInProgress ∧ request.needsIdle = true ∧ s.baker.running = true := by
  cases running : s.baker.running with
  | true =>
    by_cases needs : request.needsIdle = true
    · rw [perform_needsIdle running needs] at refused
      cases refused
      exact ⟨rfl, needs, rfl⟩
    · cases request with
      | begin | bake => exact absurd rfl needs
      | drop | bakeWith =>
        simp only [perform] at refused
        split at refused <;> cases refused
  | false =>
    cases request with
    | begin =>
      rw [perform_begin_idle running] at refused
      cases refused
    | bake clock recipe =>
      rw [perform_bake_idle running] at refused
      cases refused
    | drop | bakeWith =>
      simp only [perform] at refused
      split at refused <;> cases refused

/-- No guard is alive and the flag of the baker is down, or one is and it is up. Nothing else about
the baker is ever changed. The flag does not tell which guard it was raised for, so it is this that
makes dropping a guard safe. -/
inductive Guarded (baker : Baker) (s : Session) : Prop
  | idle (free : s.guards = []) (down : s.baker = { baker with running := false })
  | held (guard : Nat) (one : s.guards = [guard]) (up : s.baker = { baker with running := true })

variable {baker : Baker}

theorem Guarded.perform (guarded : s.Guarded baker) (request : Request) :
    (s.perform request).1.Guarded baker := by
  cases guarded with
  | idle free down =>
    have flag : s.baker.running = false := congrArg running down
    cases request with
    | begin =>
      rw [perform_begin_idle flag]
      exact .held s.issued (by rw [free]) (by rw [down])
    | bake clock recipe =>
      rw [perform_bake_idle flag]
      exact .idle free down
    | drop guard | bakeWith guard =>
      -- No guard is alive that either of them could name.
      simp only [Session.perform, free, List.not_mem_nil, if_false, false_and, dite_false]
      exact .idle free down
  | held guard one up =>
    have flag : s.baker.running = true := congrArg running up
    cases request with
    | begin | bake =>
      rw [perform_needsIdle flag rfl]
      exact .held guard one up
    | drop other =>
      by_cases alive : other ∈ s.guards
      · obtain rfl : other = guard := by simpa [one] using alive
        simp only [Session.perform, if_pos alive]
        exact .idle (by simp [one]) (by simp [up, finish])
      · simp only [Session.perform, if_neg alive]
        exact .held guard one up
    | bakeWith other clock recipe =>
      simp only [Session.perform]
      split <;> exact .held guard one up

theorem Guarded.after (guarded : s.Guarded baker) (requests : List Request) :
    (s.after requests).Guarded baker := by
  induction requests generalizing s with
  | nil => exact guarded
  | cons request rest ih => exact ih (guarded.perform request)

theorem Guarded.length_le (guarded : s.Guarded baker) : s.guards.length ≤ 1 := by
  cases guarded with
  | idle free down => simp [free]
  | held guard one up => simp [one]

theorem Guarded.running_iff (guarded : s.Guarded baker) :
    s.baker.running = true ↔ s.guards ≠ [] := by
  cases guarded with
  | idle free down => simp [free, down]
  | held guard one up => simp [one, up]

theorem Guarded.settings (guarded : s.Guarded baker) :
    s.baker.registry = baker.registry ∧ s.baker.config = baker.config := by
  cases guarded with
  | idle free down => simp [down]
  | held guard one up => simp [up]

theorem Guarded.drop (guarded : s.Guarded baker) {guard : Nat} (alive : guard ∈ s.guards) :
    (s.perform (.drop guard)).1.guards = [] := by
  cases guarded with
  | idle free down => simp [free] at alive
  | held other one up =>
    obtain rfl : guard = other := by simpa [one] using alive
    simp [Session.perform, one]

/-- After any calls on a baker that was idle at first, at most one guard is alive, and the baker is
running exactly while one is. Then, and only then, `begin` and `bake` are refused, and that changes
nothing. Otherwise a run gives what its recipe gives in the owner's environment and leaves the
session, with the idle baker and that environment, as it was. -/
theorem guarded_throughout (registry : Registry) (config : Config) (env : Environment)
    (requests : List Request) :
    let s := (start registry config env).after requests
    (s.guards.length ≤ 1 ∧ (s.baker.running = true ↔ s.guards ≠ [])) ∧
      (∀ request, request.needsIdle = true →
        ((s.perform request).2 = .refused .runInProgress ↔ s.guards ≠ [])) ∧
      (∀ request why, (s.perform request).2 = .refused why →
        why = .runInProgress ∧ (s.perform request).1 = s ∧ s.baker.running = true) ∧
      (s.guards = [] →
        ((s.perform .begin).2 = .guard s.issued ∧ (s.perform .begin).1.guards = [s.issued]) ∧
          ∀ clock recipe, s.perform (.bake clock recipe) =
            (s, .outcome (Recipe.bake registry config clock recipe s.environment))) ∧
      (∀ guard ∈ s.guards,
        (s.perform (.drop guard)).1.guards = [] ∧
          ∀ clock recipe,
            let o := Recipe.bake registry config clock recipe s.environment
            s.perform (.bakeWith guard clock recipe) =
              ({ s with environment := o.environment }, .outcome o)) ∧
      ∀ clock recipe, (s.perform (.bake clock recipe)).1.environment = s.environment := by
  intro s
  have guarded : s.Guarded { registry, config } :=
    Guarded.after (.idle rfl rfl : Guarded { registry, config } (start registry config env)) requests
  obtain ⟨sameRegistry, sameConfig⟩ := guarded.settings
  have running := guarded.running_iff
  have idle (free : s.guards = []) : s.baker.running = false := by
    rw [← Bool.not_eq_true, running]
    exact not_not_intro free
  refine ⟨⟨guarded.length_le, running⟩, fun request needs => ⟨fun refused => ?_, fun alive => ?_⟩,
    fun request why refused => ?_, fun free => ⟨?_, fun clock recipe => ?_⟩,
    fun guard alive => ⟨guarded.drop alive, fun clock recipe => ?_⟩, fun clock recipe => ?_⟩
  · exact running.mp (perform_refused refused).2.2
  · rw [perform_needsIdle (running.mpr alive) needs]
  · obtain ⟨cause, needs, up⟩ := perform_refused refused
    exact ⟨cause, by rw [perform_needsIdle up needs], up⟩
  · rw [perform_begin_idle (idle free), free]
    exact ⟨rfl, rfl⟩
  · rw [perform_bake_idle (idle free), sameRegistry, sameConfig]
  · have up := running.mpr (List.ne_nil_of_mem alive)
    rw [perform_bakeWith alive up, sameRegistry, sameConfig]
  · cases flag : s.baker.running with
    | false => rw [perform_bake_idle flag]
    | true => rw [perform_needsIdle flag rfl]

example : ((start .builtin {} NameMap.empty).after
    [.begin, .bake (fun _ => ⟨"09:00", 3⟩) [], .begin]).guards = [0] := rfl

end Session

end RecipeEngine.Baker
