import Mathlib.Data.Finset.Insert
import Mathlib.Order.Bounds.Basic
import RecipeEngine.Proofs.Csv.Columns

namespace RecipeEngine.Csv

/-- A name for a field, and how many names were tried with it. -/
structure Given where
  name : String
  tries : Nat
deriving DecidableEq, Repr

/-- What a field gets after the names before it: itself if none of them equals it, else the field
with the least number that makes a name other than them. -/
inductive NameFor (earlier : List String) (field : String) : Given → Prop
  | kept (free : field ∉ earlier) : NameFor earlier field ⟨field, 1⟩
  | numbered {k : Nat} (clash : field ∈ earlier)
      (least : IsLeast {k | 1 ≤ k ∧ suffixed field k ∉ earlier} k) :
      NameFor earlier field ⟨suffixed field k, k + 1⟩

/-- What the loop has given so far, and the set of its names, which new ones are looked up in. -/
structure Renaming where
  given : List Given
  seen : Finset String
  mem_seen : ∀ name, name ∈ seen ↔ name ∈ given.map Given.name

namespace Renaming

def names (r : Renaming) : List String := r.given.map Given.name

def start : Renaming := ⟨[], ∅, by simp⟩

def give (r : Renaming) (g : Given) : Renaming where
  given := r.given ++ [g]
  seen := insert g.name r.seen
  mem_seen name := by simp [r.mem_seen, or_comm]

/-- Tries a candidate, and as long as that has been seen, the field with the next number; `failed`
names have been tried before. Nothing bounds the tries, and a search that never ends is `none`. -/
def search (r : Renaming) (field candidate : String) (number failed : Nat) : Option Given :=
  if candidate ∈ r.seen then r |>.search field (suffixed field number) (number + 1) (failed + 1)
  else some ⟨candidate, failed + 1⟩
partial_fixpoint

def step (r : Renaming) (field : String) : Option Renaming :=
  (r.search field field 1 0).map r.give

def run (fields : List String) : Option Renaming := fields.foldlM step start

end Renaming

/-- The names that are tried for a field, in their order: the field is number 0. -/
def nthTry (field : String) : Nat → String
  | 0 => field
  | k + 1 => suffixed field (k + 1)

theorem field_ne_suffixed (field : String) (k : Nat) : field ≠ suffixed field k := by
  intro same
  have length := congrArg String.length same
  have mark : "_".length = 1 := rfl
  simp only [suffixed, String.length_append] at length
  omega

theorem nthTry_injective (field : String) : Function.Injective (nthTry field) := by
  intro j k same
  cases j with
  | zero =>
    cases k with
    | zero => rfl
    | succ k => exact absurd same (field_ne_suffixed field _)
  | succ j =>
    cases k with
    | zero => exact absurd same.symm (field_ne_suffixed field _)
    | succ k => exact suffixed_injective same

theorem exists_freeName_eq (taken : List String) (name : String) :
    ∃ k, freeName taken name = nthTry name k ∧ ∀ i < k, nthTry name i ∈ taken := by
  unfold freeName
  split
  · rename_i clash
    obtain ⟨i, chosen, passed, -⟩ := exists_firstFree_eq taken name taken.length 1
    refine ⟨i + 1, by rw [chosen, Nat.add_comm, nthTry], fun j below => ?_⟩
    cases j with
    | zero => exact List.contains_iff_mem.mp clash
    | succ j =>
      have member := passed j (Nat.lt_of_succ_lt_succ below)
      rwa [Nat.add_comm] at member
  · exact ⟨0, rfl, fun i below => absurd below (Nat.not_lt_zero i)⟩

section

variable {earlier other : List String} {field : String} {g h : Given}

/-- The rule in terms of the candidates: the first that is free, after all those before it. -/
theorem nameFor_iff :
    NameFor earlier field g ↔
      ∃ k, g = ⟨nthTry field k, k + 1⟩ ∧ nthTry field k ∉ earlier ∧
        ∀ i < k, nthTry field i ∈ earlier := by
  constructor
  -- Number 0 is taken in the second case of the rule; the least number is among those from 1 on.
  · rintro (free | @⟨k, clash, ⟨positive, free⟩, least⟩)
    · exact ⟨0, rfl, free, fun i below => absurd below (Nat.not_lt_zero i)⟩
    · obtain ⟨k, rfl⟩ := Nat.exists_eq_add_of_le' positive
      refine ⟨k + 1, rfl, free, fun i below => ?_⟩
      cases i with
      | zero => exact clash
      | succ i =>
        by_contra unseen
        exact Nat.not_le_of_lt below (least ⟨Nat.le_add_left 1 i, unseen⟩)
  · rintro ⟨k, rfl, free, passed⟩
    cases k with
    | zero => exact .kept free
    | succ k =>
      refine .numbered (passed 0 k.succ_pos) ⟨⟨k.succ_pos, free⟩, fun i ⟨positive, unseen⟩ => ?_⟩
      obtain ⟨i, rfl⟩ := Nat.exists_eq_add_of_le' positive
      by_contra below
      exact unseen (passed (i + 1) (Nat.lt_of_not_le below))

namespace NameFor

/-- The order of the earlier names, and how often each is there, do not matter. -/
theorem congr (same : ∀ name, name ∈ earlier ↔ name ∈ other) (found : NameFor earlier field g) :
    NameFor other field g := by
  simp only [nameFor_iff, same] at found ⊢
  exact found

theorem unique (left : NameFor earlier field g) (right : NameFor earlier field h) : g = h := by
  obtain ⟨j, rfl, freeJ, passedJ⟩ := nameFor_iff.mp left
  obtain ⟨k, rfl, freeK, passedK⟩ := nameFor_iff.mp right
  rcases Nat.lt_trichotomy j k with less | rfl | more
  · exact absurd (passedK j less) freeJ
  · rfl
  · exact absurd (passedJ k more) freeK

theorem tries_le (found : NameFor earlier field g) : g.tries ≤ earlier.length + 1 := by
  obtain ⟨k, rfl, -, passed⟩ := nameFor_iff.mp found
  exact Nat.succ_le_succ (le_length_of_taken (nthTry_injective field) passed)

end NameFor

theorem exists_nameFor (earlier : List String) (field : String) :
    ∃ g, NameFor earlier field g ∧ g.name = freeName earlier field := by
  obtain ⟨k, chosen, passed⟩ := exists_freeName_eq earlier field
  have free := freeName_not_mem earlier field
  rw [chosen] at free ⊢
  exact ⟨⟨nthTry field k, k + 1⟩, nameFor_iff.mpr ⟨k, rfl, free, passed⟩, rfl⟩

theorem NameFor.name_eq (found : NameFor earlier field g) : g.name = freeName earlier field := by
  obtain ⟨h, found', name⟩ := exists_nameFor earlier field
  rw [found.unique found', name]

end

namespace Renaming

/-- From any of the candidates that have been seen, the search goes on to the first that has not. -/
theorem search_nthTry (r : Renaming) {field : String} {first k : Nat}
    (passed : ∀ i < first, nthTry field i ∈ r.seen) (free : nthTry field first ∉ r.seen)
    (bound : k ≤ first) :
    r.search field (nthTry field k) (k + 1) k = some ⟨nthTry field first, first + 1⟩ := by
  induction bound using Nat.decreasingInduction with
  | self => rw [search, if_neg free]
  | of_succ k below ih =>
    -- The name with the number `k + 1` is the next to be tried.
    rw [search, if_pos (passed k below)]
    exact ih

theorem search_eq (r : Renaming) {field : String} {g : Given} (found : NameFor r.names field g) :
    r.search field field 1 0 = some g := by
  obtain ⟨k, rfl, free, passed⟩ := nameFor_iff.mp found
  simp only [names, ← r.mem_seen] at free passed
  exact r.search_nthTry passed free (Nat.zero_le k)

/-- Whatever has been given, the next field gets a name, and the right one. -/
theorem exists_step (r : Renaming) (field : String) :
    ∃ g, NameFor r.names field g ∧ r.step field = some (r.give g) := by
  obtain ⟨g, found, -⟩ := exists_nameFor r.names field
  exact ⟨g, found, by rw [step, r.search_eq found, Option.map_some]⟩

end Renaming

/-- The fields each get what they have to after the names before them. -/
inductive NamesFor : List String → List String → List Given → Prop
  | nil {earlier : List String} : NamesFor earlier [] []
  | cons {earlier fields : List String} {field : String} {g : Given} {given : List Given}
      (first : NameFor earlier field g) (rest : NamesFor (earlier ++ [g.name]) fields given) :
      NamesFor earlier (field :: fields) (g :: given)

namespace NamesFor

variable {earlier fields : List String} {given : List Given}

/-- `uniqueNames` has the latest name in front, the loop has it last. -/
theorem map_name (named : NamesFor earlier fields given) {taken : List String}
    (same : ∀ name, name ∈ earlier ↔ name ∈ taken) :
    given.map Given.name = uniqueNames taken fields := by
  induction named generalizing taken with
  | nil => rfl
  | cons first rest ih =>
    have name := (first.congr same).name_eq
    rw [List.map_cons, uniqueNames, name]
    refine congrArg _ (ih fun other => ?_)
    rw [List.mem_append, List.mem_singleton, List.mem_cons, same, name, or_comm]

theorem getElem? (named : NamesFor earlier fields given) {i : Nat} {field : String}
    (inside : fields[i]? = some field) :
    ∃ g, given[i]? = some g ∧ NameFor (earlier ++ (given.take i).map Given.name) field g := by
  induction named generalizing i with
  | nil => cases inside
  | @cons earlier fields field' g given first rest ih =>
    cases i with
    | zero =>
      cases inside
      exact ⟨g, rfl, by simpa using first⟩
    | succ i =>
      obtain ⟨g', atIndex, found⟩ := ih inside
      refine ⟨g', atIndex, ?_⟩
      rwa [List.append_assoc, List.singleton_append] at found

end NamesFor

namespace Renaming

theorem exists_foldlM_step (r : Renaming) (fields : List String) :
    ∃ (last : Renaming) (more : List Given), fields.foldlM step r = some last ∧
      last.given = r.given ++ more ∧ NamesFor r.names fields more := by
  induction fields generalizing r with
  | nil => exact ⟨r, [], rfl, (List.append_nil _).symm, .nil⟩
  | cons field fields ih =>
    obtain ⟨g, found, stepped⟩ := r.exists_step field
    obtain ⟨last, more, ran, given, named⟩ := ih (r.give g)
    refine ⟨last, g :: more, ?_, ?_, .cons found ?_⟩
    · rw [List.foldlM_cons, stepped]
      exact ran
    · rw [given, give, List.append_assoc, List.singleton_append]
    · simpa [names, give] using named

/-- The loop ends for every header. Its names are the unique names: as many as the fields and all
different, each of them the field itself, or, if that has been given before, the field with the
least number that makes a new name, found among one name more than have been given. -/
theorem run_names_least (fields : List String) :
    ∃ last, run fields = some last ∧ last.names = uniqueNames [] fields ∧
      last.names.length = fields.length ∧ last.names.Nodup ∧
      ∀ (i : Nat) (field : String), fields[i]? = some field →
        ∃ g, last.given[i]? = some g ∧ NameFor (last.names.take i) field g ∧ g.tries ≤ i + 1 := by
  obtain ⟨last, given, ran, all, named⟩ := exists_foldlM_step start fields
  rw [show start.given = [] from rfl, List.nil_append] at all
  subst all
  have unique : last.names = uniqueNames [] fields := named.map_name fun _ => Iff.rfl
  refine ⟨last, ran, unique, ?_, ?_, fun i field inside => ?_⟩
  · rw [unique, uniqueNames_length]
  · rw [unique]
    exact uniqueNames_nodup [] fields
  · obtain ⟨g, atIndex, found⟩ := named.getElem? inside
    have before : NameFor (last.names.take i) field g := by
      rw [names, ← List.map_take]
      exact found
    have bound := before.tries_le
    rw [List.length_take] at bound
    exact ⟨g, atIndex, before, by omega⟩

example : uniqueNames [] ["a", "a_1", "a", "a", "a_1"] = ["a", "a_1", "a_2", "a_3", "a_1_1"] := by
  decide

end Renaming

end RecipeEngine.Csv
