import RecipeEngine.Proofs.Table.Compute

namespace RecipeEngine

instance (t : Table) : Decidable t.WellFormed :=
  inferInstanceAs
    (Decidable (t.columns.Nodup ∧ ∀ row ∈ t.rows, ∀ name ∈ row.names, name ∈ t.columns))

namespace Table

variable {t : Table}

theorem WellFormed.of_rows_subset (wellFormed : t.WellFormed) {rows : List Row}
    (subset : rows ⊆ t.rows) : WellFormed { t with rows } :=
  ⟨wellFormed.1, fun row member => wellFormed.2 row (subset member)⟩

theorem WellFormed.filter (wellFormed : t.WellFormed) (column : String) (condition : Condition) :
    (t.filter column condition).WellFormed :=
  wellFormed.of_rows_subset List.filter_sublist.subset

theorem WellFormed.sort (wellFormed : t.WellFormed) (column : String) (direction : Direction) :
    (t.sort column direction).WellFormed :=
  wellFormed.of_rows_subset fun _ => List.mem_mergeSort.mp

section Compute

variable {formula : Formula} {column : String} {globals : Scope}

theorem mem_columns_compute {name : String} :
    name ∈ (t.compute formula column globals).columns ↔ name ∈ t.columns ∨ name = column := by
  rw [columns_compute]
  split
  · rename_i member
    exact ⟨Or.inl, fun either => either.elim id fun same => same ▸ member⟩
  · simp

theorem nodup_columns_compute (distinct : t.columns.Nodup) :
    (t.compute formula column globals).columns.Nodup := by
  rw [columns_compute]
  split
  · exact distinct
  · rename_i new
    refine List.nodup_append.mpr ⟨distinct, by simp, fun name old other last => ?_⟩
    rw [List.mem_singleton.mp last]
    exact fun same => new (same ▸ old)

theorem WellFormed.compute (wellFormed : t.WellFormed) :
    (t.compute formula column globals).WellFormed := by
  refine ⟨nodup_columns_compute wellFormed.1, fun row member name bound => ?_⟩
  obtain ⟨before, old, rfl⟩ := List.mem_map.mp member
  rw [mem_columns_compute]
  rcases NameMap.mem_names_insert bound with here | earlier
  · exact Or.inr here
  · exact Or.inl (wellFormed.2 before old name earlier)

end Compute

theorem WellFormed.setCell? (wellFormed : t.WellFormed) {row : Nat} {column : String}
    {cell : Scalar} {changed : Table} (found : t.setCell? row column cell = some changed) :
    changed.WellFormed := by
  unfold Table.setCell? at found
  split at found
  · rename_i declared
    split at found
    · rename_i cells stored
      cases found
      refine ⟨wellFormed.1, fun other member name bound => ?_⟩
      rcases List.mem_or_eq_of_mem_set member with old | rfl
      · exact wellFormed.2 other old name bound
      · rcases NameMap.mem_names_insert bound with rfl | earlier
        · exact List.contains_iff_mem.mp declared
        · exact wellFormed.2 cells (List.mem_of_getElem? stored) name earlier
    · cases found
  · cases found

end Table

/-- A table is well formed; numbers and strings are in any case. -/
def Value.WellFormed : Value → Prop
  | .table t => t.WellFormed
  | _ => True

theorem Value.ofScalar_wellFormed (cell : Scalar) : (ofScalar cell).WellFormed := by
  cases cell <;> exact trivial

namespace Environment

def WellFormed (env : Environment) : Prop :=
  ∀ name value, env.get? name = some value → value.WellFormed

theorem wellFormed_empty : WellFormed NameMap.empty := by
  intro name value stored
  cases stored

variable {env : Environment}

theorem WellFormed.insert (wellFormed : env.WellFormed) (name : String) {value : Value}
    (fits : value.WellFormed) : WellFormed (NameMap.insert env name value) := by
  intro other stored found
  rw [NameMap.get?_insert] at found
  split at found
  · exact Option.some.inj found ▸ fits
  · exact wellFormed other stored found

theorem WellFormed.table (wellFormed : env.WellFormed) {name : String} {t : Table}
    (found : env.table name = .ok t) : t.WellFormed := by
  unfold Environment.table at found
  split at found
  · cases found
  · rename_i stored
    cases found
    exact wellFormed name _ stored
  · cases found

inductive Update where
  | cell (name : String) (row : Nat) (column : String) (cell : Scalar)
  | scalar (name : String) (cell : Scalar)

/-- The environment after an update, which is as before if the update is refused. -/
def updated (env : Environment) : Update → Environment
  | .cell name row column cell =>
    match env.updateCell name row column cell with
    | .ok (_, next) => next
    | .error _ => env
  | .scalar name cell =>
    match env.updateScalar name cell with
    | .ok next => next
    | .error _ => env

theorem WellFormed.updateCell (wellFormed : env.WellFormed) {name column : String} {row : Nat}
    {cell : Scalar} {found : Bool} {next : Environment}
    (accepted : env.updateCell name row column cell = .ok (found, next)) : next.WellFormed := by
  unfold Environment.updateCell at accepted
  cases stored : env.table name with
  | error why => simp [stored, bind, Except.bind] at accepted
  | ok t =>
    simp only [stored, bind, Except.bind] at accepted
    split at accepted
    · rename_i changed set
      cases accepted
      exact wellFormed.insert name ((wellFormed.table stored).setCell? set)
    · cases accepted
      exact wellFormed

theorem WellFormed.updateScalar (wellFormed : env.WellFormed) {name : String} {cell : Scalar}
    {next : Environment} (accepted : env.updateScalar name cell = .ok next) : next.WellFormed := by
  unfold Environment.updateScalar at accepted
  split at accepted
  · cases accepted
  · split at accepted
    · cases accepted
      exact wellFormed.insert name trivial
    · cases accepted
  · cases accepted
    exact wellFormed.insert name trivial
  · cases accepted

theorem WellFormed.updated (wellFormed : env.WellFormed) (update : Update) :
    (env.updated update).WellFormed := by
  unfold Environment.updated
  cases update with
  | cell name row column cell =>
    dsimp only
    split
    · rename_i accepted
      exact wellFormed.updateCell accepted
    · exact wellFormed
  | scalar name cell =>
    dsimp only
    split
    · rename_i accepted
      exact wellFormed.updateScalar accepted
    · exact wellFormed

theorem WellFormed.foldl_updated (wellFormed : env.WellFormed) (updates : List Update) :
    (updates.foldl Environment.updated env).WellFormed := by
  induction updates generalizing env with
  | nil => exact wellFormed
  | cons first rest ih => exact ih (wellFormed.updated first)

end Environment

end RecipeEngine
