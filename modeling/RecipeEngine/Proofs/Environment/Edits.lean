import RecipeEngine.Proofs.Environment.Store
import RecipeEngine.Proofs.Recipe.Edits
import Mathlib.Data.List.Basic

namespace RecipeEngine

inductive VariableEdit where
  | set (name : String) (value : Value)
  | remove (name : String)
  | clear
  | scalar (name : String) (cell : Scalar)
  | cell (name : String) (row : Nat) (column : String) (cell : Scalar)

def VariableEdit.subject? : VariableEdit → Option String
  | .set name _ => some name
  | .remove name => some name
  | .clear => none
  | .scalar name _ => some name
  | .cell name _ _ _ => some name

/-- An edit of a variable finds what it is to change: a number or a string of a kind that the cell
can be, or a table with the cell. -/
def VariableEdit.Applies (store : VariableStore) : VariableEdit → Prop
  | .scalar name content =>
    ∃ held value, store.get? name = some held ∧ content.Replaces held.value value
  | .cell name row column _ =>
    ∃ held t, store.get? name = some held ∧ held.value = .table t ∧
      column ∈ t.columns ∧ row < t.rows.length
  | .set .. => True
  | .remove _ => True
  | .clear => True

/-- The variables before and after an edit, with the reply to it. -/
structure VariableEdit.Performed (edit : VariableEdit) (before after : VariableStore)
    (reply : Reply) : Prop where
  negative_iff : reply.IsNegative ↔ ¬ edit.Applies before
  unchanged : reply.IsNegative → after = before
  others : ∀ name, edit.subject? = some name → ∀ other, other ≠ name →
    after.get? other = before.get? other
  set : ∀ name value, edit = .set name value → after.get? name = some ⟨name, value⟩
  remove : ∀ name, edit = .remove name →
    after.get? name = none ∧ reply = .stored (before.get? name)
  clear : edit = .clear → ∀ name, after.get? name = none
  scalar : ∀ name cell, edit = .scalar name cell → ¬ reply.IsNegative →
    ∃ old new, before.get? name = some old ∧ after.get? name = some new ∧
      cell.Replaces old.value new.value ∧ new.value.kind = old.value.kind
  cell : ∀ name row column cell, edit = .cell name row column cell → ¬ reply.IsNegative →
    ∃ old new t changed, before.get? name = some old ∧ after.get? name = some new ∧
      old.value = .table t ∧ new.value = .table changed ∧ t.CellSet row column cell changed

namespace VariableStore

/-- The variables after a change in place, with the reply to it. -/
def settle {α : Type} (accept : α → Reply) :
    Except Failure α × VariableStore → VariableStore × Reply
  | (.ok a, next) => (next, accept a)
  | (.error why, next) => (next, .refused why)

def perform (store : VariableStore) : VariableEdit → VariableStore × Reply
  | .set name value => (store.insert name ⟨name, value⟩, .done)
  | .remove name => (store.erase name, .stored (store.get? name))
  | .clear => (NameMap.empty, .done)
  | .scalar name cell => settle (fun _ => .done) (store.run (.updateScalar name cell))
  | .cell name row column cell => settle .flag (store.run (.updateCell name row column cell))

def performAll (store : VariableStore) (edits : List VariableEdit) : VariableStore :=
  edits.foldl (fun store edit => (store.perform edit).1) store

/-- The numbers and strings, by the names that the variables hold. -/
def scalarScope (store : VariableStore) : NameMap Scalar :=
  NameMap.ofList (store.toList.filterMap fun (_, held) =>
    held.value.scalar?.map (held.name, ·))

end VariableStore

namespace Environment

/-- Performs one edit of an environment, which keeps no names beside the keys. -/
def perform (env : Environment) : VariableEdit → Environment × Reply
  | .set name value => (env.insert name value, .done)
  | .remove name => (env.erase name, .stored (env.stored? name))
  | .clear => (NameMap.empty, .done)
  | .scalar name cell =>
    match env.updateScalar name cell with
    | .ok next => (next, .done)
    | .error why => (env, .refused why)
  | .cell name row column cell =>
    match env.updateCell name row column cell with
    | .ok (found, next) => (next, .flag found)
    | .error why => (env, .refused why)

def performAll (env : Environment) (edits : List VariableEdit) : Environment :=
  edits.foldl (fun env edit => (env.perform edit).1) env

end Environment

theorem Value.scalar?_eq_some {value : Value} {cell : Scalar} :
    value.scalar? = some cell ↔ value = .ofScalar cell := by
  cases value <;> cases cell <;> simp [Value.scalar?, Value.ofScalar]

namespace NameMap

variable {α β : Type}

theorem find_filterMap (pick : α → Option β) (name : String) {entries : List (String × α)}
    (distinct : (entries.map (·.1)).Nodup) :
    find name (entries.filterMap fun entry => (pick entry.2).map (entry.1, ·)) =
      (find name entries).bind pick := by
  induction entries with
  | nil => rfl
  | cons first rest ih =>
    obtain ⟨fresh, tail⟩ := List.nodup_cons.mp distinct
    rw [List.filterMap_cons, find]
    cases picked : pick first.2 with
    | none =>
      rw [Option.map_none, ih tail]
      split
      · rename_i here
        rw [find_eq_none_of_not_mem (here ▸ fresh), Option.bind_none, Option.bind_some, picked]
      · rfl
    | some b =>
      rw [Option.map_some, find, ih tail]
      split
      · rw [Option.bind_some, picked]
      · rfl

/-- The map of what is picked out of the bindings of another one. -/
theorem get?_ofList_filterMap (map : NameMap α) (pick : α → Option β) (name : String) :
    (ofList (map.toList.filterMap fun entry => (pick entry.2).map (entry.1, ·))).get? name =
      (map.get? name).bind pick := by
  have distinct : ((map.toList.filterMap fun entry =>
      (pick entry.2).map (entry.1, ·)).map (·.1)).Nodup := by
    refine List.pairwise_map.mpr (map.sorted.filterMap _ ?_)
    intro first second less one picked two picked'
    obtain ⟨_, -, rfl⟩ := Option.map_eq_some_iff.mp picked
    obtain ⟨_, -, rfl⟩ := Option.map_eq_some_iff.mp picked'
    exact fun same => String.lt_irrefl _ (same ▸ less)
  rw [get?_ofList distinct, toList, find_filterMap pick name map.names_nodup, get?]

end NameMap

namespace VariableStore

variable {store : VariableStore} {name : String} {cell : Scalar}

/-- An edit of a number or a string is refused, or writes a value of the variable's kind. -/
theorem perform_scalar (store : VariableStore) (name : String) (cell : Scalar) :
    (∃ why, store.perform (.scalar name cell) = (store, .refused why) ∧
      ∀ held value, store.get? name = some held → ¬ cell.Replaces held.value value) ∨
    ∃ held value, store.get? name = some held ∧ cell.Replaces held.value value ∧
      store.perform (.scalar name cell) = (store.insert name { held with value }, .done) := by
  rcases store.run_updateScalar name cell with
    ⟨why, ran, -, unfit⟩ | ⟨held, value, found, fits, ran, -⟩
  · exact .inl ⟨why, congrArg (settle _) ran, unfit⟩
  · exact .inr ⟨held, value, found, fits, congrArg (settle _) ran⟩

/-- An edit of a cell is refused, finds no such cell, or replaces it. -/
theorem perform_cell (store : VariableStore) (name : String) (row : Nat) (column : String)
    (cell : Scalar) :
    (∃ reply, store.perform (.cell name row column cell) = (store, reply) ∧ reply.IsNegative ∧
      ∀ held t, store.get? name = some held → held.value = .table t →
        ¬ (column ∈ t.columns ∧ row < t.rows.length)) ∨
    ∃ held t changed, store.get? name = some held ∧ held.value = .table t ∧
      (column ∈ t.columns ∧ row < t.rows.length) ∧ t.CellSet row column cell changed ∧
      store.perform (.cell name row column cell) =
        (store.insert name { held with value := .table changed }, .flag true) := by
  rcases store.run_updateCell name row column cell with
    ⟨why, ran, -, noTable⟩ |
    ⟨held, t, found, isTable, ⟨absent, ran, -⟩ | ⟨there, changed, set, ran, -⟩⟩
  · exact .inl ⟨_, congrArg (settle _) ran, trivial, fun held t found isTable =>
      absurd isTable (noTable held t found)⟩
  · refine .inl ⟨_, congrArg (settle _) ran, rfl, fun other u stored same => ?_⟩
    cases found.symm.trans stored
    cases isTable.symm.trans same
    exact absent
  · exact .inr ⟨held, t, changed, found, isTable, there, set, congrArg (settle _) ran⟩

/-- Only an edit of what is not there has a negative reply, and it leaves no trace. -/
theorem perform_negative_iff (store : VariableStore) (edit : VariableEdit) :
    ((store.perform edit).2.IsNegative ↔ ¬ edit.Applies store) ∧
      ((store.perform edit).2.IsNegative → (store.perform edit).1 = store) := by
  cases edit with
  | set | remove | clear => exact ⟨⟨False.elim, fun never => never trivial⟩, False.elim⟩
  | scalar name cell =>
    rcases store.perform_scalar name cell with
      ⟨why, done, unfit⟩ | ⟨held, value, found, fits, done⟩ <;> rw [done]
    · exact ⟨⟨fun _ ⟨held, value, found, fits⟩ => unfit held value found fits, fun _ => trivial⟩,
        fun _ => rfl⟩
    · exact ⟨⟨False.elim, fun never => never ⟨held, value, found, fits⟩⟩, False.elim⟩
  | cell name row column cell =>
    rcases store.perform_cell name row column cell with
      ⟨reply, done, negative, absent⟩ | ⟨held, t, changed, found, isTable, there, -, done⟩ <;>
      rw [done]
    · exact ⟨⟨fun _ ⟨held, t, found, isTable, there⟩ => absent held t found isTable there,
        fun _ => negative⟩, fun _ => rfl⟩
    · exact ⟨⟨nofun, fun never => (never ⟨held, t, found, isTable, there⟩).elim⟩, nofun⟩

/-- What is found after an edit under a name that it is not about. -/
theorem get?_perform_of_ne {edit : VariableEdit} (about : edit.subject? = some name)
    {other : String} (apart : other ≠ name) : (store.perform edit).1.get? other = store.get? other := by
  cases edit with
  | set key value =>
    cases about
    exact NameMap.get?_insert_of_ne _ _ apart.symm
  | remove key =>
    cases about
    exact (NameMap.get?_erase _ _ _).trans (if_neg apart.symm)
  | clear => cases about
  | scalar key cell =>
    cases about
    rcases store.perform_scalar name cell with
      ⟨why, done, -⟩ | ⟨held, value, -, -, done⟩ <;> rw [done]
    exact NameMap.get?_insert_of_ne _ _ apart.symm
  | cell key row column cell =>
    cases about
    rcases store.perform_cell name row column cell with
      ⟨reply, done, -⟩ | ⟨held, t, changed, -, -, -, -, done⟩ <;> rw [done]
    exact NameMap.get?_insert_of_ne _ _ apart.symm

theorem performed (store : VariableStore) (edit : VariableEdit) :
    edit.Performed store (store.perform edit).1 (store.perform edit).2 where
  negative_iff := (store.perform_negative_iff edit).1
  unchanged := (store.perform_negative_iff edit).2
  others name about other apart := get?_perform_of_ne about apart
  set name value same := by
    subst same
    exact NameMap.get?_insert_self _ _ _
  remove name same := by
    subst same
    exact ⟨(NameMap.get?_erase _ _ _).trans (if_pos rfl), rfl⟩
  clear same name := by
    subst same
    rfl
  scalar name cell same positive := by
    subst same
    rcases store.perform_scalar name cell with ⟨why, done, -⟩ | ⟨held, value, found, fits, done⟩ <;>
      rw [done] at positive ⊢
    · exact (positive trivial).elim
    · exact ⟨held, _, found, NameMap.get?_insert_self _ _ _, fits, fits.kind_eq⟩
  cell name row column cell same positive := by
    subst same
    rcases store.perform_cell name row column cell with
      ⟨reply, done, negative, -⟩ | ⟨held, t, changed, found, isTable, -, set, done⟩ <;>
      rw [done] at positive ⊢
    · exact (positive negative).elim
    · exact ⟨held, _, t, changed, found, NameMap.get?_insert_self _ _ _, isTable, rfl, set⟩

def IsNamed (store : VariableStore) : Prop :=
  ∀ key held, store.get? key = some held → held.name = key

namespace IsNamed

theorem empty : IsNamed NameMap.empty := nofun

theorem insert (named : store.IsNamed) {held : Variable} (same : held.name = name) :
    IsNamed (NameMap.insert store name held) := by
  intro key other found
  rw [NameMap.get?_insert] at found
  split at found
  · rename_i here
    cases found
    exact same.trans here
  · exact named key other found

theorem perform (named : store.IsNamed) (edit : VariableEdit) : (store.perform edit).1.IsNamed := by
  cases edit with
  | set key value => exact named.insert rfl
  | remove key =>
    intro other held found
    rw [VariableStore.perform, NameMap.get?_erase] at found
    split at found
    · cases found
    · exact named other held found
  | clear => exact empty
  | scalar key cell =>
    rcases store.perform_scalar key cell with ⟨why, done, -⟩ | ⟨held, value, found, -, done⟩ <;>
      rw [done]
    · exact named
    · exact named.insert (named key held found)
  | cell key row column cell =>
    rcases store.perform_cell key row column cell with
      ⟨reply, done, -⟩ | ⟨held, t, changed, found, -, -, -, done⟩ <;> rw [done]
    · exact named
    · exact named.insert (named key held found)

theorem performAll (named : store.IsNamed) (edits : List VariableEdit) :
    (store.performAll edits).IsNamed := by
  induction edits generalizing store with
  | nil => exact named
  | cons edit rest ih => exact ih (named.perform edit)

end IsNamed

theorem stored?_values (named : store.IsNamed) (name : String) :
    store.values.stored? name = store.get? name := by
  rw [Environment.stored?, get?_values]
  cases found : store.get? name with
  | none => rfl
  | some held =>
    have same := named name held found
    subst same
    rfl

theorem perform_values (named : store.IsNamed) (edit : VariableEdit) :
    store.values.perform edit = ((store.perform edit).1.values, (store.perform edit).2) := by
  cases edit with
  | set key value => exact Prod.ext (values_insert store key ⟨key, value⟩).symm rfl
  | remove key =>
    refine Prod.ext (NameMap.ext fun other => ?_) (congrArg Reply.stored (stored?_values named key))
    show NameMap.get? (NameMap.erase store.values key) other =
      NameMap.get? (values (store.erase key)) other
    rw [NameMap.get?_erase, get?_values, get?_values, NameMap.get?_erase]
    split <;> rfl
  | clear => rfl
  | scalar key cell =>
    rcases store.run_updateScalar key cell with
      ⟨why, ran, same, -⟩ | ⟨held, value, -, -, ran, same⟩ <;>
      rw [Environment.perform, same, VariableStore.perform, ran]
    · rfl
    · exact Prod.ext (values_insert store key { held with value }).symm rfl
  | cell key row column cell =>
    rcases store.run_updateCell key row column cell with
      ⟨why, ran, same, -⟩ | ⟨held, t, -, -, ⟨-, ran, same⟩ | ⟨-, changed, -, ran, same⟩⟩ <;>
      rw [Environment.perform, same, VariableStore.perform, ran]
    · rfl
    · rfl
    · exact Prod.ext (values_insert store key { held with value := .table changed }).symm rfl

theorem performAll_values (named : store.IsNamed) (edits : List VariableEdit) :
    store.values.performAll edits = (store.performAll edits).values := by
  induction edits generalizing store with
  | nil => rfl
  | cons edit rest ih =>
    rw [Environment.performAll, List.foldl_cons, perform_values named edit]
    exact ih (named.perform edit)

theorem get?_scalarScope (named : store.IsNamed) (name : String) :
    store.scalarScope.get? name = (store.get? name).bind fun held => held.value.scalar? := by
  have byKey : (store.toList.filterMap fun (_, held) => held.value.scalar?.map (held.name, ·)) =
      store.toList.filterMap fun entry => entry.2.value.scalar?.map (entry.1, ·) := by
    refine List.filterMap_congr fun (key, held) member => ?_
    dsimp only
    rw [named key held (NameMap.find_of_mem store.names_nodup member)]
  rw [scalarScope, byKey]
  exact NameMap.get?_ofList_filterMap store (fun held => held.value.scalar?) name

theorem get?_scalarScope_eq_some (named : store.IsNamed) :
    store.scalarScope.get? name = some cell ↔
      ∃ held, store.get? name = some held ∧ held.value = .ofScalar cell := by
  rw [get?_scalarScope named, Option.bind_eq_some_iff]
  exact exists_congr fun held => and_congr_right fun _ => Value.scalar?_eq_some

/-- After any edits from no variables on: each variable holds the name it is stored under, so that
the names can be left out, and the scope has the numbers and strings by their keys. A further edit
has a negative reply only if what it is to change is not there, and leaves no trace then; else it
keeps the kind of a number or string, or all of a table but one cell. It touches no other
variable. -/
theorem edits_keep_variables (edits : List VariableEdit) :
    let store := performAll NameMap.empty edits
    let env := Environment.performAll NameMap.empty edits
    store.IsNamed ∧ store.values = env ∧
      (∀ name, store.scalarScope.get? name = env.scope name) ∧
      (∀ name cell, store.scalarScope.get? name = some cell ↔
        ∃ held, store.get? name = some held ∧ held.value = .ofScalar cell) ∧
      ∀ edit, edit.Performed store (store.perform edit).1 (store.perform edit).2 ∧
        env.perform edit = ((store.perform edit).1.values, (store.perform edit).2) := by
  intro store env
  have named : store.IsNamed := IsNamed.empty.performAll edits
  have same : store.values = env := (performAll_values IsNamed.empty edits).symm
  refine ⟨named, same, fun name => ?_, fun name cell => get?_scalarScope_eq_some named,
    fun edit => ⟨store.performed edit, same ▸ perform_values named edit⟩⟩
  rw [get?_scalarScope named, ← same, Environment.scope, Environment.scalar?, get?_values,
    Option.bind_map]
  rfl

end VariableStore

end RecipeEngine
