import RecipeEngine.Table.Compute

namespace RecipeEngine

abbrev VariableStore := NameMap Variable

/-- A change in place. If it fails, what it wrote until then stays. -/
abbrev InPlace (α : Type) := ExceptT Failure (StateM VariableStore) α

namespace InPlace

def find (key : String) : InPlace Variable := do
  match (← get).get? key with
  | some held => return held
  | none => throw (.variableNotFound key)

/-- Writes a value into the variable under a key, which keeps the name it holds. -/
def write (key : String) (held : Variable) (value : Value) : InPlace Unit :=
  modify fun store => store.insert key { held with value }

/-- Stores a number or a text in a variable of that kind. -/
def updateScalar (name : String) (cell : Scalar) : InPlace Unit := do
  let held ← find name
  match held.value with
  | .number _ =>
    match cell.asNumber? with
    | some x => write name held (.number x)
    | none => throw (.wrongKind name Kind.number.name Kind.string.name)
  | .string _ => write name held (.string cell.display)
  | .table _ => throw (.wrongKind name "number or string" Kind.table.name)

/-- Replaces one cell of a stored table; the flag is false if the column or the row is not there. -/
def updateCell (name : String) (row : Nat) (column : String) (cell : Scalar) : InPlace Bool := do
  let held ← find name
  match held.value with
  | .table t =>
    if !t.hasColumn column then return false
    match t.rows[row]? with
    | none => return false
    | some cells =>
      write name held (.table { t with rows := t.rows.set row (cells.insert column cell) })
      return true
  | other => throw (.wrongKind name Kind.table.name other.kind.name)

end InPlace

/-- A table after one of its cells was replaced: all others, the columns and the number of rows are
as before. -/
structure Table.CellSet (row : Nat) (column : String) (cell : Scalar) (before after : Table) :
    Prop where
  columns : after.columns = before.columns
  length : after.rows.length = before.rows.length
  cell : after.cell? row column = some cell
  others : ∀ i name, (i, name) ≠ (row, column) → after.cell? i name = before.cell? i name

theorem Table.cellSet {t : Table} {row : Nat} {cells : Row} (stored : t.rows[row]? = some cells)
    (column : String) (cell : Scalar) :
    CellSet row column cell t { t with rows := t.rows.set row (cells.insert column cell) } where
  columns := rfl
  length := List.length_set
  cell := by
    have bound := (List.getElem?_eq_some_iff.mp stored).1
    rw [cell?, List.getElem?_set_self bound, Option.bind_some, NameMap.get?_insert_self]
  others i name apart := by
    unfold cell?
    by_cases here : i = row
    · subst here
      have other : column ≠ name := fun same => apart (same ▸ rfl)
      have bound := (List.getElem?_eq_some_iff.mp stored).1
      rw [List.getElem?_set_self bound, stored, Option.bind_some, Option.bind_some,
        NameMap.get?_insert_of_ne _ _ other]
    · rw [List.getElem?_set_ne (Ne.symm here)]

/-- The values that an update by a number or a text leaves in a variable: one of the same kind, the
number that the cell reads as or the text that it shows. -/
inductive Scalar.Replaces (cell : Scalar) : Value → Value → Prop
  | number {old new : Float} : cell.asNumber? = some new → Replaces cell (.number old) (.number new)
  | string {old : String} : Replaces cell (.string old) (.string cell.display)

theorem Scalar.Replaces.kind_eq {cell : Scalar} {old new : Value}
    (replaces : cell.Replaces old new) : new.kind = old.kind := by
  cases replaces <;> rfl

namespace VariableStore

/-- What comes of a change: its answer and the variables after it. -/
def run {α : Type} (store : VariableStore) (change : InPlace α) :
    Except Failure α × VariableStore :=
  change.run.run store

/-- The values by key, without the names that the variables hold. -/
def values (store : VariableStore) : Environment :=
  NameMap.map Variable.value store

variable {store : VariableStore} {name : String} {held : Variable}

theorem get?_values (store : VariableStore) (name : String) :
    store.values.get? name = (store.get? name).map Variable.value :=
  NameMap.get?_map Variable.value store name

theorem values_insert (store : VariableStore) (name : String) (held : Variable) :
    values (store.insert name held) = store.values.insert name held.value := by
  refine NameMap.ext fun other => ?_
  rw [get?_values, NameMap.get?_insert, NameMap.get?_insert, get?_values]
  split <;> rfl

theorem run_bind {α β : Type} (store : VariableStore) (first : InPlace α) (rest : α → InPlace β) :
    store.run (first >>= rest) =
      match store.run first with
      | (.ok a, next) => next.run (rest a)
      | (.error why, next) => (.error why, next) := by
  show (match first store with
    | (answer, next) => ExceptT.bindCont rest answer next) = _
  unfold run
  show _ = (match first store with
    | (.ok a, next) => (rest a).run.run next
    | (.error why, next) => (.error why, next))
  rcases first store with ⟨_ | _, _⟩ <;> rfl

theorem run_find (store : VariableStore) (name : String) :
    store.run (InPlace.find name) =
      match store.get? name with
      | some held => (.ok held, store)
      | none => (.error (.variableNotFound name), store) := by
  show store.run (match store.get? name with
    | some held => pure held
    | none => throw (.variableNotFound name)) = _
  cases store.get? name <;> rfl

/-- An update of a number or a string. Either it is refused and leaves no trace: no value of the
variable's kind can be made of the cell. Or it writes such a value. -/
theorem run_updateScalar (store : VariableStore) (name : String) (cell : Scalar) :
    (∃ why, store.run (.updateScalar name cell) = (.error why, store) ∧
      store.values.updateScalar name cell = .error why ∧
      ∀ held value, store.get? name = some held → ¬ cell.Replaces held.value value) ∨
    ∃ held value, store.get? name = some held ∧ cell.Replaces held.value value ∧
      store.run (.updateScalar name cell) = (.ok (), store.insert name { held with value }) ∧
      store.values.updateScalar name cell = .ok (store.values.insert name value) := by
  have stored := get?_values store name
  rw [InPlace.updateScalar, run_bind, run_find, Environment.updateScalar, stored]
  cases found : store.get? name with
  | none => exact .inl ⟨_, rfl, rfl, nofun⟩
  | some held =>
    obtain ⟨label, value⟩ := held
    cases value with
    | table t =>
      refine .inl ⟨_, rfl, rfl, fun other new same replaces => ?_⟩
      cases same
      cases replaces
    | string old => exact .inr ⟨_, _, rfl, .string, rfl, rfl⟩
    | number old =>
      dsimp only [Option.map_some]
      cases read : cell.asNumber? with
      | some x => exact .inr ⟨_, _, rfl, .number read, rfl, rfl⟩
      | none =>
        refine .inl ⟨_, rfl, rfl, fun other new same replaces => ?_⟩
        cases same
        cases replaces with
        | number reads => cases read.symm.trans reads

/-- An update of a cell. It is refused if the variable is no table; it does nothing if the table has
no such cell; else it replaces the cell. In the first two cases it leaves no trace. -/
theorem run_updateCell (store : VariableStore) (name : String) (row : Nat) (column : String)
    (cell : Scalar) :
    (∃ why, store.run (.updateCell name row column cell) = (.error why, store) ∧
      store.values.updateCell name row column cell = .error why ∧
      ∀ held t, store.get? name = some held → held.value ≠ .table t) ∨
    ∃ held t, store.get? name = some held ∧ held.value = .table t ∧
      (¬ (column ∈ t.columns ∧ row < t.rows.length) ∧
        store.run (.updateCell name row column cell) = (.ok false, store) ∧
        store.values.updateCell name row column cell = .ok (false, store.values) ∨
      (column ∈ t.columns ∧ row < t.rows.length) ∧ ∃ changed, t.CellSet row column cell changed ∧
        store.run (.updateCell name row column cell) =
          (.ok true, store.insert name { held with value := .table changed }) ∧
        store.values.updateCell name row column cell =
          .ok (true, store.values.insert name (.table changed))) := by
  have stored := get?_values store name
  rw [InPlace.updateCell, run_bind, run_find, Environment.updateCell, Environment.table, stored]
  cases found : store.get? name with
  | none => exact .inl ⟨_, rfl, rfl, nofun⟩
  | some held =>
    obtain ⟨label, value⟩ := held
    cases value with
    | number x => exact .inl ⟨_, rfl, rfl, fun other t same => by cases same; exact nofun⟩
    | string s => exact .inl ⟨_, rfl, rfl, fun other t same => by cases same; exact nofun⟩
    | table t =>
      refine .inr ⟨_, t, rfl, rfl, ?_⟩
      have declared : t.hasColumn column = true ↔ column ∈ t.columns := List.contains_iff_mem
      rw [← declared]
      dsimp only [Option.map_some, bind, Except.bind, Table.setCell?]
      cases column? : t.hasColumn column with
      | false => exact .inl ⟨nofun, rfl, rfl⟩
      | true =>
        cases row? : t.rows[row]? with
        | none =>
          have beyond := List.getElem?_eq_none_iff.mp row?
          exact .inl ⟨fun there => Nat.not_lt.mpr beyond there.2, rfl, rfl⟩
        | some cells =>
          have bound := (List.getElem?_eq_some_iff.mp row?).1
          exact .inr ⟨⟨rfl, bound⟩, _, Table.cellSet row? column cell, rfl, rfl⟩

end VariableStore

end RecipeEngine
