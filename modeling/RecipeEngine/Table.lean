import RecipeEngine.Scalar

namespace RecipeEngine

/-- The cells of one row by column name; a name without one is absent there. -/
abbrev Row := NameMap Scalar

structure Table where
  columns : List String
  rows : List Row
deriving BEq

namespace Table

def empty : Table := ⟨[], []⟩

instance : Inhabited Table := ⟨empty⟩

def hasColumn (t : Table) (column : String) : Bool :=
  t.columns.contains column

/-- The cell of a row; none for a row beyond the end or an absent cell. -/
def cell? (t : Table) (row : Nat) (column : String) : Option Scalar :=
  t.rows[row]?.bind fun cells => cells.get? column

/-- The columns are distinct and every row has cells in declared columns only. -/
def WellFormed (t : Table) : Prop :=
  t.columns.Nodup ∧ ∀ row ∈ t.rows, ∀ name ∈ row.names, name ∈ t.columns

/-- The table with one cell replaced; none if the column is not declared or the row is beyond the
end. -/
def setCell? (t : Table) (row : Nat) (column : String) (cell : Scalar) : Option Table :=
  if t.hasColumn column then
    match t.rows[row]? with
    | some cells => some { t with rows := t.rows.set row (cells.insert column cell) }
    | none => none
  else none

def rowToJson (row : Row) : Json :=
  .object (row.toList.map fun (name, cell) => (name, cell.toJson))

def toFields (t : Table) : List (String × Json) :=
  [("columns", .list (t.columns.map .text)), ("rows", .list (t.rows.map rowToJson))]

def rowOfJson? (j : Json) : Option Row := do
  let fields ← j.fields?
  let cells ← fields.mapM fun (name, value) => (Scalar.ofJson? value).map (name, ·)
  some (NameMap.ofList cells)

def textsOfJson? (j : Json) : Option (List String) := do
  (← j.items?).mapM Json.text?

def ofSlots? (columns rows : Json) : Option Table := do
  let columns ← textsOfJson? columns
  let rows ← (← rows.items?).mapM rowOfJson?
  some ⟨columns, rows⟩

end Table

end RecipeEngine
