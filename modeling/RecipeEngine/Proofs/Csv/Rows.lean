import Mathlib.Data.List.Forall2
import RecipeEngine.Proofs.Csv.Columns

namespace RecipeEngine.Csv

variable {columns fields : List String} {name : String}

theorem keys_zip (columns fields : List String) :
    (columns.zip fields).map Prod.fst = columns.take fields.length := by
  induction columns generalizing fields with
  | nil => rw [List.zip_nil_left, List.take_nil, List.map_nil]
  | cons column rest ih =>
    cases fields with
    | nil => rfl
    | cons field others => exact congrArg (column :: ·) (ih others)

/-- A row read from a record: it has cells in the first columns, as many as the record has fields,
and in no others, and each is read from the field in its place. -/
structure RowFrom (columns fields : List String) (row : Row) : Prop where
  names : ∀ name, name ∈ row.names ↔ name ∈ columns.take fields.length
  cells : ∀ (j : Nat) (column field : String), columns[j]? = some column →
    fields[j]? = some field → row.get? column = some (Scalar.ofField field)

theorem get?_toRow (distinct : columns.Nodup) {j : Nat} {column field : String}
    (named : columns[j]? = some column) (given : fields[j]? = some field) :
    (toRow columns fields).get? column = some (Scalar.ofField field) := by
  have keys : (((columns.zip fields).map fun entry =>
      (entry.1, Scalar.ofField entry.2)).map (·.1)).Nodup := by
    rw [List.map_map]
    exact keys_zip columns fields ▸ distinct.sublist (List.take_sublist _ _)
  have paired : (column, field) ∈ columns.zip fields :=
    List.mem_iff_getElem?.mpr ⟨j, List.getElem?_zip_eq_some.mpr ⟨named, given⟩⟩
  rw [toRow, NameMap.get?_ofList keys]
  exact NameMap.find_of_mem keys (List.mem_map.mpr ⟨_, paired, rfl⟩)

theorem mem_names_toRow (distinct : columns.Nodup) :
    name ∈ (toRow columns fields).names ↔ name ∈ columns.take fields.length := by
  constructor
  · intro bound
    have member := NameMap.mem_names_ofList bound
    rw [List.map_map] at member
    exact keys_zip columns fields ▸ member
  · intro member
    obtain ⟨j, within, rfl⟩ := List.mem_take_iff_getElem.mp member
    obtain ⟨short, long⟩ := Nat.lt_min.mp within
    have cell := get?_toRow distinct (List.getElem?_eq_getElem long)
      (List.getElem?_eq_getElem short)
    refine Classical.byContradiction fun absent => ?_
    rw [NameMap.get?_eq_none_of_not_mem absent] at cell
    cases cell

theorem toRow_rowFrom (distinct : columns.Nodup) (fields : List String) :
    RowFrom columns fields (toRow columns fields) where
  names _ := mem_names_toRow distinct
  cells _ _ _ named given := get?_toRow distinct named given

/-- A record with a field for every column gives a row with a cell in each. -/
theorem RowFrom.names_of_even {row : Row} (rowFrom : RowFrom columns fields row)
    (even : fields.length = columns.length) (name : String) :
    name ∈ row.names ↔ name ∈ columns := by
  rw [rowFrom.names, even, List.take_length]

def fieldLists (text : String) : List (List String) :=
  (records (dropMark text.toList)).map Record.fields

def headerFields (text : String) : List String := (fieldLists text).headD []

/-- The first record that is longer or shorter than the first one. -/
def misfit? (text : String) : Option Record :=
  (records (dropMark text.toList)).find? fun r => r.fields.length ≠ (headerFields text).length

section Reading

variable {text : String} {header : Record} {rest : List Record}

theorem ragged?_of_records (read : records (dropMark text.toList) = header :: rest) :
    ragged? (uniqueNames [] header.fields).length rest = (misfit? text).map fun r =>
      ⟨r.line, (headerFields text).length, r.fields.length⟩ := by
  have first : headerFields text = header.fields := by
    rw [headerFields, fieldLists, read, List.map_cons, List.headD_cons]
  rw [ragged?, misfit?, uniqueNames_length, first, read, List.find?_cons_of_neg (by simp)]

theorem toTable_of_misfit {r : Record} (found : misfit? text = some r) :
    toTable text true = .error (.csvSyntax
      (Ragged.message ⟨r.line, (headerFields text).length, r.fields.length⟩)) := by
  cases read : records (dropMark text.toList) with
  | nil =>
    rw [misfit?, read] at found
    cases found
  | cons header rest =>
    have ragged := ragged?_of_records read
    rw [found, Option.map_some] at ragged
    simp only [toTable, if_true, withHeader, read, ragged, Except.mapError]

theorem toTable_of_even (even : misfit? text = none) :
    toTable text true = .ok
      ⟨uniqueNames [] (headerFields text),
        (fieldLists text).tail.map (toRow (uniqueNames [] (headerFields text)))⟩ := by
  cases read : records (dropMark text.toList) with
  | nil => simp only [toTable, if_true, withHeader, read, headerFields, fieldLists]; rfl
  | cons header rest =>
    have ragged := ragged?_of_records read
    rw [even, Option.map_none] at ragged
    simp only [toTable, if_true, withHeader, read, ragged, Except.mapError, headerFields,
      fieldLists, List.map_cons, List.headD_cons, List.tail_cons, List.map_map]
    rfl

theorem toTable_headerless (text : String) :
    toTable text false = .ok
      ⟨numberedColumns (headerFields text).length,
        (fieldLists text).map (toRow (numberedColumns (headerFields text).length))⟩ := by
  cases read : records (dropMark text.toList) with
  | nil => simp only [toTable, withoutHeader, read, headerFields, fieldLists]; rfl
  | cons header rest =>
    simp only [toTable, withoutHeader, read, headerFields, fieldLists, List.map_cons,
      List.headD_cons, List.map_map]
    rfl

theorem misfit?_eq_none_iff :
    misfit? text = none ↔
      ∀ fields ∈ fieldLists text, fields.length = (headerFields text).length := by
  rw [misfit?, List.find?_eq_none, fieldLists, List.forall_mem_map]
  exact forall₂_congr fun r _ => by simp

end Reading

/-- A text with a header is refused exactly if some record has more or fewer fields than the first.
If it is not, then the columns are distinct and as many as the fields of the first record, and each
further record is a row, in the same order, with a cell in every column and in no other. Without a
header no text is refused; each record is a row, with cells in as many of the first columns as it
has fields. In both, the cell under a column is read from the field in its place. -/
theorem toTable_lossless (text : String) :
    ((∃ why, toTable text true = .error why) ↔
        ∃ fields ∈ fieldLists text, fields.length ≠ (headerFields text).length) ∧
      (∀ t, toTable text true = .ok t →
        t.columns.Nodup ∧ t.columns.length = (headerFields text).length ∧
          List.Forall₂ (RowFrom t.columns) (fieldLists text).tail t.rows ∧
          ∀ row ∈ t.rows, ∀ name, name ∈ row.names ↔ name ∈ t.columns) ∧
      ∃ t, toTable text false = .ok t ∧
        t.columns.Nodup ∧ t.columns.length = (headerFields text).length ∧
        List.Forall₂ (RowFrom t.columns) (fieldLists text) t.rows := by
  have rows {columns : List String} (distinct : columns.Nodup) (records : List (List String)) :
      List.Forall₂ (RowFrom columns) records (records.map (toRow columns)) :=
    List.forall₂_map_right_iff.mpr
      (List.forall₂_same.mpr fun fields _ => toRow_rowFrom distinct fields)
  refine ⟨?_, fun t read => ?_, _, toTable_headerless text, numberedColumns_nodup _, ?_,
    rows (numberedColumns_nodup _) _⟩
  · cases misfit : misfit? text with
    | none =>
      have even := misfit?_eq_none_iff.mp misfit
      rw [toTable_of_even misfit]
      simpa using even
    | some r =>
      have uneven : ¬ ∀ fields ∈ fieldLists text, fields.length = (headerFields text).length := by
        rw [← misfit?_eq_none_iff, misfit]
        exact nofun
      rw [toTable_of_misfit misfit]
      simpa using uneven
  · cases misfit : misfit? text with
    | some r => cases (toTable_of_misfit misfit).symm.trans read
    | none =>
      have even := misfit?_eq_none_iff.mp misfit
      obtain rfl := Except.ok.inj ((toTable_of_even misfit).symm.trans read)
      have distinct := uniqueNames_nodup [] (headerFields text)
      have size := uniqueNames_length [] (headerFields text)
      refine ⟨distinct, size, rows distinct _, fun row member => ?_⟩
      obtain ⟨fields, further, rfl⟩ := List.mem_map.mp member
      refine (toRow_rowFrom distinct fields).names_of_even ?_
      rw [even fields (List.mem_of_mem_tail further)]
      exact size.symm
  · rw [numberedColumns, List.length_map, List.length_range]

/-- A header in which the name for a repeated column is taken already. -/
def clashing : String := "a,a_1,a\n1,\"x,y\",+3\r\n,z,-2.5e1"

theorem toTable_lossless_clashing :
    fieldLists clashing = [["a", "a_1", "a"], ["1", "x,y", "+3"], ["", "z", "-2.5e1"]] ∧
      ∃ t, toTable clashing true = .ok t ∧ t.columns = ["a", "a_1", "a_2"] ∧ t.columns.Nodup ∧
        List.Forall₂ (RowFrom t.columns) [["1", "x,y", "+3"], ["", "z", "-2.5e1"]] t.rows := by
  have lists : fieldLists clashing =
      [["a", "a_1", "a"], ["1", "x,y", "+3"], ["", "z", "-2.5e1"]] := by decide +kernel
  have even : misfit? clashing = none := by decide +kernel
  obtain ⟨distinct, -, rows, -⟩ := (toTable_lossless clashing).2.1 _ (toTable_of_even even)
  refine ⟨lists, _, toTable_of_even even, by decide +kernel, distinct, ?_⟩
  rw [lists] at rows
  exact rows

end RecipeEngine.Csv
