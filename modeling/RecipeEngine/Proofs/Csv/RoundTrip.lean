import RecipeEngine.Proofs.Csv.Rows

namespace RecipeEngine.Csv

inductive LineEnd where
  | lineFeed
  | carriageReturnLineFeed
deriving DecidableEq, Repr

def LineEnd.chars : LineEnd → List Char
  | .lineFeed => ['\n']
  | .carriageReturnLineFeed => ['\r', '\n']

/-- A character inside a quoted field: a quote is written twice. -/
def doubled (c : Char) : List Char := if c = '"' then ['"', '"'] else [c]

def writeField (field : String) : List Char :=
  '"' :: (field.toList.flatMap doubled ++ ['"'])

/-- A record: its fields with commas between them. -/
def writeRecord (fields : List String) : List Char :=
  [','].intercalate (fields.map writeField)

def write (ending : LineEnd) (records : List (List String)) : String :=
  String.ofList (ending.chars.intercalate (records.map writeRecord))

namespace Progress

variable {p : Progress} {field : List Char} {fields : List String} {done : List (List String)}

/-- What the reader has read when it stands in a given mode, line numbers apart. -/
structure Reads (p : Progress) (mode : Mode) (field : List Char) (fields : List String)
    (done : List (List String)) : Prop where
  mode : p.mode = mode
  field : p.field = field
  fields : p.fields = fields
  done : p.records.map Record.fields = done

def Opens (p : Progress) (fields : List String) (done : List (List String)) : Prop :=
  p.Reads .betweenRecords [] fields done ∨ p.Reads .fieldStart [] fields done

/-- The reader has come to the quote that closes a field; that field is the latest. -/
def Closes (p : Progress) (fields : List String) (done : List (List String)) : Prop :=
  ∃ text former, p.Reads .afterQuote text former done ∧ String.ofList text.reverse :: former = fields

theorem Opens.step_quote (opens : p.Opens fields done) :
    (p.step '"').Reads .quoted [] fields done := by
  rcases opens with ⟨mode, field, fields, done⟩ | ⟨mode, field, fields, done⟩ <;>
    constructor <;> simp [step, openField, isTerminator, mode, field, fields, done]

theorem Reads.foldl_doubled (inside : p.Reads .quoted field fields done) (c : Char) :
    ((doubled c).foldl step p).Reads .quoted (c :: field) fields done := by
  obtain ⟨mode, field, fields, done⟩ := inside
  unfold doubled
  by_cases quote : c = '"'
  · constructor <;> simp [quote, step, push, mode, field, fields, done]
  · by_cases feed : c = '\n' <;> constructor <;>
      simp [quote, feed, step, push, mode, field, fields, done]

theorem Reads.foldl_flatMap_doubled (inside : p.Reads .quoted field fields done)
    (text : List Char) :
    ((text.flatMap doubled).foldl step p).Reads .quoted (text.reverse ++ field) fields done := by
  induction text generalizing p field with
  | nil => exact inside
  | cons c rest ih =>
    rw [List.flatMap_cons, List.foldl_append, List.reverse_cons, List.append_assoc]
    exact ih (inside.foldl_doubled c)

theorem Reads.step_closing (inside : p.Reads .quoted field fields done) :
    (p.step '"').Closes (String.ofList field.reverse :: fields) done := by
  obtain ⟨mode, field, fields, done⟩ := inside
  refine ⟨_, _, ?_, rfl⟩
  constructor <;> simp [step, mode, field, fields, done]

theorem Opens.foldl_writeField (opens : p.Opens fields done) (name : String) :
    ((writeField name).foldl step p).Closes (name :: fields) done := by
  have inside := opens.step_quote.foldl_flatMap_doubled name.toList
  have closes := inside.step_closing
  rw [List.append_nil, List.reverse_reverse, String.ofList_toList] at closes
  simpa only [writeField, List.foldl_cons, List.foldl_append, List.foldl_nil] using closes

theorem Closes.step_comma (closes : p.Closes fields done) : (p.step ',').Opens fields done := by
  obtain ⟨text, former, ⟨mode, field, fields, done⟩, rfl⟩ := closes
  right
  constructor <;> simp [step, endField, mode, field, fields, done]

theorem Closes.foldl_lineEnd (closes : p.Closes fields done) (ending : LineEnd) :
    (ending.chars.foldl step p).Opens [] (fields.reverse :: done) := by
  obtain ⟨text, former, ⟨mode, field, fields, done⟩, rfl⟩ := closes
  left
  cases ending <;> constructor <;>
    simp [LineEnd.chars, step, endRecord, endField, isTerminator, mode, field, fields, done]

theorem Closes.finish (closes : p.Closes fields done) :
    p.finish.map Record.fields = (fields.reverse :: done).reverse := by
  obtain ⟨text, former, ⟨mode, field, fields, done⟩, rfl⟩ := closes
  simp [Progress.finish, endRecord, endField, mode, field, fields, done]

theorem Opens.foldl_writeRecord (opens : p.Opens fields done) (first : String)
    (rest : List String) :
    ((writeRecord (first :: rest)).foldl step p).Closes ((first :: rest).reverse ++ fields)
      done := by
  induction rest generalizing p fields first with
  | nil => simpa [writeRecord] using opens.foldl_writeField first
  | cons second others ih =>
    have later := ih (opens.foldl_writeField first).step_comma second
    simpa only [writeRecord, List.map_cons, List.intercalate_cons_cons, List.foldl_append,
      List.foldl_cons, List.foldl_nil, List.reverse_cons, List.append_assoc, List.cons_append,
      List.nil_append] using later

theorem Opens.foldl_write (opens : p.Opens [] done) (ending : LineEnd)
    {records : List (List String)} (given : records ≠ [])
    (filled : ∀ fields ∈ records, fields ≠ []) :
    ((ending.chars.intercalate (records.map writeRecord)).foldl step p).finish.map Record.fields =
      done.reverse ++ records := by
  induction records generalizing p done with
  | nil => exact absurd rfl given
  | cons first rest ih =>
    obtain ⟨name, others, rfl⟩ := List.exists_cons_of_ne_nil (filled first List.mem_cons_self)
    have closes := opens.foldl_writeRecord name others
    rw [List.append_nil] at closes
    cases rest with
    | nil =>
      rw [List.map_cons, List.map_nil, List.intercalate_singleton, closes.finish]
      simp
    | cons second more =>
      have later := ih (closes.foldl_lineEnd ending) (by simp) fun fields member =>
        filled fields (List.mem_cons_of_mem _ member)
      rw [List.map_cons, List.map_cons, List.intercalate_cons_cons, List.foldl_append,
        List.foldl_append, ← List.map_cons, later]
      simp

end Progress

/-- A written text starts with a quote, so nothing is taken for a byte order mark. -/
theorem dropMark_write (ending : LineEnd) {header : List String} (named : header ≠ [])
    (rows : List (List String)) :
    dropMark (write ending (header :: rows)).toList = (write ending (header :: rows)).toList := by
  obtain ⟨name, others, rfl⟩ := List.exists_cons_of_ne_nil named
  have quote : ∃ rest, (write ending ((name :: others) :: rows)).toList = '"' :: rest := by
    cases others <;> cases rows <;>
      simp [write, writeRecord, writeField, List.intercalate_cons_cons]
  obtain ⟨rest, shape⟩ := quote
  rw [shape, dropMark, if_neg (by decide)]

theorem records_write (ending : LineEnd) {header : List String} {rows : List (List String)}
    (named : header ≠ []) (even : ∀ fields ∈ rows, fields.length = header.length) :
    (records (write ending (header :: rows)).toList).map Record.fields = header :: rows := by
  have opens : Progress.start.Opens [] [] := Or.inl ⟨rfl, rfl, rfl, rfl⟩
  have filled : ∀ fields ∈ header :: rows, fields ≠ [] := by
    intro fields member
    rcases List.mem_cons.mp member with rfl | later
    · exact named
    · have size := even fields later
      exact List.ne_nil_of_length_pos (size ▸ List.length_pos_of_ne_nil named)
  rw [records, dropMark_write ending named, write, String.toList_ofList]
  exact opens.foldl_write ending (by simp) filled

theorem freeName_of_not_mem {taken : List String} {name : String} (free : name ∉ taken) :
    freeName taken name = name := by
  rw [freeName, if_neg fun member => free (List.contains_iff_mem.mp member)]

theorem uniqueNames_of_nodup {taken names : List String} (distinct : names.Nodup)
    (free : ∀ name ∈ names, name ∉ taken) : uniqueNames taken names = names := by
  induction names generalizing taken with
  | nil => rfl
  | cons first rest ih =>
    obtain ⟨fresh, tail⟩ := List.nodup_cons.mp distinct
    have kept := freeName_of_not_mem (free first List.mem_cons_self)
    simp only [uniqueNames, kept]
    refine congrArg (first :: ·) (ih tail fun name member taken => ?_)
    rcases List.mem_cons.mp taken with rfl | earlier
    · exact fresh member
    · exact free name (List.mem_cons_of_mem _ member) earlier

theorem ragged?_eq_none {count : Nat} {records : List Record}
    (even : ∀ r ∈ records, r.fields.length = count) : ragged? count records = none := by
  rw [ragged?, Option.map_eq_none_iff, List.find?_eq_none]
  intro r member
  simp [even r member]

/-- A row holds the cells of a record under the columns in their order, and no others. -/
structure RowOf (columns fields : List String) (row : Row) : Prop where
  cells : ∀ (i : Nat) (column field : String), columns[i]? = some column →
    fields[i]? = some field → row.get? column = some (Scalar.ofField field)
  others : ∀ column, column ∉ columns → row.get? column = none

theorem toRow_rowOf {columns fields : List String} (distinct : columns.Nodup)
    (even : fields.length = columns.length) : RowOf columns fields (toRow columns fields) where
  cells := (toRow_rowFrom distinct fields).cells
  others column foreign := NameMap.get?_eq_none_of_not_mem fun bound =>
    foreign (((toRow_rowFrom distinct fields).names_of_even even column).mp bound)

theorem rows_rowOf {columns : List String} (distinct : columns.Nodup) {records : List Record}
    (even : ∀ r ∈ records, r.fields.length = columns.length) :
    List.Forall₂ (RowOf columns) (records.map Record.fields)
      (records.map fun r => toRow columns r.fields) := by
  rw [List.forall₂_map_left_iff, List.forall₂_map_right_iff]
  exact List.forall₂_same.mpr fun r member => toRow_rowOf distinct (even r member)

/-- A text of quoted fields, with distinct names in its first record and as many fields in every
other, is read as the table of its records: under those names, or, without a header, under numbered
columns and with the first record as a row like the others. -/
theorem toTable_write (ending : LineEnd) {header : List String} {rows : List (List String)}
    (named : header ≠ []) (distinct : header.Nodup)
    (even : ∀ fields ∈ rows, fields.length = header.length) :
    (∃ t, toTable (write ending (header :: rows)) true = .ok t ∧ t.columns = header ∧
        List.Forall₂ (RowOf header) rows t.rows) ∧
      ∃ t, toTable (write ending (header :: rows)) false = .ok t ∧
        t.columns = numberedColumns header.length ∧
        List.Forall₂ (RowOf (numberedColumns header.length)) (header :: rows) t.rows := by
  have read := records_write ending named even
  obtain ⟨first, rest, found, head, tail⟩ := List.map_eq_cons_iff.mp read
  have keeps := uniqueNames_of_nodup distinct fun _ _ => List.not_mem_nil
  have evenRest : ∀ r ∈ rest, r.fields.length = header.length := fun r member =>
    even r.fields (tail ▸ List.mem_map_of_mem member)
  have evenAll : ∀ r ∈ first :: rest,
      r.fields.length = (numberedColumns header.length).length := by
    intro r member
    rw [numberedColumns, List.length_map, List.length_range]
    rcases List.mem_cons.mp member with rfl | later
    · exact congrArg List.length head
    · exact evenRest r later
  refine ⟨⟨⟨header, rest.map fun r => toRow header r.fields⟩, ?_, rfl, ?_⟩,
    ⟨numberedColumns header.length,
      (first :: rest).map fun r => toRow (numberedColumns header.length) r.fields⟩, ?_, rfl, ?_⟩
  · simp only [toTable, if_true, dropMark_write ending named, withHeader, found, head, keeps,
      ragged?_eq_none evenRest]
    rfl
  · exact tail ▸ rows_rowOf distinct evenRest
  · simp only [toTable, Bool.false_eq_true, if_false, dropMark_write ending named, withoutHeader,
      found, head]
  · rw [← read, found]
    exact rows_rowOf (numberedColumns_nodup _) evenAll

/-- A name that starts with a byte order mark, and an empty one. -/
def townHeader : List String := ["\ufefftown, land", ""]

def townRecords : List (List String) := [["say \"no\"", "12"], ["a\r\nb", ""]]

theorem toTable_write_towns :
    townHeader ≠ [] ∧ townHeader.Nodup ∧
      (∀ fields ∈ townRecords, fields.length = townHeader.length) ∧
      (∃ t, toTable (write .carriageReturnLineFeed (townHeader :: townRecords)) true = .ok t ∧
          t.columns = townHeader ∧ List.Forall₂ (RowOf townHeader) townRecords t.rows) ∧
      ∃ t, toTable (write .carriageReturnLineFeed (townHeader :: townRecords)) false = .ok t ∧
        t.columns = numberedColumns 2 ∧
        List.Forall₂ (RowOf (numberedColumns 2)) (townHeader :: townRecords) t.rows :=
  have named : townHeader ≠ [] := by simp [townHeader]
  have distinct : townHeader.Nodup := by decide
  have even : ∀ fields ∈ townRecords, fields.length = townHeader.length := by decide
  ⟨named, distinct, even, toTable_write .carriageReturnLineFeed named distinct even⟩

example : (write .lineFeed [["a\"b", "1,2"], ["", "x"]]).toList =
    "\"a\"\"b\",\"1,2\"\n\"\",\"x\"".toList := by decide

end RecipeEngine.Csv
