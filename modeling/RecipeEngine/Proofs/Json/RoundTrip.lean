import RecipeEngine.Proofs.Json.Numeral
import RecipeEngine.Proofs.Json.Text

namespace RecipeEngine.Json

/-- The characters that a value starts with are neither white space nor closing brackets. -/
def opens (c : Char) : Bool := !isSpace c && c != ']' && c != '\x7d'

/-- A reader finds a value at the head of its text, whatever separator follows. -/
structure ReadsBack (value : ReadValue) (j : Json) : Prop where
  starts : ∃ c ∈ j.write.head?, opens c = true
  read : ∀ rest, Ends rest → value (j.write ++ rest) = some (j, rest)

theorem skipSpace_of_opens {c : Char} (opening : opens c = true) (tail : List Char) :
    skipSpace (c :: tail) = c :: tail := by
  have solid : isSpace c = false := by
    simp only [opens, Bool.and_eq_true, Bool.not_eq_true'] at opening
    exact opening.1.1
  rw [skipSpace, List.dropWhile_cons, solid]
  rfl

theorem ReadsBack.skipSpace_write {value : ReadValue} {j : Json} (back : ReadsBack value j)
    (rest : List Char) :
    skipSpace (j.write ++ rest) = j.write ++ rest := by
  obtain ⟨c, head, opening⟩ := back.starts
  obtain ⟨tail, text⟩ := List.head?_eq_some_iff.mp head
  rw [text]
  exact skipSpace_of_opens opening _

theorem writeItems_cons (item : Json) (items : List Json) :
    writeItems (item :: items) = item.write ++ items.flatMap fun next => ',' :: next.write := by
  induction items generalizing item with
  | nil => simp [writeItems]
  | cons next rest ih => rw [writeItems, ih, List.flatMap_cons, List.cons_append]

def fieldText (field : String × Json) : List Char := quote field.1 ++ ':' :: field.2.write

theorem writeFields_cons (field : String × Json) (fields : List (String × Json)) :
    writeFields (field :: fields) =
      fieldText field ++ fields.flatMap fun next => ',' :: fieldText next := by
  induction fields generalizing field with
  | nil => simp [writeFields, fieldText]
  | cons next rest ih =>
    rw [writeFields, ih]
    simp [fieldText]

section Containers

variable {value : ReadValue}

theorem ends_flatMap {α : Type} (text : α → List Char) (items : List α) {close : Char}
    (closes : close = ']' ∨ close = '\x7d') (rest : List Char) :
    Ends (items.flatMap (fun item => ',' :: text item) ++ close :: rest) := by
  cases items with
  | nil => exact ends_cons (Or.inr closes)
  | cons item items => exact ends_cons (Or.inl rfl)

theorem length_le_flatMap {α : Type} (text : α → List Char) (items : List α) (close : Char)
    (rest : List Char) :
    items.length < (items.flatMap (fun item => ',' :: text item) ++ close :: rest).length := by
  induction items with
  | nil => simp
  | cons item items ih =>
    simp only [List.flatMap_cons, List.length_append, List.length_cons] at ih ⊢
    omega

/-- The items after the first one are read back with the closing bracket. -/
theorem readItems_flatMap {items : List Json} (each : ∀ item ∈ items, ReadsBack value item)
    {fuel : Nat} (enough : items.length < fuel) (rest : List Char) :
    readItems value fuel (items.flatMap (fun item => ',' :: item.write) ++ ']' :: rest) =
      some (items, rest) := by
  induction items generalizing fuel with
  | nil =>
    obtain ⟨fuel, rfl⟩ := Nat.exists_eq_add_of_lt enough
    rfl
  | cons item items ih =>
    cases fuel with
    | zero => cases enough
    | succ fuel =>
      have head := each item List.mem_cons_self
      have tail := ih (fun next later => each next (List.mem_cons_of_mem _ later))
        (Nat.lt_of_succ_lt_succ enough)
      rw [List.flatMap_cons, List.cons_append, List.cons_append, List.append_assoc]
      change (value (skipSpace (item.write ++ _))).bind _ = _
      rw [head.skipSpace_write, head.read _ (ends_flatMap write items (Or.inl rfl) rest)]
      change (readItems value fuel _).bind _ = _
      rw [tail]
      rfl

theorem readField_fieldText {field : String × Json} (back : ReadsBack value field.2)
    {rest : List Char} (ends : Ends rest) :
    readField value (fieldText field ++ rest) = some (field, rest) := by
  rw [fieldText, List.append_assoc, List.cons_append, quote_append]
  change (readText _).bind _ = _
  rw [readText_escaped]
  change (value (skipSpace (field.2.write ++ rest))).bind _ = _
  rw [back.skipSpace_write, back.read rest ends]
  rfl

theorem skipSpace_fieldText (field : String × Json) (rest : List Char) :
    skipSpace (fieldText field ++ rest) = fieldText field ++ rest :=
  skipSpace_of_opens rfl _

/-- The fields after the first one are read back with the closing brace. -/
theorem readFields_flatMap {fields : List (String × Json)}
    (each : ∀ field ∈ fields, ReadsBack value field.2)
    {fuel : Nat} (enough : fields.length < fuel) (rest : List Char) :
    readFields value fuel (fields.flatMap (fun field => ',' :: fieldText field) ++ '\x7d' :: rest) =
      some (fields, rest) := by
  induction fields generalizing fuel with
  | nil =>
    obtain ⟨fuel, rfl⟩ := Nat.exists_eq_add_of_lt enough
    rfl
  | cons field fields ih =>
    cases fuel with
    | zero => cases enough
    | succ fuel =>
      have tail := ih (fun next later => each next (List.mem_cons_of_mem _ later))
        (Nat.lt_of_succ_lt_succ enough)
      rw [List.flatMap_cons, List.cons_append, List.cons_append, List.append_assoc]
      change (readField value (skipSpace (fieldText field ++ _))).bind _ = _
      rw [skipSpace_fieldText, readField_fieldText (each field List.mem_cons_self)
        (ends_flatMap fieldText fields (Or.inr rfl) rest)]
      change (readFields value fuel _).bind _ = _
      rw [tail]
      rfl

theorem readList_writeItems {items : List Json} (each : ∀ item ∈ items, ReadsBack value item)
    (rest : List Char) :
    readList value (writeItems items ++ ']' :: rest) = some (.list items, rest) := by
  cases items with
  | nil => rfl
  | cons item items =>
    have head := each item List.mem_cons_self
    rw [writeItems_cons, List.append_assoc, readList, head.skipSpace_write]
    obtain ⟨c, first, opening⟩ := head.starts
    obtain ⟨tail, text⟩ := List.head?_eq_some_iff.mp first
    split
    · rename_i closed
      obtain rfl : c = ']' := by
        rw [text] at closed
        exact (List.cons.inj closed).1
      cases opening
    · rw [head.read _ (ends_flatMap write items (Or.inl rfl) rest)]
      change (readItems value _ _).bind _ = _
      rw [readItems_flatMap (fun next later => each next (List.mem_cons_of_mem _ later))
        (length_le_flatMap write items ']' rest)]
      rfl

theorem readObject_writeFields {fields : List (String × Json)}
    (each : ∀ field ∈ fields, ReadsBack value field.2) (rest : List Char) :
    readObject value (writeFields fields ++ '\x7d' :: rest) = some (.object fields, rest) := by
  cases fields with
  | nil => rfl
  | cons field fields =>
    rw [writeFields_cons, List.append_assoc, readObject, skipSpace_fieldText]
    split
    · rename_i closed
      cases (List.cons.inj closed).1
    · rw [readField_fieldText (each field List.mem_cons_self)
        (ends_flatMap fieldText fields (Or.inr rfl) rest)]
      change (readFields value _ _).bind _ = _
      rw [readFields_flatMap (fun next later => each next (List.mem_cons_of_mem _ later))
        (length_le_flatMap fieldText fields '\x7d' rest)]
      rfl

end Containers

variable {scale : Scaling}

/-- The characters that a leaf starts with do not open a list or an object either. -/
def opensLeaf (c : Char) : Bool := opens c && c != '[' && c != '\x7b'

theorem opensLeaf_of_startsNumber {c : Char} (number : startsNumber c = true) :
    opensLeaf c = true := by
  rcases Bool.or_eq_true_iff.mp number with minus | digit
  · rw [of_decide_eq_true minus]
    rfl
  · have apart : ∀ other : Char, other.isDigit = false → c ≠ other := by
      rintro other plain rfl
      exact Bool.false_ne_true (plain.symm.trans digit)
    simp [opensLeaf, opens, isSpace, apart ' ' rfl, apart '\n' rfl, apart '\t' rfl,
      apart '\r' rfl, apart ']' rfl, apart '\x7d' rfl, apart '[' rfl, apart '\x7b' rfl]

theorem ReadsBack.leaf {j : Json} (starts : ∃ c ∈ j.write.head?, opensLeaf c = true)
    (read : ∀ rest, Ends rest → readLeaf scale (j.write ++ rest) = some (j, rest)) (depth : Nat) :
    ReadsBack (readValue scale depth) j := by
  obtain ⟨c, head, leaf⟩ := starts
  obtain ⟨tail, text⟩ := List.head?_eq_some_iff.mp head
  have opening : opens c = true := by
    simp only [opensLeaf, Bool.and_eq_true] at leaf
    exact leaf.1.1
  refine ⟨⟨c, head, opening⟩, fun rest ends => ?_⟩
  rw [← read rest ends, text, List.cons_append]
  unfold readValue
  -- A bracket or brace at the head would not start a leaf.
  split
  case h_5 => rfl
  all_goals
    rename_i bracket
    cases bracket
    cases leaf

/-- The values whose compact text a reader with number reader `scale` gives back, with lists and
objects at most `depth` deep. -/
inductive Readable (scale : Scaling) : Nat → Json → Prop
  | null {depth : Nat} : Readable scale depth .null
  | bool {depth : Nat} (b : Bool) : Readable scale depth (.bool b)
  | integer {depth : Nat} {n : Int} (fits : Fits n) : Readable scale depth (.integer n)
  | float {depth : Nat} {x : Float} (finite : x.isFinite = true) (inverts : scale.Inverts x) :
      Readable scale depth (.float x)
  | text {depth : Nat} (s : String) : Readable scale depth (.text s)
  | list {depth : Nat} {items : List Json} (each : ∀ item ∈ items, Readable scale depth item) :
      Readable scale (depth + 1) (.list items)
  | object {depth : Nat} {fields : List (String × Json)}
      (each : ∀ field ∈ fields, Readable scale depth field.2) :
      Readable scale (depth + 1) (.object fields)

theorem Readable.readsBack {depth : Nat} {j : Json} (readable : Readable scale depth j) :
    ReadsBack (readValue scale depth) j := by
  induction readable with
  | null => exact .leaf ⟨'n', rfl, rfl⟩ (fun _ _ => rfl) _
  | bool b => cases b with
    | true => exact .leaf ⟨'t', rfl, rfl⟩ (fun _ _ => rfl) _
    | false => exact .leaf ⟨'f', rfl, rfl⟩ (fun _ _ => rfl) _
  | @integer depth n fits =>
    have text : (Json.integer n).write = (toString n).toList := rfl
    obtain ⟨⟨c, head, number⟩, read⟩ := readLeaf_integer fits scale
    exact .leaf ⟨c, text ▸ head, opensLeaf_of_startsNumber number⟩
      (fun _ => text ▸ readLeaf_number_append ⟨c, head, number⟩ read) _
  | @float depth x finite inverts =>
    have text : (Json.float x).write = (NumberFormat.json x).toList := if_pos finite
    obtain ⟨c, head, number⟩ := inverts.starts
    exact .leaf ⟨c, text ▸ head, opensLeaf_of_startsNumber number⟩
      (fun _ => text ▸ readLeaf_number_append ⟨c, head, number⟩ inverts) _
  | text s => exact .leaf ⟨'"', rfl, rfl⟩ (fun rest _ => readLeaf_quote scale s rest) _
  | list _ ih =>
    refine ⟨⟨'[', rfl, rfl⟩, fun rest _ => ?_⟩
    rw [write, List.cons_append, List.append_assoc]
    exact readList_writeItems ih rest
  | object _ ih =>
    refine ⟨⟨'\x7b', rfl, rfl⟩, fun rest _ => ?_⟩
    rw [write, List.cons_append, List.append_assoc]
    exact readObject_writeFields ih rest

theorem read_compact {j : Json} (readable : Readable scale depthLimit j) :
    read scale j.compact = some j := by
  have back := readable.readsBack
  have whole := back.read [] ends_nil
  have solid := back.skipSpace_write []
  rw [List.append_nil] at whole solid
  rw [read, compact, String.toList_ofList, solid, whole]
  rfl

end RecipeEngine.Json
