import RecipeEngine.Document.Basic

namespace RecipeEngine

def WrittenStep.fieldNames : List String := ["op", "id", "output", "args"]

def Document.fieldNames : List String := ["variables", "steps"]

namespace Document

/-- A seed: a number, a string, or an object with columns and possibly rows. -/
def seedOfJson? : Json → Option Value
  | .integer n => some (.number (Scalar.ofInt n))
  | .float x => some (.number x)
  | .text s => some (.string s)
  | .object fields => do
    match ← (Json.object fields).slots? ["columns", "rows"] with
    | [some columns, rows] => (Table.ofSlots? columns (rows.getD (.list []))).map .table
    | _ => none
  | _ => none

def stepOfJson? (j : Json) : Option WrittenStep := do
  match ← j.slots? WrittenStep.fieldNames with
  | [some operation, id, output, args] =>
    let operation ← operation.text?
    let id ← optionalText id
    let output ← optionalText output
    let arguments ← match args with
      | some args => args.bindings?
      | none => some NameMap.empty
    some ⟨operation, id, output, arguments⟩
  | _ => none
where
  optionalText : Option Json → Option (Option String)
    | none => some none
    | some .null => some none
    | some j => j.text?.map some

def seedsOfJson? (j : Json) : Option (NameMap Value) := do
  let fields ← j.fields?
  let seeds ← fields.mapM fun (name, seed) => (seedOfJson? seed).map (name, ·)
  some (NameMap.ofList seeds)

/-- A document from JSON; the variables and the steps may be missing. -/
def ofJson? (j : Json) : Option Document := do
  match ← j.slots? fieldNames with
  | [seeds, steps] =>
    let seeds ← match seeds with
      | some seeds => seedsOfJson? seeds
      | none => some NameMap.empty
    let steps ← match steps with
      | some steps => (← steps.items?).mapM stepOfJson?
      | none => some []
    some ⟨seeds, steps⟩
  | _ => none

end Document

end RecipeEngine
