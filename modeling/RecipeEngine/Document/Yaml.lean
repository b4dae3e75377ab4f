import RecipeEngine.Document.Json
import RecipeEngine.Yaml.Content

namespace RecipeEngine

open Yaml (Node Problem)

namespace Document

mutual

def requireContent : Node → Except Problem Unit
  | .scalar tag style s => (Node.leaf tag style s).map fun _ => ()
  | .sequence tag items =>
    if Node.isLocal tag then Node.shape "content without a local tag" else requireItems items
  | .mapping tag entries =>
    if Node.isLocal tag then Node.shape "content without a local tag" else requireEntries entries
  | .reference _ => Node.shape "content without references"

def requireItems : List Node → Except Problem Unit
  | [] => .ok ()
  | item :: rest => do
    requireContent item
    requireItems rest

def requireEntries : List (Node × Node) → Except Problem Unit
  | [] => .ok ()
  | (key, value) :: rest => do
    requireContent key
    requireContent value
    requireEntries rest

end

def content : Node → Except Problem Json
  | .scalar tag style s => Node.leaf tag style s
  | _ => Node.shape "a scalar"

def strictText (node : Node) : Except Problem String := do
  match ← content node with
  | .text s => .ok s
  | _ => Node.shape "a string"

/-- A cell: a number, or a text that is spelled as one. -/
def cell (node : Node) : Except Problem Scalar := do
  match Scalar.ofJson? (← content node) with
  | some c => .ok c
  | none => Node.shape "a number or a string"

def row : Node → Except Problem Row
  | .mapping _ entries => do
    let cells ← entries.mapM fun (key, value) => do
      let name ← strictText key
      let c ← cell value
      .ok (name, c)
    .ok (NameMap.ofList cells)
  | _ => Node.shape "a row"

def strictItems : Node → Except Problem (List Node)
  | .sequence _ items => .ok items
  | _ => Node.shape "a sequence"

/-- The part of a table that a key names: by its name, or by its position. -/
def tablePart (key : Node) : Except Problem (Option String) := do
  match ← content key with
  | .text s => .ok (if s = "columns" ∨ s = "rows" then some s else none)
  | .integer n =>
    if n < 0 then Node.shape "a field" else .ok (["columns", "rows"][n.toNat]?)
  | _ => Node.shape "a field"

def valuesOf (part : String) (entries : List (Option String × Node)) : List Node :=
  (entries.filter (·.1 = some part)).map (·.2)

def seedTable (entries : List (Node × Node)) : Except Problem Table := do
  let parts ← entries.mapM fun (key, value) => (tablePart key).map (·, value)
  match valuesOf "columns" parts, valuesOf "rows" parts with
  | [columns], [] => do
    let columns ← (← strictItems columns).mapM strictText
    .ok ⟨columns, []⟩
  | [columns], [rows] => do
    let columns ← (← strictItems columns).mapM strictText
    let rows ← (← strictItems rows).mapM row
    .ok ⟨columns, rows⟩
  | [], _ => .error ⟨.missingField "columns", none⟩
  | [_], _ => .error ⟨.duplicateField "rows", none⟩
  | _, _ => .error ⟨.duplicateField "columns", none⟩

def seed (node : Node) : Except Problem Value := do
  requireContent node
  match node with
  | .mapping _ entries => (seedTable entries).map .table
  | .scalar tag style s =>
    match ← Node.leaf tag style s with
    | .integer n => .ok (.number (Scalar.ofInt n))
    | .float x => .ok (.number x)
    | .text s => .ok (.string s)
    | _ => Node.shape "a number, a string or a table"
  | _ => Node.shape "a number, a string or a table"

def arguments (node : Node) : Except Problem Arguments := do
  let fields ← (← node.entries).mapM fun (name, value) => (value.toJson).map (name, ·)
  .ok (NameMap.ofList (Json.canonicalFields fields))

def writtenStep (node : Node) : Except Problem WrittenStep := do
  let fields ← node.fields WrittenStep.fieldNames
  let part (name : String) := NameMap.find name fields
  let operation ← match part "op" with
    | some n => n.text
    | none => .error ⟨.missingField "op", none⟩
  let id ← match part "id" with
    | some n => n.optionalText
    | none => .ok none
  let output ← match part "output" with
    | some n => n.optionalText
    | none => .ok none
  let arguments ← match part "args" with
    | some n => arguments n
    | none => .ok NameMap.empty
  .ok ⟨operation, id, output, arguments⟩

def ofNode (node : Node) : Except Problem Document := do
  let fields ← node.fields fieldNames
  let seeds ← match NameMap.find "variables" fields with
    | some n => (← n.entries).mapM fun (name, value) => (seed value).map (name, ·)
    | none => .ok []
  let steps ← match NameMap.find "steps" fields with
    | some n => (← n.items).mapM writtenStep
    | none => .ok []
  .ok ⟨NameMap.ofList seeds, steps⟩

/-- A document from a YAML text; a text without content is the empty document. -/
def ofYaml (text : String) : Except Failure Document :=
  match Node.parse text >>= fun node => ofNode (node.getD .empty) with
  | .ok document => .ok document
  | .error problem => .error (.yamlSyntax problem.message)

end Document

end RecipeEngine
