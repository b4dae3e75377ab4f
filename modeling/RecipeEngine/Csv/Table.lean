import RecipeEngine.Csv.Record
import RecipeEngine.Failure
import RecipeEngine.Table

namespace RecipeEngine.Csv

def suffixed (name : String) (k : Nat) : String :=
  name ++ "_" ++ toString k

/-- The first of `name_k`, `name_(k+1)`, … that is not taken, among `tries` names. -/
def firstFree (taken : List String) (name : String) : Nat → Nat → String
  | 0, k => suffixed name k
  | tries + 1, k =>
    if taken.contains (suffixed name k) then firstFree taken name tries (k + 1)
    else suffixed name k

/-- The name itself if it is free, else the first free `name_1`, `name_2`, …; among one more than
the taken names one is free. -/
def freeName (taken : List String) (name : String) : String :=
  if taken.contains name then firstFree taken name taken.length 1 else name

def uniqueNames (taken : List String) : List String → List String
  | [] => []
  | name :: rest =>
    let free := freeName taken name
    free :: uniqueNames (free :: taken) rest

def numberedColumns (count : Nat) : List String :=
  (List.range count).map fun i => "Column " ++ toString (i + 1)

/-- The fields of a record under the columns, as far as both go. -/
def toRow (columns fields : List String) : Row :=
  NameMap.ofList ((columns.zip fields).map fun (column, field) => (column, Scalar.ofField field))

structure Ragged where
  line : Nat
  expected : Nat
  found : Nat
deriving DecidableEq, Repr

def Ragged.message (r : Ragged) : String :=
  "line " ++ toString r.line ++ ": expected " ++ toString r.expected ++ " fields but found " ++
    toString r.found

def ragged? (expected : Nat) (records : List Record) : Option Ragged :=
  (records.find? fun r => r.fields.length ≠ expected).map fun r =>
    ⟨r.line, expected, r.fields.length⟩

/-- The table of a text whose first record names the columns; every other must be as long. -/
def withHeader (cs : List Char) : Except Ragged Table :=
  match records cs with
  | [] => .ok Table.empty
  | header :: rest =>
    let columns := uniqueNames [] header.fields
    match ragged? columns.length rest with
    | some r => .error r
    | none => .ok ⟨columns, rest.map fun r => toRow columns r.fields⟩

/-- The table of a text without a header. The first record fixes the number of columns: shorter
records leave cells absent, and what longer ones have beyond it is dropped. -/
def withoutHeader (cs : List Char) : Table :=
  match records cs with
  | [] => Table.empty
  | first :: rest =>
    let columns := numberedColumns first.fields.length
    ⟨columns, (first :: rest).map fun r => toRow columns r.fields⟩

/-- The table of a text, which may start with a byte order mark. -/
def toTable (text : String) (hasHeader : Bool) : Except Failure Table :=
  let cs := dropMark text.toList
  if hasHeader then (withHeader cs).mapError fun r => .csvSyntax r.message
  else .ok (withoutHeader cs)

end RecipeEngine.Csv
