import RecipeEngine.NameMap

namespace RecipeEngine

/-- A JSON value. Integers and floats are apart: `3` and `3.0` are different values. The fields of
an object keep their written order and may repeat a name. -/
inductive Json where
  | null
  | bool (value : Bool)
  | integer (value : Int)
  | float (value : Float)
  | text (value : String)
  | list (items : List Json)
  | object (fields : List (String × Json))

namespace Json

mutual

/-- The value with the fields of every object sorted; of several with one name the last stands. -/
def canonical : Json → Json
  | .list items => .list (canonicalItems items)
  | .object fields => .object (NameMap.ofList (canonicalFields fields)).toList
  | other => other

def canonicalItems : List Json → List Json
  | [] => []
  | item :: rest => canonical item :: canonicalItems rest

def canonicalFields : List (String × Json) → List (String × Json)
  | [] => []
  | (name, value) :: rest => (name, canonical value) :: canonicalFields rest

end

def field? (name : String) : Json → Option Json
  | .object fields => NameMap.find name fields
  | _ => none

/-- The values of the fields called `names`, one slot each, in an object that gives none of them
twice; other fields are passed over. A list is read by position. -/
def slots? (names : List String) : Json → Option (List (Option Json))
  | .object fields =>
    if names.any fun name => 1 < (fields.filter (·.1 = name)).length then none
    else some (names.map fun name => NameMap.find name fields)
  | .list items =>
    if names.length < items.length then none
    else some ((items.map some) ++ List.replicate (names.length - items.length) none)
  | _ => none

def text? : Json → Option String
  | .text s => some s
  | _ => none

def items? : Json → Option (List Json)
  | .list items => some items
  | _ => none

def fields? : Json → Option (List (String × Json))
  | .object fields => some fields
  | _ => none

def bindings? (j : Json) : Option (NameMap Json) :=
  j.fields?.map fun fields => NameMap.ofList (canonicalFields fields)

end Json

end RecipeEngine
