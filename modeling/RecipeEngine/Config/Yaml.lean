import RecipeEngine.Config
import RecipeEngine.Yaml.Content

namespace RecipeEngine

open Yaml (Node Problem)

namespace Config

def fieldNames : List String := ["unknown_operations", "output_prefix", "snapshot_outputs"]

/-- The name of a variant: a text, or a local tag of nothing. -/
def variantName? : Node → Option String
  | .scalar tag style s =>
    match tag.filter fun t => Node.isLocal (some t) with
    | some t =>
      if style = .plain && (s.isEmpty || Node.isNullWord s) then
        some (String.ofList (t.toList.drop 1))
      else none
    | none => some s
  | _ => none

def policy (node : Node) : Except Problem UnknownPolicy :=
  match (variantName? node).bind UnknownPolicy.ofName? with
  | some policy => .ok policy
  | none => Node.shape "one of skip, fail"

/-- The settings of a node; those it does not name have their defaults. -/
def ofNode (node : Node) : Except Problem Config := do
  let fields ← node.fields fieldNames
  Node.onlyFields fieldNames fields
  let standard : Config := {}
  let unknownOperations ← match NameMap.find "unknown_operations" fields with
    | some n => policy n
    | none => .ok standard.unknownOperations
  let lead ← match NameMap.find "output_prefix" fields with
    | some n => n.text
    | none => .ok standard.lead
  let snapshots ← match NameMap.find "snapshot_outputs" fields with
    | some n => n.flag
    | none => .ok standard.snapshots
  .ok ⟨unknownOperations, lead, snapshots⟩

/-- The settings of a YAML text; a blank one has the defaults. -/
def ofYaml (text : String) : Except Failure Config :=
  if Text.isAllBlank text then .ok {}
  else match Node.parse text >>= fun node => ofNode (node.getD .empty) with
    | .ok config => .ok config
    | .error problem => .error (.config ("Failed to parse config file: " ++ problem.message))

end Config

end RecipeEngine
