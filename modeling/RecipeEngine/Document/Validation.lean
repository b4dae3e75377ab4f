import RecipeEngine.Document.Basic

namespace RecipeEngine

structure Issue where
  step : String
  failure : Failure

/-- What is known of the variables before a step: the seeds with their kinds, and the outputs of
earlier steps, whose kinds show only in a run. -/
abbrev KnownVariables := NameMap (Option Kind)

namespace Document

def argumentFault? (known : KnownVariables) (args : Arguments) (spec : ArgumentSpec) :
    Option Failure :=
  match spec.kind with
  | .select options =>
    match args.select spec.name options "" with
    | .ok _ => none
    | .error why => some why
  | .variableRef accepts =>
    (args.present? spec.name).bind fun raw =>
      let name := Text.trim raw
      match known.get? name with
      | none => some (.variableNotFound name)
      | some none => none
      | some (some kind) =>
        if accepts.any fun kinds => !kinds.contains kind then
          some (.wrongKind name Kind.table.name kind.name)
        else none
  | _ => none

def argumentFaults (known : KnownVariables) (op : Operation) (written : WrittenStep) :
    List Failure :=
  op.arguments.filterMap (argumentFault? known (op.defaults.merge written.arguments))

def repeatedId (ids : List String) (written : WrittenStep) : List Failure :=
  match written.id with
  | some id => if ids.contains id then [.config ("duplicate step id '" ++ id ++ "'")] else []
  | none => []

def stepFaults (registry : Registry) (ids : List String) (known : KnownVariables)
    (written : WrittenStep) : List Failure :=
  repeatedId ids written ++
    match registry.get? written.operation with
    | some op => argumentFaults known op written
    | none => [.unknownOperation written.operation]

/-- What is known after a step: its output is, if its operation is registered and it is written. -/
def knownAfter (registry : Registry) (known : KnownVariables) (written : WrittenStep) :
    KnownVariables :=
  let output := Text.trim (written.output.getD "")
  if registry.contains written.operation && !output.isEmpty then known.insert output none
  else known

/-- How issues name a step: by its id, or by its position counted from one. -/
def label (position : Nat) (written : WrittenStep) : String :=
  written.id.getD ("#" ++ toString (position + 1))

def issuesFrom (registry : Registry) :
    Nat → List String → KnownVariables → List WrittenStep → List Issue
  | _, _, _, [] => []
  | position, ids, known, written :: rest =>
    (stepFaults registry ids known written).map (⟨label position written, ·⟩) ++
      issuesFrom registry (position + 1) (written.id.toList ++ ids)
        (knownAfter registry known written) rest

def validate (document : Document) (registry : Registry) : List Issue :=
  issuesFrom registry 0 [] (document.seeds.map fun value => some value.kind) document.steps

end Document

end RecipeEngine
