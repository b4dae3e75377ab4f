import RecipeEngine.Failure
import RecipeEngine.Value

namespace RecipeEngine

inductive Status where
  | success
  | error
deriving DecidableEq, Repr

def Status.name : Status → String
  | .success => "success"
  | .error => "error"

def Status.ofName? : String → Option Status
  | "success" => some .success
  | "error" => some .error
  | _ => none

/-- When a step ran, and for how many milliseconds. -/
structure Stamp where
  time : String
  duration : Nat
deriving DecidableEq, Repr

structure Entry where
  seq : Nat
  step : String
  operation : String
  status : Status
  stamp : Stamp
  outputName : Option String
  /-- A copy of the result, if such copies are kept. -/
  output : Option Value
  message : Option String
  category : Option Category
  hint : Option String

namespace Entry

def isSuccess (entry : Entry) : Bool := entry.status = .success

def isError (entry : Entry) : Bool := entry.status = .error

def optional (name : String) (value : Option Json) : List (String × Json) :=
  match value with
  | some j => [(name, j)]
  | none => []

def toJson (entry : Entry) : Json :=
  .object
    ([("seq", .integer entry.seq), ("step_id", .text entry.step),
      ("operation_id", .text entry.operation), ("status", .text entry.status.name),
      ("timestamp", .text entry.stamp.time), ("duration_ms", .integer entry.stamp.duration)] ++
     optional "output_name" (entry.outputName.map .text) ++
     optional "output" (entry.output.map Value.toJson) ++
     optional "message" (entry.message.map .text) ++
     optional "category" (entry.category.map fun c => .text c.name) ++
     optional "hint" (entry.hint.map .text))

def fieldNames : List String :=
  ["seq", "step_id", "operation_id", "status", "timestamp", "duration_ms", "output_name", "output",
   "message", "category", "hint"]

def natOfJson? : Json → Option Nat
  | .integer n => if 0 ≤ n then some n.toNat else none
  | _ => none

def optionOfJson? {α : Type} (read : Json → Option α) : Option Json → Option (Option α)
  | none => some none
  | some .null => some none
  | some j => (read j).map some

def ofJson? (j : Json) : Option Entry := do
  match ← j.slots? fieldNames with
  | [some seq, some step, some operation, some status, some time, some duration, outputName, output,
      message, category, hint] =>
    let seq ← natOfJson? seq
    let step ← step.text?
    let operation ← operation.text?
    let status ← status.text?.bind Status.ofName?
    let time ← time.text?
    let duration ← natOfJson? duration
    let outputName ← optionOfJson? Json.text? outputName
    let output ← optionOfJson? Value.ofJson? output
    let message ← optionOfJson? Json.text? message
    let category ← optionOfJson? (fun c => c.text?.bind Category.ofName?) category
    let hint ← optionOfJson? Json.text? hint
    some ⟨seq, step, operation, status, ⟨time, duration⟩, outputName, output, message, category,
      hint⟩
  | _ => none

end Entry

abbrev Log := List Entry

namespace Log

def successEntry (seq : Nat) (step operation outputName : String) (output : Option Value)
    (stamp : Stamp) : Entry where
  seq := seq
  step := step
  operation := operation
  status := .success
  stamp := stamp
  outputName := some outputName
  output := output
  message := none
  category := none
  hint := none

def failureEntry (seq : Nat) (step operation : String) (failure : Failure) (stamp : Stamp) :
    Entry where
  seq := seq
  step := step
  operation := operation
  status := .error
  stamp := stamp
  outputName := none
  output := none
  message := some failure.message
  category := some failure.category
  hint := failure.hint

def success (log : Log) (step operation outputName : String) (output : Option Value)
    (stamp : Stamp) : Log :=
  log ++ [successEntry log.length step operation outputName output stamp]

def failure (log : Log) (step operation : String) (failure : Failure) (stamp : Stamp) : Log :=
  log ++ [failureEntry log.length step operation failure stamp]

def forStep? (log : Log) (step : String) : Option Entry :=
  log.find? (·.step = step)

def haltedAt? (log : Log) : Option Entry :=
  log.find? Entry.isError

def statuses (log : Log) : List Status := log.map Entry.status

def toJson (log : Log) : Json := .list (log.map Entry.toJson)

def ofJson? (j : Json) : Option Log := do
  (← j.items?).mapM Entry.ofJson?

end Log

end RecipeEngine
