import RecipeEngine.Failure
import RecipeEngine.Text.Blank

namespace RecipeEngine

/-- What becomes of a step whose operation is not registered. -/
inductive UnknownPolicy where
  | skip
  | fail
deriving DecidableEq, Repr

def UnknownPolicy.name : UnknownPolicy → String
  | .skip => "skip"
  | .fail => "fail"

def UnknownPolicy.ofName? : String → Option UnknownPolicy
  | "skip" => some .skip
  | "fail" => some .fail
  | _ => none

structure Config where
  unknownOperations : UnknownPolicy := .skip
  /-- How the names begin that are made for results without a configured name. -/
  lead : String := "var_"
  snapshots : Bool := true
deriving DecidableEq, Repr

namespace Config

def policyKey : String := "BAKEHOUSE_UNKNOWN_OPS"

def leadKey : String := "BAKEHOUSE_OUTPUT_PREFIX"

def snapshotsKey : String := "BAKEHOUSE_SNAPSHOTS"

/-- The word that a text holds: without the white space around it, in small letters. -/
def word (raw : String) : String := Text.lowerAscii (Text.trim raw)

def readPolicy (raw : String) : Except Failure UnknownPolicy :=
  match UnknownPolicy.ofName? (word raw) with
  | some policy => .ok policy
  | none =>
    .error (.config ("unknown_operations must be 'skip' or 'fail', got '" ++ word raw ++ "'"))

def flagWord? (w : String) : Option Bool :=
  if ["1", "true", "yes", "on"].contains w then some true
  else if ["0", "false", "no", "off"].contains w then some false
  else none

def readFlag (key raw : String) : Except Failure Bool :=
  match flagWord? (word raw) with
  | some b => .ok b
  | none => .error (.config (key ++ " must be a boolean, got '" ++ word raw ++ "'"))

/-- The settings with those replaced for which the lookup finds a text that is not blank. -/
def override (config : Config) (lookup : String → Option String) : Except Failure Config := do
  let given (key : String) := (lookup key).filter fun raw => !Text.isAllBlank raw
  let policy ← match given policyKey with
    | some raw => readPolicy raw
    | none => .ok config.unknownOperations
  let lead := match given leadKey with
    | some raw => Text.trim raw
    | none => config.lead
  let snapshots ← match given snapshotsKey with
    | some raw => readFlag snapshotsKey raw
    | none => .ok config.snapshots
  .ok ⟨policy, lead, snapshots⟩

end Config

end RecipeEngine
