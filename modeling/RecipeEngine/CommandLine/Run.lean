import RecipeEngine.CommandLine.Arguments
import RecipeEngine.CommandLine.Display
import RecipeEngine.Config.Yaml
import RecipeEngine.Document.Yaml
import RecipeEngine.Kitchen.Basic

namespace RecipeEngine.CommandLine

structure Surroundings where
  /-- The text of a file, or why it cannot be read; none if there is no such file. -/
  file : String → Option (Except String String)
  setting : String → Option String
  clock : Clock
  /-- An id of its own for each position in a recipe. -/
  newId : Nat → String

structure Finish where
  exit : Nat
  output : List String := []
  errors : List String := []

def defaultConfigFile : String := "bakehouse.yaml"

def noSuchFile : String := "No such file or directory (os error 2)"

def Command.files : Command → List String
  | .run file config _ _ => [config.getD defaultConfigFile, file]
  | .validate file => [file]
  | .operations => []

def readFile (s : Surroundings) (path : String) : Except String String :=
  (s.file path).getD (.error noSuchFile)

def configOfFile (s : Surroundings) (path : String) : Except Failure Config :=
  match readFile s path with
  | .ok text => Config.ofYaml text
  | .error why => .error (.config ("Failed to read config file " ++ path ++ ": " ++ why))

/-- The settings of a run: those of the named file, which must be there, or of the default one, if
it is; and over them those of the environment variables. -/
def loadConfig (s : Surroundings) (named : Option String) : Except Failure Config := do
  let config ← match named with
    | some path => configOfFile s path
    | none => if (s.file defaultConfigFile).isSome then configOfFile s defaultConfigFile else .ok {}
  config.override s.setting

def loadDocument (s : Surroundings) (path : String) : Except Failure Document :=
  match readFile s path with
  | .ok text => Document.ofYaml text
  | .error why => .error (.io why)

def readAssignment (raw : String) : Except Failure (String × Value) :=
  let name := Text.trimChars (raw.toList.takeWhile (· ≠ '='))
  match raw.toList.dropWhile (· ≠ '=') with
  | _ :: value =>
    if name.isEmpty then refused
    else .ok (String.ofList name, Value.ofScalar (Scalar.ofInput (String.ofList value)))
  | [] => refused
where
  refused : Except Failure (String × Value) :=
    .error (.config ("--set expects NAME=VALUE, got '" ++ raw ++ "'"))

def assign (env : Environment) : List String → Except Failure Environment
  | [] => .ok env
  | raw :: rest => do
    let (name, value) ← readAssignment raw
    assign (env.insert name value) rest

def status (well : Bool) : Nat := if well then 0 else 1

def runRecipe (s : Surroundings) (file : String) (configFile : Option String) (json : Bool)
    (assignments : List String) : Except Failure Finish := do
  let config ← loadConfig s configFile
  let document ← loadDocument s file
  let registry := Registry.builtin
  let recipe := document.recipe registry config.lead s.newId
  let env ← assign document.environment assignments
  let kitchen ← (Kitchen.start registry config).load recipe env
  let (report, kitchen) ← kitchen.bake s.clock
  if json then
    .ok ⟨status report.isSuccess, [reportJson report kitchen.environment], []⟩
  else
    let heading := "→ Baking " ++ file ++ " (" ++ toString kitchen.recipe.length ++ " steps)"
    .ok ⟨status report.isSuccess, heading :: reportLines report kitchen.environment, []⟩

def validateRecipe (s : Surroundings) (file : String) : Except Failure Finish := do
  let document ← loadDocument s file
  let issues := document.validate .builtin
  .ok ⟨status issues.isEmpty, validationLines file document issues, []⟩

def Command.carryOut (s : Surroundings) : Command → Except Failure Finish
  | .run file config json assignments => runRecipe s file config json assignments
  | .validate file => validateRecipe s file
  | .operations => .ok ⟨0, listingLines .builtin, []⟩

def Command.finish (s : Surroundings) (command : Command) : Finish :=
  match command.carryOut s with
  | .ok done => done
  | .error failure => ⟨1, [], failureLines failure⟩

def programName : String := "bakehouse"

def programVersion : String := "0.1.0"

def usageLines : List String :=
  ["Run ordered data recipes over a shared variable environment",
   "",
   "Usage: " ++ programName ++ " [OPTIONS] <COMMAND>",
   "",
   "Commands:",
   "  run [--config FILE] [--json] [--set NAME=VALUE]... FILE",
   "  validate FILE",
   "  ops",
   "  help",
   "",
   "Options:",
   "  -v, --verbose",
   "  -h, --help",
   "  -V, --version"]

def Stop.finish : Stop → Finish
  | .help => ⟨0, usageLines, []⟩
  | .version => ⟨0, [programName ++ " " ++ programVersion], []⟩
  | .usage message => ⟨2, [], ["error: " ++ message]⟩

end RecipeEngine.CommandLine
