namespace RecipeEngine.CommandLine

inductive Command where
  | run (file : String) (config : Option String) (json : Bool) (assignments : List String)
  | validate (file : String)
  | operations
deriving DecidableEq, Repr

inductive Stop where
  | help
  | version
  | usage (message : String)
deriving DecidableEq, Repr

inductive Opt where
  | verbose
  | help
  | version
  | json
  | config
  | assignment
deriving DecidableEq, Repr

namespace Opt

def long : Opt → String
  | .verbose => "verbose"
  | .help => "help"
  | .version => "version"
  | .json => "json"
  | .config => "config"
  | .assignment => "set"

def letter? : Opt → Option Char
  | .verbose => some 'v'
  | .help => some 'h'
  | .version => some 'V'
  | .config => some 'c'
  | .json => none
  | .assignment => none

def takesValue : Opt → Bool
  | .config => true
  | .assignment => true
  | _ => false

end Opt

/-- What a part of the command line may hold. -/
structure Grammar where
  options : List Opt
  namesFile : Bool

structure Reading where
  verbose : Bool := false
  json : Bool := false
  config : Option String := none
  assignments : List String := []
  file : Option String := none
deriving DecidableEq, Repr

namespace Reading

def refuse {α : Type} (problem : String) (o : Opt) : Except Stop α :=
  .error (.usage (problem ++ " '--" ++ o.long ++ "'"))

/-- Sets an option without a value; none but a list may be given twice. -/
def set (r : Reading) (o : Opt) : Except Stop Reading :=
  match o with
  | .help => .error .help
  | .version => .error .version
  | .verbose => if r.verbose then refuse "repeated option" o else .ok { r with verbose := true }
  | .json => if r.json then refuse "repeated option" o else .ok { r with json := true }
  | .config => refuse "missing value of" o
  | .assignment => refuse "missing value of" o

def give (r : Reading) (o : Opt) (value : String) : Except Stop Reading :=
  match o with
  | .config =>
    if r.config.isSome then refuse "repeated option" o
    else if value.isEmpty then refuse "missing value of" o
    else .ok { r with config := some value }
  | .assignment => .ok { r with assignments := r.assignments ++ [value] }
  | _ => refuse "unexpected value of" o

def name (g : Grammar) (r : Reading) (value : String) : Except Stop Reading :=
  if !g.namesFile || r.file.isSome then
    .error (.usage ("unexpected argument '" ++ value ++ "'"))
  else if value.isEmpty then .error (.usage "missing value of '<FILE>'")
  else .ok { r with file := some value }

/-- Reads the letters behind one hyphen. What follows the letter of an option with a value is the
value; if nothing does, it is the next argument. -/
def letters (g : Grammar) : Reading → List Char → Except Stop (Reading × Option Opt)
  | r, [] => .ok (r, none)
  | r, c :: rest =>
    match g.options.find? fun o => o.letter? = some c with
    | none => .error (.usage ("unexpected argument '-" ++ c.toString ++ "'"))
    | some o =>
      if o.takesValue then
        match rest with
        | [] => .ok (r, some o)
        | first :: after =>
          (r.give o (String.ofList (if first = '=' then after else rest))).map (·, none)
      else
        match r.set o with
        | .ok r => letters g r rest
        | .error stop => .error stop

/-- Reads what stands behind two hyphens: the long form of an option, with its value behind an
equals sign or in the next argument. -/
def longForm (g : Grammar) (r : Reading) (body : List Char) : Except Stop (Reading × Option Opt) :=
  let word := String.ofList (body.takeWhile (· ≠ '='))
  let value := match body.dropWhile (· ≠ '=') with
    | [] => none
    | _ :: value => some (String.ofList value)
  match g.options.find? (·.long = word), value with
  | none, _ => .error (.usage ("unexpected argument '--" ++ word ++ "'"))
  | some o, some value => (r.give o value).map (·, none)
  | some o, none => if o.takesValue then .ok (r, some o) else (r.set o).map (·, none)

/-- Reads the arguments of a part. `waiting` is an option whose value is the next argument; behind
two hyphens alone nothing is an option. -/
def arguments (g : Grammar) : Reading → Option Opt → Bool → List String → Except Stop Reading
  | r, none, _, [] => .ok r
  | _, some o, _, [] => refuse "missing value of" o
  | r, some o, names, arg :: rest =>
    if arg.toList.head? = some '-' && arg ≠ "-" then refuse "missing value of" o
    else match r.give o arg with
      | .ok r => arguments g r none names rest
      | .error stop => .error stop
  | r, none, true, arg :: rest =>
    match r.name g arg with
    | .ok r => arguments g r none true rest
    | .error stop => .error stop
  | r, none, false, arg :: rest =>
    match arg.toList with
    | ['-', '-'] => arguments g r none true rest
    | '-' :: '-' :: body =>
      match r.longForm g body with
      | .ok (r, waiting) => arguments g r waiting false rest
      | .error stop => .error stop
    | '-' :: c :: body =>
      match r.letters g (c :: body) with
      | .ok (r, waiting) => arguments g r waiting false rest
      | .error stop => .error stop
    | _ =>
      match r.name g arg with
      | .ok r => arguments g r none false rest
      | .error stop => .error stop

def requiredFile (r : Reading) : Except Stop String :=
  match r.file with
  | some file => .ok file
  | none => .error (.usage "the following required arguments were not provided: <FILE>")

end Reading

def commonOptions : List Opt := [.verbose, .help]

def readCommand (word : String) (args : List String) : Except Stop Command := do
  let read (options : List Opt) (namesFile : Bool) :=
    Reading.arguments ⟨options ++ commonOptions, namesFile⟩ {} none false args
  match word with
  | "run" =>
    let r ← read [.config, .json, .assignment] true
    .ok (.run (← r.requiredFile) r.config r.json r.assignments)
  | "validate" =>
    let r ← read [] true
    .ok (.validate (← r.requiredFile))
  | "ops" =>
    let _ ← read [] false
    .ok .operations
  | "help" =>
    match args with
    | [] => .error .help
    | [name] =>
      if ["run", "validate", "ops", "help"].contains name then .error .help
      else .error (.usage ("unrecognized subcommand '" ++ name ++ "'"))
    | _ :: name :: _ => .error (.usage ("unrecognized subcommand '" ++ name ++ "'"))
  | _ => .error (.usage ("unrecognized subcommand '" ++ word ++ "'"))

def readArguments : Reading → List String → Except Stop Command
  | _, [] => .error (.usage "a subcommand is required")
  | r, arg :: rest =>
    let g : Grammar := ⟨.version :: commonOptions, false⟩
    match arg.toList with
    | ['-', '-'] => .error (.usage "a subcommand is required")
    | '-' :: '-' :: body =>
      match r.longForm g body with
      | .ok (r, _) => readArguments r rest
      | .error stop => .error stop
    | '-' :: c :: body =>
      match r.letters g (c :: body) with
      | .ok (r, _) => readArguments r rest
      | .error stop => .error stop
    | _ => readCommand arg rest

end RecipeEngine.CommandLine
