import RecipeEngine.CommandLine.Run
import RecipeEngine.Recipe.NewId

open RecipeEngine RecipeEngine.CommandLine

namespace RecipeEngine.Program

def lookUp (path : String) : IO (Option (Except String String)) := do
  try
    return some (.ok (← IO.FS.readFile path))
  catch
    | .noFileOrDirectory .. => return none
    | other => return some (.error (toString other))

def randomDigits (count : Nat) : IO Nat := IO.rand 0 (IdSeed.valueCount count - 1)

def randomSeed : IO IdSeed := do
  return ⟨← randomDigits 8, ← randomDigits 7, ← randomDigits 15⟩

def settingKeys : List String := [Config.policyKey, Config.leadKey, Config.snapshotsKey]

def surroundings (command : Command) : IO Surroundings := do
  let files ← command.files.mapM fun path => return (path, ← lookUp path)
  let settings ← settingKeys.mapM fun key => return (key, ← IO.getEnv key)
  let seed ← randomSeed
  let now ← IO.monoMsNow
  return {
    file := fun path => (files.lookup path).join
    setting := fun key => (settings.lookup key).join
    clock := fun _ => ⟨toString now, 0⟩
    newId := seed.id }

def close (done : Finish) : IO UInt32 := do
  for line in done.output do IO.println line
  for line in done.errors do IO.eprintln line
  return done.exit.toUInt32

end RecipeEngine.Program

def main (args : List String) : IO UInt32 := do
  match readArguments {} args with
  | .error stop => Program.close stop.finish
  | .ok command => Program.close (command.finish (← Program.surroundings command))
