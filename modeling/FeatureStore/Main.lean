import FeatureStore.Worker.Run

/-!
The worker as a program.
-/
namespace FeatureStore.Worker

def readFile (path : String) : IO FileContent := do
  try
    let bytes ← IO.FS.readBinFile path
    return .ok bytes.data.toList
  catch
    | .noFileOrDirectory .. => return .error .missing
    | .inappropriateType _ _ "not a directory" => return .error .notDirectory
    | .inappropriateType _ _ "Is a directory" => return .error .directory
    | e => return .error ⟨true, toString e⟩

def readVariables : List Flag → IO (Bindings String String)
  | [] => return .empty
  | f :: rest => do
    let more ← readVariables rest
    let some name := f.envName | return more
    match ← IO.getEnv name with
    | some value => return more.insert name value
    | none => return more

def runHere (args : List String) : IO UInt32 := do
  let env ← readVariables Flag.all
  let (outcome, _) ← command readFile env.find? Host.isolated args
  if outcome.status = 0 then IO.print outcome.message else IO.eprint outcome.message
  return .ofNat outcome.status

end FeatureStore.Worker

def main (args : List String) : IO UInt32 := FeatureStore.Worker.runHere args
