import ScriptAssist.Command.Run
import ScriptAssist.Completion.BuiltIn

open ScriptAssist

/-- Looks at a path below the current directory. -/
def lookAt (path : Path) : IO (Path × Lookup) := do
  let place := (← IO.currentDir) / path.text
  if ← place.isDir then return (path, .directory)
  if ← place.pathExists then return (path, .file (← IO.FS.readBinFile place).toList)
  return (path, .missing)

/-- The paths that a command names itself. -/
def pathsOf : Command → List Path
  | .serve _ _ _ _ _ config => [config.getD (Path.read Settings.configName)]
  | .check paths _ config => config.getD (Path.read Settings.configName) :: paths
  | _ => []

/-- The path of the log that a server would write, and the directory above it. -/
def logPathsOf (world : Command.World) : Command → List Path
  | .serve _ _ _ _ logFile config =>
    let configured := match Command.configure world config with
      | .ok (settings, _) => settings.logFile
      | .error _ => none
    match (logFile.or configured).map Path.collapse with
    | some path => [path, ⟨path.root, path.parts.dropLast⟩]
    | none => []
  | _ => []

def environment : IO Settings.Environment := do
  let entries ← [Settings.levelVariable, Settings.fileVariable].mapM fun name => do
    return (← IO.getEnv name).map fun value => (name, value)
  return entries.filterMap id

/-- Runs a command line on the files and the environment of this process. Serving ends where the
transport would take over. -/
def main (arguments : List String) : IO UInt32 := do
  let world := fun (seen : List (Path × Lookup)) => do
    return ({
      files := fun path => (Pairs.get? path seen).getD .missing
      environment := ← environment
      tables := .builtIn } : Command.World)
  match Command.read arguments with
  | none =>
    IO.eprintln "usage: serve | check PATH... | catalog | resolve ID"
    return 2
  | some command =>
    let named ← (pathsOf command).mapM lookAt
    let logs ← (logPathsOf (← world named) command).mapM lookAt
    let outcome := command.run (← world (named ++ logs))
    for line in Log.kept Log.defaultThreshold outcome.events do
      IO.eprintln s!"{line.level.name}: {line.text}"
    IO.print outcome.output
    IO.eprint outcome.complaints
    match outcome.ending with
    | .exit code => return UInt32.ofNat code
    | .usage =>
      IO.eprintln "unknown log level"
      return 2
    | .number fault =>
      IO.eprintln fault.message
      return 1
    | .missingFile | .isDirectory | .notDirectory =>
      IO.eprintln "the log file cannot be opened"
      return 1
