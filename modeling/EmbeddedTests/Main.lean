import EmbeddedTests.CommandLine.Lookup
import EmbeddedTests.Script
/-!
The program: it gives the arguments, the environment and the files that can matter to the pure
run, and then shows what that has printed and writes the log.
-/
namespace EmbeddedTests.Program

def readEnvironment : IO Environment := do
  let values ← Config.variableNames.mapM fun name => do
    return (name, ← IO.getEnv (String.ofList name))
  return fun name => (values.lookup name).join.map String.toList

def isDirectoryCode : UInt32 := 21

def readEntry (path : String) : IO (Option DiskEntry) := do
  try
    return some (.file (← IO.FS.readBinFile path).toList)
  catch
    | .inappropriateType _ code _ =>
      return if code = isDirectoryCode then some .directory else none
    | _ => return none

def enterPaths (disk : Disk) (paths : List Text) : IO Disk :=
  paths.foldlM (fun disk path => do
    match ← readEntry (String.ofList path) with
    | some entry => return disk.enter path entry
    | none => return disk) disk

def readDisk (config : Config) (arguments : Arguments) : IO Disk := do
  let current := Text.runsOf (· == '/') (toString (← IO.currentDir)).toList
  let named ← enterPaths { current := current } arguments.paths
  enterPaths named (featurePaths config named)

def writeLog (arguments : Arguments) (disk : Disk) : IO Unit := do
  match arguments.log with
  | none => return
  | some path =>
    match disk.read path with
    | .ok bytes => IO.FS.writeBinFile (String.ofList path) (ByteArray.mk bytes.toArray)
    | .error _ => return

def lastWords (e : Escape) : Text :=
  match e with
  | .beyond what => what
  | e => e.exception?.elim [] fun r => r.line ((Script.render r.value.said).toOption.getD [])

def exitCode : Exit → IO UInt32
  | .normal | .requested .none => return 0
  | .requested (.bool b) => return if b then 1 else 0
  | .requested (.int n) => return (n % 256).toNat.toUInt32
  | .requested v => do
    IO.eprintln (String.ofList ((Script.render v.said).toOption.getD []))
    return 1
  | .error e => do
    IO.eprintln (String.ofList (lastWords e))
    return 1

def tell (ran : ProgramRun) : IO Unit := do
  IO.print (String.ofList ran.console)
  for r in ran.heard do
    IO.eprintln (String.ofList (Text.joinWith " | " r.columns))
  for leak in ran.leaks do
    IO.eprintln (String.ofList leak)

def run (given : List Text) : IO UInt32 := do
  let environment ← readEnvironment
  let arguments := (Arguments.read {} given).toOption.getD {}
  let disk ← readDisk (Config.ofEnvironment environment) arguments
  let ran := runProgram environment given disk
  tell ran
  writeLog arguments ran.disk
  exitCode ran.exit

end EmbeddedTests.Program

def main (arguments : List String) : IO UInt32 :=
  EmbeddedTests.Program.run (arguments.map String.toList)
