import EmbeddedTests.Exit
import EmbeddedTests.Snippet.Host
/-!
The command line: a mode, a log and the name of what is tested. The program fails when a test or
the set-up of a test has failed; a file that is missing or has no tests is no failure.
-/
namespace EmbeddedTests

open Text

structure Arguments where
  mode : Text := "normal"
  log : Option Text := none
  name : Option Text := none
  deriving DecidableEq, Repr

inductive ArgumentError where
  | logWithoutPath
  | unexpected (argument : Text)
  | usage
  deriving DecidableEq, Repr

def ArgumentError.message : ArgumentError → Text
  | logWithoutPath => "--log flag requires a path"
  | unexpected argument => "Unexpected argument: " ++ argument
  | usage => "usage: pybist [--quiet|--verbose|--explain] [--log PATH] NAME"

namespace Arguments

def modeFlags : List (Text × Text) :=
  [("--quiet", "quiet"), ("--verbose", "verbose"), ("--explain", "explain")]

def logFlag : Text := "--log"

def take (a : Arguments) (argument : Text) : Except ArgumentError Arguments :=
  match modeFlags.lookup argument, after? (logFlag ++ "=") argument, a.name with
  | some mode, _, _ => .ok { a with mode := mode }
  | none, some path, _ => .ok { a with log := some path }
  | none, none, none => .ok { a with name := some argument }
  | none, none, some _ => .error (.unexpected argument)

/-- Reads arguments from the left; what follows the flag of the log is its path in any case. -/
def read (a : Arguments) : List Text → Except ArgumentError Arguments
  | [] => if a.name.isNone && a.mode ≠ TestMode.explain.name then .error .usage else .ok a
  | [last] => if last = logFlag then .error .logWithoutPath else (a.take last).bind (·.read [])
  | first :: second :: later =>
    if first = logFlag then { a with log := some second }.read later
    else (a.take first).bind (·.read (second :: later))

def request (a : Arguments) : TestRequest :=
  { name := a.name, mode := a.mode, log := a.log.elim .console .file }

end Arguments

/-- What a program comes to. -/
structure ProgramRun where
  exit : Exit
  console : Text := []
  leaks : List Text := []
  /-- What its listener has been told. -/
  heard : Journal := []
  disk : Disk

/-- A program succeeds unless a result has hard failures. -/
def exitOf {σ : Type} : Except TestError (TestOutput σ) → Exit
  | .error e => .ofTestError e
  | .ok output =>
    match output.result? with
    | some result => if result.success then .normal else .status 1
    | none => .normal

def runArguments {σ : Type} (host : Host σ) (config : Config) (a : Arguments) (disk : Disk)
    (s : Session σ) : ProgramRun :=
  match chooseLevel config.logLevel config.logLevel with
  | .error e => { exit := .error (.raised (.builtin "ValueError" e.message)), disk := disk }
  | .ok level =>
    let setting : Setting σ := { host := host, config := config }
    let ran := setting.test a.request disk s
    { exit := exitOf ran.output
      console := ran.session.world.console
      leaks := ran.session.leaks
      heard := ran.session.journal.atLevel level
      disk := ran.disk }

def runProgramOn {σ : Type} (host : Host σ) (env : Environment) (arguments : List Text)
    (disk : Disk) (s : Session σ) : ProgramRun :=
  match Arguments.read {} arguments with
  | .error e => { exit := .message e.message, disk := disk }
  | .ok a => runArguments host (.ofEnvironment env) a disk s

def runProgram (env : Environment) (arguments : List Text) (disk : Disk) : ProgramRun :=
  runProgramOn Snippet.host env arguments disk { world := { state := {} } }

end EmbeddedTests
