import EmbeddedTests.Disk
import EmbeddedTests.Snippet.Evaluator
/-!
Modules. A module is found by the names between the dots of its name, the first in the current
directory; all names but the last are of modules that are run before the search goes on in their
directory. Running a file as a module binds the names that it defines in the base namespace.
-/
namespace EmbeddedTests.Snippet

open Text

/-- What is there under the name of a module. -/
inductive Found where
  /-- A directory with a file that is run for it. -/
  | package (file directory : Text)
  | file (file : Text)
  /-- A directory without such a file. -/
  | directory (directory : Text)
  deriving DecidableEq, Repr

/-- An empty name can only be that of a file. -/
def find? (disk : Disk) (directory name : Text) : Option Found :=
  let inside := Path.join directory name
  let first := Path.join inside "__init__.py"
  let alone := inside ++ ".py"
  if !name.isEmpty && disk.isFile first then some (.package first inside)
  else if disk.isFile alone then some (.file alone)
  else if !name.isEmpty && disk.isDirectory inside then some (.directory inside)
  else none

def hasModule (disk : Disk) (name : Text) : Bool :=
  name ∈ standardModules
    || (!name.isEmpty && '.' ∉ name && (find? disk disk.current.path name).isSome)

def moduleNames (name path : Text) (packageDirectory : Option Text) : Bindings :=
  let package : Text := match packageDirectory, cutAtLast? (· == '.') name with
    | some _, _ => name
    | none, some (front, _) => front
    | none, none => []
  let always : Bindings :=
    [("__name__", .str name), ("__doc__", .none), ("__package__", .str package),
      ("__loader__", .none), ("__spec__", .none), ("__file__", .str path), ("__cached__", .none),
      ("__builtins__", .none)]
  match packageDirectory with
  | none => always
  | some directory => always.put "__path__" (.list [.str directory])

/-- What is said of a source file that is no text. -/
def notText (bytes : Bytes) (e : Utf8Error) : CodeError :=
  let before := bytes.take e.start
  let line := before.reverse.takeWhile (· != 10)
  ⟨"SyntaxError", "(unicode error) " ++ { e with start := line.length }.message,
    before.count 10 + 1⟩

def readModule (disk : Disk) (path : Text) : Except Raised (List Stmt) := do
  match disk.read path with
  | .error fault => .error (.builtin fault.kind (fault.report path))
  | .ok bytes =>
    match decodeUtf8 bytes with
    | .error e => .error ((notText bytes e).raised path)
    | .ok t =>
      let t := unifyLineEnds t
      let code := (after? ['\ufeff'] t).getD t
      (compileStatements code).mapError (·.raised path)

def runModule (disk : Disk) (path : Text) (names : Bindings) (w : World Machine) :
    Attempt (Except Raised Unit) × World Machine :=
  match readModule disk path with
  | .error raised => (.ok (.error raised), { w with base := names })
  | .ok ss =>
    let (result, w) := (execAll topCall none ss).run { w with base := documented names ss }
    (settle .error (fun _ => .ok ()) result, w)

/-- The name under which a file is run for its tests; it is no name of a main program. -/
def testName (file : Text) : Text := "__bist_" ++ Path.stem file ++ "__"

def isSource (file : Text) : Bool := endsWith ".py" file

def runForTests (disk : Disk) (file : Text) (w : World Machine) :
    Attempt (Except Raised Unit) × World Machine :=
  if isSource file then
    let path := disk.absolute file
    runModule disk path (moduleNames (testName file) path none) w
  else (.ok (.error (.builtin "ImportError" ("cannot import " ++ file))), w)

/-- Runs a module that another one is looked for in; the directory for that is missing when it
has none. -/
def runOuter (disk : Disk) (name : Text) (found : Found) (console : Text) :
    Attempt (Except Raised (Option Text)) × Text :=
  let run (file : Text) (directory : Option Text) :=
    let (result, w) := runModule disk file (moduleNames name file directory)
      { console := console, state := {} }
    (result.map (·.map fun _ => directory), w.console)
  match found with
  | .package file directory => run file (some directory)
  | .file file => run file none
  | .directory directory => (.ok (.ok (some directory)), console)

/-- Exceptions that only say that there is no module. -/
def saysMissing (raised : Raised) : Bool :=
  raised.ancestry.contains "ImportError" || raised.ancestry.contains "ValueError"

/-- What leaves the search for a module. The methods of an object's own class are not at hand
elsewhere. -/
def leftSearch (raised : Raised) : Escape :=
  if raised.value.isOwn then .beyond "an object of another module" else .raised raised

/-- Follows the names of a module from a directory, with the names so far and what has been
printed. -/
def search (disk : Disk) (directory before : Text) (console : Text) :
    List Text → Attempt (Option Text) × Text
  | [] => (.ok none, console)
  | [last] =>
    match find? disk directory last with
    | some (.package file _) | some (.file file) => (.ok (some file), console)
    | some (.directory _) | none => (.ok none, console)
  | first :: later =>
    let name := if before.isEmpty then first else before ++ '.' :: first
    match find? disk directory first with
    | none => (.ok none, console)
    | some found =>
      match runOuter disk name found console with
      | (.error escape, console) => (.error escape, console)
      | (.ok (.error raised), console) =>
        (if saysMissing raised then .ok none else .error (leftSearch raised), console)
      | (.ok (.ok none), console) => (.ok none, console)
      | (.ok (.ok (some inner)), console) => search disk inner name console later

/-- The file of a module. A module that is there anyway has none, and neither has one whose name
starts with a dot. -/
def moduleFile {σ : Type} (disk : Disk) (name : Text) (w : World σ) :
    Attempt (Option Text) × World σ :=
  let names := splitOn '.' name
  if names.headD [] ∈ standardModules || (names.headD []).isEmpty then (.ok none, w)
  else
    let (result, console) := search disk disk.current.path [] w.console names
    (result, { w with console := console })

end EmbeddedTests.Snippet
