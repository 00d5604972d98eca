import EmbeddedTests.Text
/-!
What a file leaves behind: files that stay open, and names that were not there before. The state
of the surroundings is taken before and after, and the difference is reported.
-/
namespace EmbeddedTests

open Text

/-- What code can leave traces in. The list of open files is missing when the system refuses to
give it. -/
structure Surroundings where
  openFiles : Option (List Text) := some []
  names : List Text := []
  builtins : List Text := []
  deriving DecidableEq, Repr

def sentinels : List Text := ["__builtins__", "__warningregistry__"]

structure LeakSnapshot where
  files : List Text
  names : List Text
  builtins : List Text
  deriving DecidableEq, Repr

structure LeakReport where
  files : List Text
  names : List Text
  builtins : List Text
  deriving DecidableEq, Repr

/-- Members of the first list that are not in the second, ascending, each once. -/
def newTexts (after before : List Text) : List Text :=
  sorted (distinct (after.filter fun t => t ∉ before))

namespace Surroundings

/-- No files are seen when their list is refused. -/
def snapshot (s : Surroundings) : LeakSnapshot :=
  ⟨s.openFiles.getD [], s.names ++ sentinels, s.builtins⟩

end Surroundings

namespace LeakReport

def between (before after : LeakSnapshot) : LeakReport :=
  ⟨newTexts after.files before.files, newTexts after.names before.names,
    newTexts after.builtins before.builtins⟩

def found (r : LeakReport) : Bool :=
  !r.files.isEmpty || !r.names.isEmpty || !r.builtins.isEmpty

def messages (r : LeakReport) (file : Text) : List Text :=
  let message (what : Text) (items : List Text) : List Text :=
    if items.isEmpty then []
    else ["file " ++ file ++ " leaked " ++ what ++ ": " ++ joinWith " " items]
  message "file descriptors" r.files ++ message "variables to base namespace" r.names
    ++ message "global variables" r.builtins

end LeakReport

/-- A watch over the surroundings: their state, and the snapshot that is compared with. -/
structure LeakWatch where
  surroundings : Surroundings := {}
  /-- The files that are open, whether or not the system lists them. -/
  files : List Text := []
  before : Option LeakSnapshot := none

inductive LeakEvent where
  | snapshot
  | bindName (name : Text)
  | unbindName (name : Text)
  | bindBuiltin (name : Text)
  | unbindBuiltin (name : Text)
  | openFile (path : Text)
  | closeFile (path : Text)
  | deny
  | allow
  deriving DecidableEq, Repr

namespace LeakWatch

def insert (t : Text) (ts : List Text) : List Text := if t ∈ ts then ts else ts ++ [t]

def remove (t : Text) (ts : List Text) : List Text := ts.filter (· != t)

/-- The files are listed only where that is not refused. -/
def withFiles (w : LeakWatch) (files : List Text) : LeakWatch :=
  { w with
    files := files
    surroundings :=
      { w.surroundings with openFiles := w.surroundings.openFiles.map fun _ => files } }

def next (w : LeakWatch) : LeakEvent → LeakWatch
  | .snapshot => { w with before := some w.surroundings.snapshot }
  | .bindName name =>
    { w with surroundings := { w.surroundings with names := insert name w.surroundings.names } }
  | .unbindName name =>
    { w with surroundings := { w.surroundings with names := remove name w.surroundings.names } }
  | .bindBuiltin name =>
    { w with
      surroundings := { w.surroundings with builtins := insert name w.surroundings.builtins } }
  | .unbindBuiltin name =>
    { w with
      surroundings := { w.surroundings with builtins := remove name w.surroundings.builtins } }
  | .openFile path => w.withFiles (insert path w.files)
  | .closeFile path => w.withFiles (remove path w.files)
  | .deny => { w with surroundings := { w.surroundings with openFiles := none } }
  | .allow => { w with surroundings := { w.surroundings with openFiles := some w.files } }

/-- What has appeared since the snapshot; without one there is nothing to compare with. -/
def compare? (w : LeakWatch) : Option LeakReport :=
  w.before.map fun before => .between before w.surroundings.snapshot

def missingSnapshot : Text := "LeakDetector.compare() called before snapshot()"

end LeakWatch
end EmbeddedTests
