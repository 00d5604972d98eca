import EmbeddedTests.Batch.Report
import EmbeddedTests.Batch.Scan
import EmbeddedTests.Runner
import EmbeddedTests.Shuffle
/-!
Testing many files: those with tests are run one after another, in the order in which they were
added or in a shuffled one, and their results are added up. A file of the right kind without tests
counts as processed.
-/
namespace EmbeddedTests.Batch

open Text

/-- A directory was given for a file. -/
structure DirectoryError where
  path : Text
  deriving DecidableEq, Repr

def DirectoryError.message (e : DirectoryError) : Text :=
  "MultiBistRunner.add_file: file is a directory: " ++ e.path

def addFiles (disk : Disk) : List Text → List Text × Option DirectoryError
  | [] => ([], none)
  | file :: later =>
    if disk.isDirectory file then ([], some ⟨file⟩)
    else
      let (files, error) := addFiles disk later
      (file :: files, error)

/-- The files in the order of a run. The list of the files that were added stays as it is: every
run orders it anew. -/
def ordered (config : Config) (files : List Text) : List Text :=
  match config.shuffleSeed with
  | none => files
  | some seed => shuffle seed files

abbrev FileRunner (σ : Type) := (file : Text) → Session σ → Except TestError RunResult × Session σ

/-- What a batch comes to: the results of its files, or what left it. -/
structure BatchRun (σ : Type) where
  results : Except TestError (List RunResult)
  out : Text
  session : Session σ

namespace BatchRun

variable {σ : Type}

def before (out : Text) (r : RunResult) (later : BatchRun σ) : BatchRun σ :=
  { later with results := later.results.map (r :: ·), out := out ++ later.out }

def total (b : BatchRun σ) : Except TestError RunResult := b.results.map RunResult.combine

def close (b : BatchRun σ) : BatchRun σ :=
  match b.total with
  | .error _ => b
  | .ok total => { b with out := b.out ++ withoutTests total.filesWithNoTests }

end BatchRun

section

variable {σ : Type} (disk : Disk) (config : Config) (runner : FileRunner σ)

def runFiles : List Text → Session σ → BatchRun σ
  | [], s => ⟨.ok [], [], s⟩
  | file :: later, s =>
    let (found, journal) := scan disk config.marker file
    let s := { s with journal := s.journal ++ journal }
    if found then
      match runner file s with
      | (.error e, s) => ⟨.error e, announcement file, s⟩
      | (.ok r, s) => (runFiles later s).before (announcement file ++ passFail r) r
    else if looksTestable file then
      (runFiles later s).before [] { filesProcessed := [file] }
    else runFiles later s

def run (files : List Text) (s : Session σ) : BatchRun σ :=
  (runFiles disk config runner (ordered config files) s).close

end

def continued {σ : Type} (s later : Session σ) : Session σ :=
  { later with
    world := later.world.printedAfter s.world.console
    journal := s.journal ++ later.journal
    pauses := s.pauses ++ later.pauses
    leaks := s.leaks ++ later.leaks }

def fileRunner {σ : Type} (setting : Setting σ) (disk : Disk) (world : World σ) : FileRunner σ :=
  fun file s =>
    let ran := setting.test { name := some file, mode := "quiet", batch := true } disk
      { world := world }
    (ran.output.map fun output => output.result?.getD {}, continued s ran.session)

end EmbeddedTests.Batch
