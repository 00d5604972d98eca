import EmbeddedTests.Host
import EmbeddedTests.Marked.File
import EmbeddedTests.TestMode
/-!
Testing one file: it is located, its test buffer is read and divided into blocks, its code is
prepared, and the blocks are run. What became of the tests (`Course`) decides the file's result.

A log is a file or a stream; with a log, tests run in batch mode. A log file shows what has been
reported so far to whatever reads it in the meantime.
-/
namespace EmbeddedTests

open Text

inductive LogTarget where
  /-- No log: reports go to the console. -/
  | console
  | stream
  | file (path : Text)
  deriving DecidableEq, Repr

def LogTarget.isLog : LogTarget → Bool
  | console => false
  | stream | file _ => true

def LogTarget.sink : LogTarget → Sink
  | console => .console
  | stream | file _ => .apart

def LogTarget.start (log : LogTarget) (disk : Disk) : Except FileError Disk :=
  match log with
  | .console | .stream => .ok disk
  | .file path => (disk.write path []).mapError fun fault => ⟨path, fault.reason⟩

/-- The disk with what the log has so far. -/
def LogTarget.onto (log : LogTarget) (disk : Disk) (report : Text) : Disk :=
  match log with
  | .console | .stream => disk
  | .file path => (disk.write path report).toOption.getD disk

/-- What ends a test of a file without a result. -/
inductive TestError where
  | usage (e : UsageError)
  | file (e : FileError)
  | escape (e : Escape)

namespace TestError

def ownException (name message : Text) : Raised :=
  ⟨⟨name, name, "pybist.types"⟩, Snippet.lineage "Exception", .str message⟩

def toEscape : TestError → Escape
  | usage e => .raised (ownException "BistUsageError" e.message)
  | file e => .raised (ownException "BistFileError" e.message)
  | escape e => e

end TestError

/-- What became of the tests of a file. -/
inductive Course (σ : Type) where
  /-- The file has no marked lines. -/
  | untested
  /-- The file's own code failed, which counts as one test that failed. -/
  | unprepared (e : Raised)
  | ran (steps : Engine.Steps σ)

/-- The counters of a course that no escape ended. -/
def Course.result? {σ : Type} : Course σ → Option RunResult
  | untested => some {}
  | unprepared _ => some { tests := 1 }
  | ran steps => steps.result?

inductive TestOutput (σ : Type) where
  | legend
  /-- No file was found. -/
  | missing
  | demos (code : Text) (offsets : List Nat)
  | tested (file : Text) (course : Course σ) (result : RunResult)

def TestOutput.result? {σ : Type} : TestOutput σ → Option RunResult
  | missing => some {}
  | tested _ _ result => some result
  | legend | demos .. => none

structure TestRequest where
  name : Option Text
  mode : Text := "normal"
  log : LogTarget := .console
  batch : Bool := false

namespace TestRequest

/-- The mode and the name of a request; the name counts for nothing when the mode is to
explain. -/
def check (r : TestRequest) : Except UsageError (TestMode × Text) :=
  match TestMode.ofName? r.mode, r.name.getD [] with
  | none, _ => .error (.unknownMode r.mode)
  | some .explain, name => .ok (.explain, name)
  | some _, [] => .error .missingName
  | some mode, name => .ok (mode, name)

end TestRequest

/-- What testing files takes; without a query for features, modules of their names are asked
for. -/
structure Setting (σ : Type) where
  host : Host σ
  config : Config
  features : Option FeatureQuery := none
  library : Library := {}
  pause : (earlier : List Text) → Attempt Unit := fun _ => .ok ()

namespace Setting

variable {σ : Type}

def featuresOn (g : Setting σ) (disk : Disk) : FeatureQuery :=
  g.features.getD (.standard g.config.features (g.host.hasModule disk))

end Setting

/-- A test of a file: the setting, the log, and the disk without what the log gets. -/
structure FileTest (σ : Type) where
  setting : Setting σ
  log : LogTarget
  disk : Disk

namespace FileTest

variable {σ : Type}

def diskAt (t : FileTest σ) (s : Session σ) : Disk := t.log.onto t.disk s.report

def emit (t : FileTest σ) (text : Text) (s : Session σ) : Session σ := s.emit t.log.sink text

def engine (t : FileTest σ) (evaluator : Evaluator σ) (options : EngineOptions) (disk : Disk) :
    Engine σ :=
  ⟨evaluator, options, t.setting.config, t.setting.featuresOn disk, t.log.sink, t.setting.library,
    t.setting.pause⟩

def couldNotImport (file line : Text) : Text :=
  Signal.failure ++ "could not import " ++ file ++ "\n" ++ line ++ "\n"

def reportUnprepared (t : FileTest σ) (file : Text) (e : Raised) (s : Session σ) :
    Attempt Unit × Session σ :=
  match t.setting.host.ask .formatted e.value s.world with
  | (.error escape, w) => (.error escape, { s with world := w })
  | (.ok text, w) => (.ok (), t.emit (couldNotImport file (e.line text)) { s with world := w })

def runBlocks (t : FileTest σ) (options : EngineOptions) (file : Text) (blocks : List Block)
    (s : Session σ) : Attempt (Course σ) × Session σ :=
  let s := if options.verbose > 0 then t.emit (Signal.file ++ file ++ "\n") s else s
  let s := s.log .info .runner
    ("running " ++ ofNat blocks.length ++ " block(s) from " ++ file)
  let disk := t.diskAt s
  match t.setting.host.prepare disk t.setting.config file s.world with
  | (.error escape, w) => (.error escape, { s with world := w })
  | (.ok (.error e), w) =>
    let (told, s) := t.reportUnprepared file e { s with world := w }
    (told.map fun _ => .unprepared e, s)
  | (.ok (.ok evaluator), w) =>
    let steps := (t.engine evaluator options disk).run file blocks { s with world := w }
    (steps.escape.elim (.ok (.ran steps)) .error, steps.last)

def conclude (t : FileTest σ) (options : EngineOptions) (file : Text) (course : Course σ)
    (result : RunResult) (s : Session σ) : Session σ :=
  match course with
  | .untested => t.emit (Signal.empty ++ file ++ " has no tests available\n") s
  | .unprepared _ => s
  | .ran _ =>
    let s := s.log .info .runner
      (file ++ ": " ++ ofInt result.successes ++ "/" ++ ofInt result.tests ++ " passed")
    if options.batch then s else t.emit (result.summary file) s

def runBuffer (t : FileTest σ) (options : EngineOptions) (file buffer : Text) (s : Session σ) :
    Except TestError (TestOutput σ) × Session σ :=
  let (course, s) :=
    if buffer.isEmpty then (.ok .untested, s)
    else t.runBlocks options file (parseBlocks buffer) s
  match course with
  | .error escape => (.error (.escape escape), s)
  | .ok course =>
    let result := (course.result?.getD {}).classify file t.setting.config.failThreshold
    (.ok (.tested file course result), t.conclude options file course result s)

/-- Tests what a name stands for. Without options for the engine, only demos are collected. -/
def runNamed (t : FileTest σ) (name : Text) (options : Option EngineOptions) (s : Session σ) :
    Except TestError (TestOutput σ) × Session σ :=
  match t.setting.host.locate (t.diskAt s) name s with
  | (.error escape, s) => (.error (.escape escape), s)
  | (.ok none, s) =>
    if options.isNone then (.ok (.demos [] []), s)
    else (.ok .missing, t.emit (Signal.empty ++ name ++ " does not exist in path\n") s)
  | (.ok (some file), s) =>
    match (t.diskAt s).readTests file t.setting.config.marker, options with
    | .error e, _ => (.error (.file e), s)
    | .ok buffer, none =>
      let (code, offsets) := grabDemos (parseBlocks buffer)
      (.ok (.demos code offsets), s)
    | .ok buffer, some options => t.runBuffer options file buffer s

def run (t : FileTest σ) (mode : TestMode) (name : Text) (batch : Bool) (s : Session σ) :
    Except TestError (TestOutput σ) × Session σ :=
  if mode = .explain then (.ok .legend, t.emit Signal.legend s)
  else
    let isLog := t.log.isLog
    let s := if isLog then t.emit (Signal.file ++ "processing " ++ name ++ "\n") s else s
    let options :=
      if mode = .grabDemos then none else EngineOptions.ofMode? mode (batch || isLog) isLog
    t.runNamed name options s

end FileTest

/-- What a test of a file comes to, with the state and the disk after it. -/
structure TestRun (σ : Type) where
  output : Except TestError (TestOutput σ)
  session : Session σ
  disk : Disk

namespace Setting

variable {σ : Type}

def test (g : Setting σ) (r : TestRequest) (disk : Disk) (s : Session σ) : TestRun σ :=
  let s := { s with report := [] }
  match r.check with
  | .error e => ⟨.error (.usage e), s, disk⟩
  | .ok (mode, name) =>
    match r.log.start disk with
    | .error e => ⟨.error (.file e), s, disk⟩
    | .ok disk =>
      let t : FileTest σ := ⟨g, r.log, disk⟩
      let (output, s) := t.run mode name r.batch s
      ⟨output, s, t.diskAt s⟩

end Setting
end EmbeddedTests
