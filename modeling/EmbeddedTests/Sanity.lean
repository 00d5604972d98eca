import EmbeddedTests.CommandLine
import EmbeddedTests.Sanity.Cases
import EmbeddedTests.Sanity.Sample
/-!
The sanity check. It classifies raw blocks, tests files in batch mode and compares their counters,
and collects the demo of the sample file; its report has a line for each case, and after a failed
file what was logged of it.
-/
namespace EmbeddedTests.Sanity

open Text

structure Suite where
  kinds : List KindCase := kindCases
  scenarios : List Scenario := Sanity.scenarios

/-- Where the sample file is, and the directory that the files of scenarios are written to. -/
structure Surface where
  sample : Text
  directory : Text

/-- One part of the check: its lines, its cases, and how many of them failed. -/
structure Part where
  lines : List Text := []
  total : Nat := 0
  failed : Nat := 0

def Part.add (a b : Part) : Part :=
  ⟨a.lines ++ b.lines, a.total + b.total, a.failed + b.failed⟩

def Part.sum (parts : List Part) : Part := parts.foldl Part.add {}

def passed (what : Text) : Part := ⟨["[PASS] " ++ what], 1, 0⟩

def failed (what : Text) (further : List Text) : Part :=
  ⟨("[FAIL] " ++ what) :: further.map fun line => "    " ++ line, 1, 1⟩

def checkKind (c : KindCase) : Part :=
  let got := (parseBlock c.raw).kind
  if got = c.kind then passed ("kind " ++ c.name)
  else failed ("kind " ++ c.name ++ ": expected " ++ c.kind.name ++ ", got " ++ got.name) []

def showCounters (counters : List (Text × Int)) : Text :=
  ['\x7b'] ++ joinWith ", " (counters.map fun (name, n) => quoted name ++ ": " ++ ofInt n)
    ++ ['\x7d']

/-- Do the counters differ from the expected ones? The name of a counter may be wrong. -/
def differs (r : RunResult) : List (Text × Int) → Attempt Bool
  | [] => .ok false
  | (name, n) :: later =>
    match r.counter? name with
    | none => .error (.raised (.builtin "KeyError" (quoted name)))
    | some got => (differs r later).map fun other => got != n || other

/-- Errors that make a case fail; the others leave the check. -/
def isOrdinary (r : Raised) : Bool := r.ancestry.contains "Exception"

def judge (c : Scenario) (r : RunResult) (log : Text) : Attempt Part :=
  (differs r c.counters).map fun wrong =>
    if wrong then
      failed ("file " ++ c.name ++ ": expected " ++ showCounters c.counters ++ ", got "
        ++ showCounters r.counters) (Text.lines log)
    else passed ("file " ++ c.name ++ ": " ++ trim (r.summary c.name))

/-- Why a scenario could not be carried through. -/
def brokenOff (c : Scenario) (why : Text) : Part := failed ("file " ++ c.name ++ ": " ++ why) []

def fileName (c : Scenario) : Text := c.name.map (fun ch => if ch = '-' then '_' else ch) ++ ".py"

def placeScenario (on : Surface) (c : Scenario) (disk : Disk) :
    Text × Except DiskFault Disk :=
  match c.source with
  | none => (on.sample, .ok disk)
  | some source =>
    let path := Path.tidy (Path.join on.directory (fileName c))
    (path, disk.write path (dedent source))

section

variable {σ : Type} (setting : Setting σ) (on : Surface)

def giveUp (c : Scenario) (e : Escape) (s : Session σ) : Attempt Part × Session σ :=
  match e.exception? with
  | none => (.error e, s)
  | some r =>
    if isOrdinary r then
      let (said, w) := setting.host.ask .formatted r.value s.world
      (said.map fun text => brokenOff c (r.line text), { s with world := w })
    else (.error e, s)

def checkScenario (c : Scenario) (disk : Disk) (s : Session σ) :
    Attempt Part × Disk × Session σ :=
  match placeScenario on c disk with
  | (path, .error fault) =>
    (.ok (brokenOff c (fault.kind ++ ": " ++ fault.report path)), disk, s)
  | (path, .ok disk) =>
    let ran := setting.test { name := some path, log := .stream } disk s
    match ran.output with
    | .error e =>
      let (part, s) := giveUp setting c e.toEscape ran.session
      (part, disk, s)
    | .ok output => (judge c (output.result?.getD {}) ran.session.report, disk, ran.session)

def checkScenarios : List Scenario → Disk → Session σ → Attempt Part × Disk × Session σ
  | [], disk, s => (.ok {}, disk, s)
  | c :: later, disk, s =>
    match checkScenario setting on c disk s with
    | (.error e, disk, s) => (.error e, disk, s)
    | (.ok part, disk, s) =>
      let (rest, disk, s) := checkScenarios later disk s
      (rest.map part.add, disk, s)

def isSampleDemo (code : Text) (offsets : List Nat) : Bool :=
  offsets == [code.length] && occursIn "print(clamp" code

def judgeDemo (code : Text) (offsets : List Nat) : Part :=
  if isSampleDemo code offsets then passed "grabdemo: 1 demo"
  else
    let shown := ['['] ++ joinWith ", " (offsets.map ofNat) ++ [']']
    failed ("grabdemo: got offsets " ++ shown ++ " for " ++ quoted code) []

def checkDemo (disk : Disk) (s : Session σ) : Attempt Part × Session σ :=
  let ran := setting.test
    { name := some on.sample, mode := TestMode.grabDemos.name } disk s
  let part := match ran.output with
    | .error e => .error e.toEscape
    | .ok (.demos code offsets) => .ok (judgeDemo code offsets)
    | .ok _ => .ok (judgeDemo [] [])
  (part, ran.session)

def reportOn (parts : List Part) : Text :=
  let all := Part.sum parts
  let lines := (parts.map fun p => p.lines ++ [[]]).flatten
  joinLines (lines ++ ["Total cases: " ++ ofNat all.total, "Failures: " ++ ofNat all.failed])

def check (suite : Suite) (disk : Disk) (s : Session σ) :
    Attempt (Text × Nat) × Session σ :=
  let kinds := Part.sum (suite.kinds.map checkKind)
  match checkScenarios setting on suite.scenarios disk s with
  | (.error e, _, s) => (.error e, s)
  | (.ok files, disk, s) =>
    let (demo, s) := checkDemo setting on disk s
    (demo.map fun demo =>
      let parts := [kinds, files, demo]
      (reportOn parts, (Part.sum parts).failed), s)

end

def setting (env : Environment) : Setting Snippet.Machine :=
  let config := Config.ofEnvironment env
  { host := Snippet.host
    config := config
    features := some (.standard config.features fun name => name ∈ Snippet.standardModules) }

def start : Session Snippet.Machine := { world := { state := {} } }

def reportVariable : Text := "SANITY_REPORT"

def reportPath (env : Environment) : Text :=
  Path.tidy ((env reportVariable).getD "sanity_report.txt")

def runProgram (env : Environment) (on : Surface) (disk : Disk) : ProgramRun :=
  let (checked, s) := check (setting env) on {} disk start
  let console := s.world.console
  match checked with
  | .error e =>
    { exit := (e.exception?.map fun r => .ofRaised r e).getD (.error e)
      console := console, disk := disk }
  | .ok (report, failures) =>
    match disk.write (reportPath env) report with
    | .error fault =>
      let e : Raised := .builtin fault.kind (fault.report (reportPath env))
      { exit := .error (.raised e), console := console, disk := disk }
    | .ok disk =>
      { exit := if failures = 0 then .normal else .status 1
        console := console ++ report ++ "\n"
        leaks := s.leaks
        disk := disk }

end EmbeddedTests.Sanity
