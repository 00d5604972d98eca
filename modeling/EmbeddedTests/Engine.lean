import EmbeddedTests.Block.Classify
import EmbeddedTests.Config
import EmbeddedTests.Feature
import EmbeddedTests.Result
import EmbeddedTests.Shared
/-!
Running the blocks of one file in order. Each step executes a block, which comes to an outcome and
a message, and reports it. Shared variables last from step to step, functions last until the file
is done. A hard failure stops the file unless it is run in batch mode.

An escape (an interruption, a malformed pattern or address template, or what an object raises when
a report asks it) leaves the run; what the run has bound is unbound all the same.
-/
namespace EmbeddedTests

open Text

structure EngineOptions where
  verbose : Int := 0
  batch : Bool := false
  runDemos : Bool := false
  /-- Reports go to a log. -/
  logfile : Bool := false
  deriving DecidableEq, Repr

/-- Where reports go: to the console, among what code prints, or to a place of their own. -/
inductive Sink where
  | console | apart
  deriving DecidableEq, Repr

structure BlockReport where
  block : Block
  outcome : Outcome
  message : Text
  halted : Bool

structure Session (σ : Type) where
  world : World σ
  shared : Shared := []
  /-- Names of functions to unbind at the end. -/
  functions : List Text := []
  /-- What was reported apart from the console. -/
  report : Text := []
  journal : Journal := []
  /-- The prompts at which the user was waited for. -/
  pauses : List Text := []
  /-- Warnings about what the file left behind. -/
  leaks : List Text := []

structure Engine (σ : Type) where
  evaluator : Evaluator σ
  options : EngineOptions
  config : Config
  features : FeatureQuery
  sink : Sink
  library : Library := {}
  /-- Waits for the user, who was waited for at the earlier prompts. -/
  pause : (earlier : List Text) → Attempt Unit := fun _ => .ok ()

def pausePrompt : Text := "Press <enter> to continue: "

def classifyFailure (known : Bool) (bug : BugTag) (config : Config) (attributes : TextAttributes) :
    Except TemplateError (Outcome × Text) :=
  if !known then .ok (.fail, "test failed")
  else if bug.id.isEmpty then
    .ok (if bug.fixed then (.regression, "regression") else (.xfail, "known failure"))
  else (config.bugUrl attributes bug.id).map fun place =>
    if bug.fixed then (.regression, "regression: " ++ place) else (.xbug, "known bug: " ++ place)

namespace Session

variable {σ : Type}

def log (s : Session σ) (level : Level) (origin : Origin) (message : Text) : Session σ :=
  { s with journal := s.journal ++ [⟨level, origin, message⟩] }

def emit (sink : Sink) (t : Text) (s : Session σ) : Session σ :=
  match sink with
  | .console => { s with world := s.world.print t }
  | .apart => { s with report := s.report ++ t }

def tearDown (s : Session σ) : Session σ :=
  { s with
    world := (s.functions.foldl World.unbind s.world).removeHelpers
    functions := []
    shared := [] }

end Session

abbrev Verdict := Outcome × Text

namespace Engine

variable {σ : Type}

def failed (headline detail : Text) : Text := Signal.failure ++ headline ++ '\n' :: detail

abbrev Executed (σ : Type) := Attempt Verdict × Session σ

def tellFailure (e : Engine σ) (outcome : Outcome) (headline : Text) (result : Evaluation)
    (s : Session σ) : Executed σ :=
  let (said, w) := e.evaluator.errorText result s.world
  (said.map fun detail => (outcome, failed headline detail), { s with world := w })

/-- Demos run without shared variables, and never in batch mode. -/
def runDemo (e : Engine σ) (code : Text) (s : Session σ) : Executed σ :=
  if !e.options.runDemos || e.options.batch then (.ok (.none, []), s)
  else
    match e.evaluator.execute (normalizeCode code) [] false s.world with
    | (.error escape, w) => (.error escape, { s with world := w })
    | (.ok result, w) =>
      let s := { s with world := w }
      if result.raised then e.tellFailure .error "demo failed" result s
      else
        ((e.pause s.pauses).map fun _ => (.none, []), { s with pauses := s.pauses ++ [pausePrompt] })

def initializationFailed : Text := "shared variable initialization failed"

def runShared (e : Engine σ) (names : List Text) (code : Text) (s : Session σ) : Executed σ :=
  match Shared.reset names with
  | .error bad => (.ok (.error, failed initializationFailed bad.message), s)
  | .ok shared =>
    let (result, shared, w) := Shared.runInitializer e.evaluator code shared s.world
    let s := { s with shared := shared, world := w }
    match result with
    | .error escape => (.error escape, s)
    | .ok none => (.ok (.none, []), s)
    | .ok (some result) =>
      if result.raised then e.tellFailure .error initializationFailed result s
      else (.ok (.none, []), s)

def missingName : Text := "missing function name"

def runFunction (e : Engine σ) (signature : Option Signature) (code : Text) (s : Session σ) :
    Executed σ :=
  match signature with
  | none => (.ok (.error, Signal.failure ++ "test failed: " ++ missingName), s)
  | some signature =>
    match e.evaluator.define signature.name code s.world with
    | (.error escape, w) => (.error escape, { s with world := w })
    | (.ok result, w) =>
      if result.raised then
        e.tellFailure .error "test failed: syntax error" result { s with world := w }
      else (.ok (.none, []), { s with world := w, functions := s.functions ++ [signature.name] })

def unmet (kind : ExpectKind) (detail : Text) : Verdict :=
  (.fail, failed ((BlockKind.ofExpect kind).name ++ " failed.") detail)

/-- Compares a class, or what is said, with what is expected. What is said is asked for again to
tell it, even if nothing is told of it. -/
def compare (characters : CharacterNames) (kind : ExpectKind) (target : Expectation)
    (type : ClassName) (message : World σ → Attempt Text × World σ) (w : World σ) :
    Attempt Verdict × World σ :=
  let judged (met : Bool) (got : Text) : Verdict :=
    if met then (.pass, [])
    else unmet kind ("Expected " ++ target.label kind ++ ", but got <" ++ got ++ ">")
  match target with
  | .identified id => (.ok (judged (type.goesBy id) type.name), w)
  | .matching pattern =>
    goOn (message w) fun text w =>
      match messageMatches characters pattern text with
      | .error fault => (.error (.badPattern fault), w)
      | .ok met =>
        let (got, w) := message w
        (got.map (judged met), w)

def judge (e : Engine σ) (kind : ExpectKind) (target : Expectation) (result : Evaluation)
    (w : World σ) : Attempt Verdict × World σ :=
  let label := target.label kind
  if result.syntaxError then
    let (said, w) := e.evaluator.errorText result w
    (said.map fun detail => (.fail, failed "test failed: syntax error" detail), w)
  else
    match kind, result.error with
    | .error, none => (.ok (unmet kind ("Expected " ++ label ++ ", but got no error")), w)
    | .error, some raised =>
      compare e.library.characters kind target raised.type (e.evaluator.message raised) w
    | .warning, some raised =>
      let (said, w) := e.evaluator.message raised w
      (said.map fun message => unmet kind
        ("Expected warning " ++ label ++ ", but got error <" ++ message ++ ">"), w)
    | .warning, none =>
      match result.warnings.getLast? with
      | none => (.ok (unmet kind ("Expected " ++ label ++ ", but got no warning")), w)
      | some warning =>
        compare e.library.characters kind target warning.category
          (e.evaluator.warningMessage result) w

def runExpect (e : Engine σ) (kind : ExpectKind) (target : Expectation) (code : Text)
    (s : Session σ) : Executed σ :=
  match e.evaluator.execute code s.shared (kind == .warning) s.world with
  | (.error escape, w) => (.error escape, { s with world := w })
  | (.ok result, w) =>
    let (verdict, w) := e.judge kind target result w
    (verdict, { s with world := w })

/-- Runs the code of a test. What it leaves in the shared variables counts only if it passes. -/
def runCheck (e : Engine σ) (code : Text) (known : Bool) (bug : BugTag) (s : Session σ) :
    Executed σ :=
  match e.evaluator.execute code s.shared false s.world with
  | (.error escape, w) => (.error escape, { s with world := w })
  | (.ok result, w) =>
    let s := { s with world := w }
    if !result.raised then
      (.ok (.pass, []), { s with shared := s.shared.update result.bindings })
    else
      match classifyFailure known bug e.config e.library.attributes with
      | .error fault => (.error (.badTemplate fault), s)
      | .ok (outcome, headline) =>
        e.tellFailure outcome
          (if result.syntaxError then headline ++ ": syntax error" else headline) result s

def runGuarded (e : Engine σ) (header : Except HeaderError Header) (code : Text)
    (s : Session σ) : Executed σ :=
  match header with
  | .error malformed => (.ok (.fail, Signal.failure ++ "test failed: " ++ malformed.message), s)
  | .ok header =>
    let (available, journal) := e.features.allAvailable header.features
    let s := { s with journal := s.journal ++ journal }
    let run (s : Session σ) : Executed σ :=
      e.runCheck code (!header.bug.id.isEmpty) header.bug s
    if !available then (.ok (.skip, Signal.skip ++ "skipped test (missing feature)"), s)
    else if header.condition.isEmpty then run s
    else
      match e.evaluator.evaluate header.condition s.shared s.world with
      | (.error escape, w) => (.error escape, { s with world := w })
      | (.ok (.error raised), w) =>
        let (said, w) := e.evaluator.ask .formatted raised.value w
        (said.map fun text =>
          (.fail, failed "test failed: runtime condition raised" (raised.line text)),
          { s with world := w })
      | (.ok (.ok value), w) =>
        match e.evaluator.ask .truth value w with
        | (.error escape, w) => (.error escape, { s with world := w })
        | (.ok holds, w) =>
          let s := { s with world := w }
          if holds then run s
          else (.ok (.rtskip, Signal.skip ++ "skipped test (runtime test)"), s)

def execute (e : Engine σ) (b : Block) (s : Session σ) : Executed σ :=
  match b.content with
  | .demo code => e.runDemo code s
  | .shared names code => e.runShared names code s
  | .function signature code => e.runFunction signature code s
  | .functionEnd | .comment => (.ok (.none, []), s)
  | .expect kind target code => e.runExpect kind target code s
  | .check _ bug code => e.runCheck code b.isKnownFailure bug s
  | .guarded header code => e.runGuarded header code s
  | .unknown _ => (.ok (.fail, Signal.failure ++ "unknown test type!"), s)

def withoutShared (kind : BlockKind) : Bool :=
  kind == .error || kind == .testif || kind == .xtest

def echo (e : Engine σ) (b : Block) (s : Session σ) : Session σ :=
  s.emit e.sink (Signal.block ++ b.raw ++ "\n")

def tells (e : Engine σ) (r : BlockReport) : Bool :=
  !r.message.isEmpty && !(e.options.verbose < 0 && !e.options.logfile)

/-- Tells a message after the block that it is about, unless that was shown before. -/
def tell (e : Engine σ) (r : BlockReport) (s : Session σ) : Session σ :=
  if e.tells r then
    let s := if e.options.verbose < 1 then e.echo r.block s else s
    s.emit e.sink (r.message ++ "\n")
  else s

def describes (e : Engine σ) (r : BlockReport) (shared : Shared) : Bool :=
  e.tells r && !withoutShared r.block.kind && !shared.isEmpty

def description (lines : List Text) : Text := "shared variables\n" ++ joinLines lines ++ "\n"

def emitReport (e : Engine σ) (r : BlockReport) (s : Session σ) : Attempt Unit × Session σ :=
  let told := e.tell r s
  if e.describes r s.shared then
    match Shared.describe e.evaluator s.shared told.world with
    | (.error escape, w) => (.error escape, { told with world := w })
    | (.ok lines, w) => (.ok (), Session.emit e.sink (description lines) { told with world := w })
  else (.ok (), told)

def step (e : Engine σ) (b : Block) (s : Session σ) : Attempt BlockReport × Session σ :=
  let s := if e.options.verbose > 0 then e.echo b s else s
  let s := s.log .debug .engine ("running " ++ b.kind.name ++ " block")
  match e.execute b s with
  | (.error escape, s) => (.error escape, s)
  | (.ok (outcome, message), s) =>
    let r : BlockReport := ⟨b, outcome, message, outcome.isHard && !e.options.batch⟩
    let (told, s) := e.emitReport r s
    (told.map fun _ => r, s)

/-- The steps of a run with the state after each, the escape that ended them, if one did, and the
last state. -/
structure Steps (σ : Type) where
  done : List (BlockReport × Session σ)
  escape : Option Escape
  last : Session σ

def steps (e : Engine σ) (file : Text) : List Block → Session σ → Steps σ
  | [], s => ⟨[], none, s⟩
  | b :: rest, s =>
    match e.step b s with
    | (.error escape, s) => ⟨[], some escape, s⟩
    | (.ok r, s) =>
      if r.halted then
        ⟨[(r, s)], none, s.log .info .engine (file ++ ": stopping after hard failure")⟩
      else
        let later := e.steps file rest s
        { later with done := (r, s) :: later.done }

def checkLeaks (e : Engine σ) (file : Text) (before : LeakSnapshot) (s : Session σ) :
    Session σ :=
  let found := LeakReport.between before (e.evaluator.surroundings s.world).snapshot
  (found.messages file).foldl
    (fun s message => { s.log .warning .leaks message with leaks := s.leaks ++ [message] }) s

def run (e : Engine σ) (file : Text) (blocks : List Block) (s : Session σ) : Steps σ :=
  let before := (e.evaluator.surroundings s.world).snapshot
  let ran := e.steps file blocks { s with world := s.world.installHelpers }
  { ran with last := e.checkLeaks file before ran.last.tearDown }

namespace Steps

def reports (r : Steps σ) : List BlockReport := r.done.map (·.1)

def outcomes (r : Steps σ) : List Outcome := r.reports.map (·.outcome)

def halted (r : Steps σ) : Bool := r.reports.any (·.halted)

/-- The counters of a run that was not left. -/
def result? (r : Steps σ) : Option RunResult :=
  match r.escape with
  | some _ => none
  | none => some (RunResult.tallyAll {} r.outcomes)

end Steps

def notABlock (written : Text) : Raised := .builtin "TypeError" ("not a block: " ++ written)

end Engine

def grabDemos (blocks : List Block) : Text × List Nat :=
  blocks.foldl
    (fun (code, offsets) b =>
      match b.content with
      | .demo demo => (code ++ demo, offsets ++ [code.length + demo.length])
      | _ => (code, offsets))
    ([], [])

end EmbeddedTests
