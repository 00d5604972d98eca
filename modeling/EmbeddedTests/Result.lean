import EmbeddedTests.Signal
/-!
Outcomes of blocks, and the results that add them up: of one file, or of many together.
-/
namespace EmbeddedTests

open Text

/-- What one block contributes to a run. -/
inductive Outcome where
  /-- Done, and not a test. -/
  | none
  | pass | fail
  | xfail | xbug | regression
  | skip | rtskip
  /-- The failure of a block that is not a test. -/
  | error
  deriving DecidableEq, Repr

namespace Outcome

def all : List Outcome := [none, pass, fail, xfail, xbug, regression, skip, rtskip, error]

def name : Outcome → Text
  | none => "none" | pass => "pass" | fail => "fail" | xfail => "xfail" | xbug => "xbug"
  | regression => "regression" | skip => "skip" | rtskip => "rtskip" | error => "error"

def ofName? (name : Text) : Option Outcome := all.find? (·.name == name)

/-- A hard failure stops a file that is not run in batch mode. -/
def isHard : Outcome → Bool
  | fail | error => true
  | _ => false

end Outcome

structure RunResult where
  tests : Int := 0
  successes : Int := 0
  xfail : Int := 0
  xbug : Int := 0
  xskip : Int := 0
  xrtskip : Int := 0
  xregression : Int := 0
  /-- Failures of blocks that are not tests. -/
  errors : Int := 0
  filesProcessed : List Text := []
  filesWithTests : List Text := []
  filesWithNoTests : List Text := []
  failedFiles : List Text := []
  deriving DecidableEq, Repr

namespace RunResult

def add (a b : RunResult) : RunResult where
  tests := a.tests + b.tests
  successes := a.successes + b.successes
  xfail := a.xfail + b.xfail
  xbug := a.xbug + b.xbug
  xskip := a.xskip + b.xskip
  xrtskip := a.xrtskip + b.xrtskip
  xregression := a.xregression + b.xregression
  errors := a.errors + b.errors
  filesProcessed := a.filesProcessed ++ b.filesProcessed
  filesWithTests := a.filesWithTests ++ b.filesWithTests
  filesWithNoTests := a.filesWithNoTests ++ b.filesWithNoTests
  failedFiles := a.failedFiles ++ b.failedFiles

instance : Add RunResult := ⟨add⟩

def combine (results : List RunResult) : RunResult := results.foldl (· + ·) {}

def reallyFailed (r : RunResult) : Int := r.tests - r.successes

def hardFailures (r : RunResult) : Int := r.reallyFailed + r.errors

def success (r : RunResult) : Bool := r.hardFailures == 0

def hasTests (r : RunResult) : Bool :=
  r.tests != 0 || r.xfail != 0 || r.xbug != 0 || r.xskip != 0 || r.xrtskip != 0
    || r.xregression != 0 || r.errors != 0

def tally (r : RunResult) : Outcome → RunResult
  | .none => r
  | .pass => { r with tests := r.tests + 1, successes := r.successes + 1 }
  | .fail => { r with tests := r.tests + 1 }
  | .xfail => { r with xfail := r.xfail + 1 }
  | .xbug => { r with xbug := r.xbug + 1 }
  | .regression => { r with xregression := r.xregression + 1 }
  | .skip => { r with xskip := r.xskip + 1 }
  | .rtskip => { r with xrtskip := r.xrtskip + 1 }
  | .error => { r with errors := r.errors + 1 }

def tallyAll (r : RunResult) (outcomes : List Outcome) : RunResult := outcomes.foldl tally r

def classify (r : RunResult) (file : Text) (threshold : Int) : RunResult :=
  let r :=
    if file ∈ r.filesProcessed then r
    else { r with filesProcessed := r.filesProcessed ++ [file] }
  if !r.hasTests then { r with filesWithNoTests := r.filesWithNoTests ++ [file] }
  else
    { r with
      filesWithTests := r.filesWithTests ++ [file]
      failedFiles :=
        if r.hardFailures > threshold then r.failedFiles ++ [file] else r.failedFiles }

def counters (r : RunResult) : List (Text × Int) :=
  [("tests", r.tests), ("successes", r.successes), ("xfail", r.xfail), ("xbug", r.xbug),
    ("xskip", r.xskip), ("xrtskip", r.xrtskip), ("xregression", r.xregression),
    ("errors", r.errors)]

def counter? (r : RunResult) (name : Text) : Option Int :=
  (r.counters.find? (·.1 == name)).map (·.2)

def counted (n : Int) (word : Text) : Text :=
  ofInt n ++ ' ' :: word ++ (if n > 1 then ['s'] else [])

def summary (r : RunResult) (file : Text) : Text :=
  if !r.hasTests then Signal.empty ++ file ++ " has no tests available\n"
  else
    let listed (n : Int) (word : Text) : List Text := if n ≠ 0 then [counted n word] else []
    let extra := listed r.xfail "known failure" ++ listed r.xbug "known bug"
      ++ listed r.xregression "regression" ++ listed r.errors "setup failure"
    let head := "PASSES " ++ ofInt r.successes ++ " out of " ++ counted r.tests "test"
    let skipped (n : Int) (reason : Text) : List Text :=
      if n ≠ 0 then ["Skipped " ++ counted n "test" ++ " due to " ++ reason] else []
    let lines :=
      [if extra.isEmpty then head else head ++ " (" ++ joinWith "; " extra ++ ")"]
        ++ skipped r.xskip "missing features" ++ skipped r.xrtskip "run-time conditions"
    joinLines lines ++ "\n"

end RunResult
end EmbeddedTests
