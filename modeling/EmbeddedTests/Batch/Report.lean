import EmbeddedTests.Result
/-!
What is written for each file of a batch: how many tests passed, and a line for each kind of test
that did not simply pass.
-/
namespace EmbeddedTests.Batch

open Text

def categories (r : RunResult) : List (Text × Int) :=
  [("FAIL ", r.reallyFailed), ("(setup) ERROR", r.errors), ("REGRESSION", r.xregression),
    ("(reported bug) XFAIL", r.xbug), ("(expected failure) XFAIL", r.xfail),
    ("(missing feature) SKIP", r.xskip), ("(run-time condition) SKIP", r.xrtskip)]

def categoryLine (label : Text) (count : Int) : Text :=
  padLeft 71 ' ' label ++ ' ' :: padLeft 3 ' ' (ofInt count)

def passFail (r : RunResult) : Text :=
  if r.tests = 0 ∧ r.errors = 0 then "\n"
  else
    let head := " PASS   " ++ padLeft 4 ' ' (ofInt r.successes) ++ '/' ::
      padRight 4 ' ' (ofInt r.tests)
    let lines := (categories r).filterMap fun (label, count) =>
      if count > 0 then some (categoryLine label count) else none
    joinLines (head :: lines) ++ "\n"

def announcement (file : Text) : Text :=
  "  " ++ file ++ ' ' :: List.replicate (60 - file.length) '.'

def withoutTests (files : List Text) : Text :=
  let line (file : Text) : Text := "  " ++ file ++ "\n"
  if files.isEmpty then []
  else "\nThe following files have no tests:\n\n" ++ (files.map line).flatten

end EmbeddedTests.Batch
