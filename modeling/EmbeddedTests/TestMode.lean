import EmbeddedTests.Engine
/-!
Modes of testing a file, and the engine's options in each.
-/
namespace EmbeddedTests

inductive TestMode where
  | normal | quiet | verbose
  /-- Collects demos without running anything. -/
  | grabDemos
  /-- Explains the marks of a report. -/
  | explain
  deriving DecidableEq, Repr

namespace TestMode

def all : List TestMode := [normal, quiet, verbose, grabDemos, explain]

def name : TestMode → Text
  | normal => "normal" | quiet => "quiet" | verbose => "verbose" | grabDemos => "grabdemo"
  | explain => "explain"

def ofName? (name : Text) : Option TestMode := all.find? (·.name == name)

end TestMode

/-- A request that cannot be met as it stands. -/
inductive UsageError where
  | unknownMode (name : Text)
  | missingName
  deriving DecidableEq, Repr

def UsageError.message : UsageError → Text
  | unknownMode name => "unknown mode '" ++ name ++ "'"
  | missingName => "a file or module name is required"

/-- The options of a mode; explaining needs no engine, so it has none. -/
def EngineOptions.ofMode? (mode : TestMode) (batch logfile : Bool) : Option EngineOptions :=
  match mode with
  | .normal =>
    let verbose := if logfile then 1 else if batch then -1 else 0
    some { verbose := verbose, batch := batch, logfile := logfile }
  | .quiet | .grabDemos => some { verbose := -1, batch := batch, logfile := logfile }
  | .verbose => some { verbose := 1, batch := batch, runDemos := !batch, logfile := logfile }
  | .explain => none

end EmbeddedTests
