import EmbeddedTests.Text.LetterCase
/-!
Log records and the levels that they are filtered by.
-/
namespace EmbeddedTests

inductive Level where
  | trace | debug | info | success | warning | error | critical
  deriving DecidableEq, Repr

namespace Level

def all : List Level := [trace, debug, info, success, warning, error, critical]

def name : Level → Text
  | trace => "TRACE" | debug => "DEBUG" | info => "INFO" | success => "SUCCESS"
  | warning => "WARNING" | error => "ERROR" | critical => "CRITICAL"

def ofName? (name : Text) : Option Level := all.find? (·.name == name)

def rank : Level → Nat
  | trace => 5 | debug => 10 | info => 20 | success => 25 | warning => 30 | error => 40
  | critical => 50

end Level

/-- The part of the program that a record comes from. -/
inductive Origin where
  | engine | features | leaks | locate | multi | runner
  deriving DecidableEq, Repr

def Origin.name : Origin → Text
  | engine => "pybist.engine" | features => "pybist.features" | leaks => "pybist.leaks"
  | locate => "pybist.locate" | multi => "pybist.multi" | runner => "pybist.runner"

structure LogRecord where
  level : Level
  origin : Origin
  message : Text
  deriving DecidableEq, Repr

def LogRecord.columns (r : LogRecord) : List Text :=
  [Text.padRight 8 ' ' r.level.name, r.origin.name, r.message]

abbrev Journal := List LogRecord

def Journal.atLevel (j : Journal) (level : Level) : Journal :=
  j.filter fun r => level.rank ≤ r.level.rank

structure LevelError where
  name : Text
  deriving DecidableEq, Repr

def LevelError.message (e : LevelError) : Text :=
  "Invalid log level '" ++ e.name ++ "'. Must be one of: "
    ++ Text.joinWith ", " (Level.all.map Level.name)

def chooseLevel (asked configured : Text) : Except LevelError Level :=
  let name := Text.upper (if asked.isEmpty then configured else asked)
  match Level.ofName? name with
  | some level => .ok level
  | none => .error ⟨name⟩

end EmbeddedTests
