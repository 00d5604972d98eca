import EmbeddedTests.Runner
/-!
How a program ends.
-/
namespace EmbeddedTests

inductive Exit where
  | normal
  /-- Its end was asked for, with a status: a number, or a last message. -/
  | requested (status : Value)
  | error (e : Escape)

namespace Exit

def request : Text := "SystemExit"

def status (n : Int) : Exit := requested (.int n)

def message (t : Text) : Exit := requested (.str t)

def ofRaised (r : Raised) (escape : Escape) : Exit :=
  if r.ancestry.contains request then requested r.value.exitStatus else error escape

def ofTestError : TestError → Exit
  | .usage e => message e.message
  | .file e => message e.message
  | .escape (.interrupted r) => ofRaised r (.interrupted r)
  | .escape (.raised r) => ofRaised r (.raised r)
  | .escape e => error e

end Exit
end EmbeddedTests
