import EmbeddedTests.Block
import EmbeddedTests.Pattern.Reader
import EmbeddedTests.Pattern.Search
/-!
When a message or a class is the expected one.
-/
namespace EmbeddedTests

/-- A class as a report and an expectation can name it. -/
structure ClassName where
  name : Text
  qualified : Text
  home : Text
  deriving DecidableEq, Repr

def ClassName.builtin (name : Text) : ClassName := ⟨name, name, "builtins"⟩

/-- Is the text of a pattern found in a message? The pattern that stands for anything is not read
as a pattern: it matches an empty message too. -/
def messageMatches (characters : CharacterNames) (pattern message : Text) :
    Except PatternError Bool :=
  if pattern = anything then .ok true
  else (Pattern.parse characters pattern).map (·.occursIn message)

def ClassName.goesBy (c : ClassName) (id : Text) : Bool :=
  id == c.name || id == c.qualified || id == c.home ++ "." ++ c.qualified

end EmbeddedTests
