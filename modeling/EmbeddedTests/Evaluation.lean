import EmbeddedTests.Text.Template
import EmbeddedTests.Value
/-!
What running a piece of code comes to, and what can leave a run before its end.
-/
namespace EmbeddedTests

/-- An exception: its class, the built-in classes that it is an instance of, and the object. -/
structure Raised where
  type : ClassName
  ancestry : List Text := []
  value : Value

namespace Raised

def isAssertion (r : Raised) : Bool := r.ancestry.contains "AssertionError"

/-- How it is worded in a report, where the text is what it says: a failed assertion that says
nothing has a text of its own. -/
def wording (r : Raised) (text : Text) : Text :=
  if r.isAssertion && text.isEmpty then "assertion failed" else text

def line (r : Raised) (message : Text) : Text := r.type.name ++ ": " ++ message

def builtin (name : Text) (text : Text) : Raised :=
  ⟨.builtin name, Snippet.lineage name, .str text⟩

end Raised

/-- A warning: its category and the object. -/
structure Warning where
  category : ClassName
  value : Value

structure Evaluation where
  error : Option Raised := none
  bindings : Bindings := []
  warnings : List Warning := []
  /-- The error is that the code does not compile. -/
  syntaxError : Bool := false

def Evaluation.raised (e : Evaluation) : Bool := e.error.isSome

/-- What leaves a run before its end. -/
inductive Escape where
  | interrupted (r : Raised)
  | badPattern (e : PatternError)
  | badTemplate (e : Text.TemplateError)
  /-- What an object raised when it was asked, or code that is not the run's own. -/
  | raised (r : Raised)
  /-- It is not described here what becomes of the run. -/
  | beyond (what : Text)

namespace Escape

def exception? : Escape → Option Raised
  | interrupted r | raised r => some r
  | badPattern e =>
    let c := ObjectClass.builtin e.className
    some ⟨c.name, c.lineage, .str e.message⟩
  | badTemplate e => e.kind.className?.map fun name => .builtin name e.message
  | beyond _ => none

end Escape

abbrev Attempt := Except Escape

end EmbeddedTests
