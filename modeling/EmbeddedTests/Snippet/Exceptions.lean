import EmbeddedTests.Text
/-!
The classes of exceptions and warnings that snippets can name, each with the class above it.
-/
namespace EmbeddedTests.Snippet

/-- A class, and the classes right under it. -/
structure ExceptionFamily where
  parent : Text
  children : List Text

def exceptionFamilies : List ExceptionFamily :=
  [⟨"BaseException", ["Exception", "GeneratorExit", "KeyboardInterrupt", "SystemExit"]⟩,
    ⟨"Exception",
      ["ArithmeticError", "AssertionError", "AttributeError", "BufferError", "EOFError",
        "ImportError", "LookupError", "MemoryError", "NameError", "OSError", "ReferenceError",
        "RuntimeError", "StopAsyncIteration", "StopIteration", "SyntaxError", "SystemError",
        "TypeError", "ValueError", "Warning"]⟩,
    ⟨"ArithmeticError", ["FloatingPointError", "OverflowError", "ZeroDivisionError"]⟩,
    ⟨"ImportError", ["ModuleNotFoundError"]⟩,
    ⟨"LookupError", ["IndexError", "KeyError"]⟩,
    ⟨"NameError", ["UnboundLocalError"]⟩,
    ⟨"OSError",
      ["BlockingIOError", "ChildProcessError", "ConnectionError", "FileExistsError",
        "FileNotFoundError", "InterruptedError", "IsADirectoryError", "NotADirectoryError",
        "PermissionError", "ProcessLookupError", "TimeoutError"]⟩,
    ⟨"ConnectionError",
      ["BrokenPipeError", "ConnectionAbortedError", "ConnectionRefusedError",
        "ConnectionResetError"]⟩,
    ⟨"RuntimeError", ["NotImplementedError", "RecursionError"]⟩,
    ⟨"SyntaxError", ["IndentationError"]⟩,
    ⟨"IndentationError", ["TabError"]⟩,
    ⟨"ValueError", ["UnicodeError"]⟩,
    ⟨"UnicodeError", ["UnicodeDecodeError", "UnicodeEncodeError", "UnicodeTranslateError"]⟩,
    ⟨"Warning",
      ["BytesWarning", "DeprecationWarning", "EncodingWarning", "FutureWarning", "ImportWarning",
        "PendingDeprecationWarning", "ResourceWarning", "RuntimeWarning", "SyntaxWarning",
        "UnicodeWarning", "UserWarning"]⟩]

/-- The class of malformed patterns; snippets cannot name it. -/
def patternErrorName : Text := "error"

def exceptionAliases : List (Text × Text) :=
  [("EnvironmentError", "OSError"), ("IOError", "OSError")]

def exceptionNamed? (name : Text) : Option Text :=
  match exceptionAliases.find? (·.1 == name) with
  | some (_, actual) => some actual
  | none =>
    if name = "BaseException".toList then some name
    else (exceptionFamilies.find? fun f => name ∈ f.children).map fun _ => name

def parentOf? (name : Text) : Option Text :=
  if name = patternErrorName then some "Exception"
  else (exceptionFamilies.find? fun f => name ∈ f.children).map (·.parent)

def exceptionHeight : Nat := 8

def upwards : Nat → Text → List Text
  | 0, _ => []
  | height + 1, name => name :: ((parentOf? name).map (upwards height)).getD []

def lineage (name : Text) : List Text := upwards exceptionHeight name

end EmbeddedTests.Snippet
