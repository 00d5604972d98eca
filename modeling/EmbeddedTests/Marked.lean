import EmbeddedTests.Text
/-!
Marked lines. The tests of a source file stand on the lines that start with a marker; the buffer
is what follows the marker on those lines, in order. An interpreter line at the top of the file is
no test, even if it starts with the marker.
-/
namespace EmbeddedTests

open Text

def isInterpreterLine (line : Text) : Bool := startsWith "#!/" line

/-- What a line contributes; lines keep their line feed. -/
def markedPart (marker line : Text) : Text := (after? marker line).getD []

def extractTests (marker : Text) : List Text → Text
  | [] => []
  | first :: later =>
    (if isInterpreterLine first then [] else markedPart marker first)
      ++ (later.map (markedPart marker)).flatten

end EmbeddedTests
