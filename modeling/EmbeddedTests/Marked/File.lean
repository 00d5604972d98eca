import EmbeddedTests.Disk
import EmbeddedTests.Marked
/-!
The test buffer of a file.
-/
namespace EmbeddedTests

open Text

/-- A file that cannot be opened, or that is no text. -/
structure FileError where
  path : Text
  reason : Text
  deriving DecidableEq, Repr

def FileError.message (e : FileError) : Text :=
  "could not open " ++ e.path ++ " for reading: " ++ e.reason

def Disk.readTests (d : Disk) (path marker : Text) : Except FileError Text :=
  match d.readText path decodeInPieces with
  | .error fault => .error ⟨path, fault.reason⟩
  | .ok t => .ok (extractTests marker (feedLines t))

end EmbeddedTests
