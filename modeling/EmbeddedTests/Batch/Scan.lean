import EmbeddedTests.Disk
import EmbeddedTests.Journal
/-!
Which files of a batch have tests. A scan looks for a line that starts with the marker and one of
the words that tests start with; it need not be the whole word.
-/
namespace EmbeddedTests.Batch

open Text

def testWords : List Text := ["assert", "error", "fail", "test", "xtest", "warning"]

def startsTest (marker t : Text) : Bool := testWords.any fun word => startsWith (marker ++ word) t

def hasTests (marker t : Text) : Bool := (fromLineStarts t).any (startsTest marker)

/-- Does a file have tests? A file that cannot be read has none. -/
def scan (disk : Disk) (marker file : Text) : Bool × Journal :=
  let path := Path.tidy file
  match disk.readText path decodeUtf8 with
  | .ok t => (hasTests marker t, [])
  | .error fault =>
    (false, [⟨.warning, .multi, "cannot read " ++ file ++ ": " ++ fault.report path⟩])

/-- Files of a kind that tests are looked for in; the rest are not even counted. -/
def looksTestable (file : Text) : Bool := endsWith ".py" (lower file)

end EmbeddedTests.Batch
