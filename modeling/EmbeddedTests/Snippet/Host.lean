import EmbeddedTests.Host
import EmbeddedTests.Snippet.Module
/-!
Running the tests of files with the evaluator for snippets. The tests of a source file start with
what the file defines; if that is not wanted, and for other files, they start with two names only.
-/
namespace EmbeddedTests.Snippet

def plainNames (file : Text) : Bindings :=
  [("__name__", .str "__bist__"), ("__file__", .str file)]

def prepare (disk : Disk) (config : Config) (file : Text) (w : World Machine) :
    Attempt (Except Raised (Evaluator Machine)) × World Machine :=
  if config.importModule && isSource file then
    let (result, w) := runForTests disk file w
    (result.map (·.map fun _ => evaluator file), w)
  else (.ok (.ok (evaluator file)), { w with base := plainNames file })

def host : Host Machine := ⟨hasModule, moduleFile, prepare, ask⟩

def hostWith {σ : Type} (e : Evaluator σ) : Host σ :=
  ⟨hasModule, moduleFile, fun _ _ _ w => (.ok (.ok e), w), e.ask⟩

end EmbeddedTests.Snippet
