import EmbeddedTests.Evaluator
import EmbeddedTests.Text.Identifier
/-!
Shared variables: an ordered set of names with values, which lasts from block to block.

A declaration replaces the whole set, and every name starts out empty. If its initializer fails,
the names stay declared and empty.
-/
namespace EmbeddedTests

open Text

abbrev Shared := Bindings

/-- Names of a declaration that are no identifiers. -/
structure SharedError where
  names : List Text
  deriving DecidableEq, Repr

def SharedError.message (e : SharedError) : Text :=
  "invalid shared variable name(s): " ++ joinWith ", " e.names

namespace Shared

def reset (names : List Text) : Except SharedError Shared :=
  let bad := names.filter (!isIdentifier ·)
  if bad.isEmpty then .ok ((distinct names).map fun name => (name, .none)) else .error ⟨bad⟩

/-- New values for declared names; other names are left out. -/
def update (s : Shared) (values : Bindings) : Shared :=
  s.map fun (name, old) => (name, (values.get? name).getD old)

def describe {σ : Type} (e : Evaluator σ) : Shared → World σ → Attempt (List Text) × World σ
  | [], w => (.ok [], w)
  | (name, v) :: rest, w =>
    goOn (e.ask .written v w) fun written w =>
      let (lines, w) := describe e rest w
      (lines.map (("  " ++ name ++ " = " ++ written) :: ·), w)

def runInitializer {σ : Type} (e : Evaluator σ) (initializer : Text) (s : Shared) (w : World σ) :
    Attempt (Option Evaluation) × Shared × World σ :=
  if allBlank initializer then (.ok none, s, w)
  else
    match e.execute initializer s false w with
    | (.error escape, w) => (.error escape, s, w)
    | (.ok result, w) => (.ok (some result), if result.raised then s else s.update result.bindings, w)

end Shared
end EmbeddedTests
