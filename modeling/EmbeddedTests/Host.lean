import EmbeddedTests.Disk
import EmbeddedTests.Engine
/-!
How files of code are found by the names of their modules, and how their code is run.
-/
namespace EmbeddedTests

structure Host (σ : Type) where
  /-- Is there a module of the name? -/
  hasModule : Disk → (name : Text) → Bool
  /-- The file of a module. What the module lies in is run on the way to it. -/
  moduleFile : Disk → (name : Text) → World σ → Attempt (Option Text) × World σ
  /-- The evaluator for the tests of a file; the names that they start with are bound. -/
  prepare : Disk → Config → (file : Text) → World σ → Attempt (Except Raised (Evaluator σ)) × World σ
  /-- Asks what preparing a file has raised. -/
  ask : Asking σ

namespace Host

variable {σ : Type}

def locate (host : Host σ) (disk : Disk) (name : Text) (s : Session σ) :
    Attempt (Option Text) × Session σ :=
  let path := Path.tidy name
  if disk.isFile path then (.ok (some path), s)
  else if name.isEmpty || '/' ∈ name || Text.endsWith ".py" name then
    (.ok none, s.log .debug .locate ("no such file: " ++ name))
  else
    match host.moduleFile disk name s.world with
    | (.error escape, w) => (.error escape, { s with world := w })
    | (.ok found, w) =>
      let s := { s with world := w }
      match found.filter disk.isFile with
      | some file => (.ok (some file), s)
      | none => (.ok none, s.log .debug .locate ("module " ++ name ++ " has no source file"))

end Host
end EmbeddedTests
