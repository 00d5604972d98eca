import EmbeddedTests.Evaluation
import EmbeddedTests.Leak
/-!
What runs the code of blocks. An evaluator is any way of running, evaluating and defining code in
a world; the world has the base namespace, and a state of whatever kind the evaluator keeps. Objects
answer through code of their own: asking one may raise, and may change the world.

The names of helper functions are bound while a file runs, except those that the namespace has
bound already, and unbound afterwards.
-/
namespace EmbeddedTests

structure World (σ : Type) where
  /-- The base namespace. -/
  base : Bindings := []
  /-- The helper names that were bound here, and are to be unbound again. -/
  helpers : List Text := []
  /-- What was printed. -/
  console : Text := []
  state : σ

/-- What an object can be asked for. -/
inductive Question where
  /-- What it says. -/
  | text
  /-- What stands for it where it is put into a text. -/
  | formatted
  | written
  | truth

@[reducible] def Question.Answer : Question → Type
  | text | formatted | written => Text
  | truth => Bool

def goOn {σ α β : Type} (asked : Attempt α × World σ) (next : α → World σ → Attempt β × World σ) :
    Attempt β × World σ :=
  match asked with
  | (.error escape, w) => (.error escape, w)
  | (.ok a, w) => next a w

abbrev Asking (σ : Type) := (q : Question) → Value → World σ → Attempt q.Answer × World σ

structure Evaluator (σ : Type) where
  /-- Runs code with local variables; warnings are kept if `record` is set. -/
  execute : (code : Text) → (bindings : Bindings) → (record : Bool) → World σ →
    Attempt Evaluation × World σ
  /-- The value of an expression, or what evaluating it raises. -/
  evaluate : (expr : Text) → (bindings : Bindings) → World σ →
    Attempt (Except Raised Value) × World σ
  /-- Runs the definition of a function that is to go by the name. -/
  define : (name source : Text) → World σ → Attempt Evaluation × World σ
  ask : Asking σ
  openFiles : World σ → Option (List Text) := fun _ => some []
  builtins : World σ → List Text := fun _ => []

def helperFunctions : List Builtin := [.fail]

namespace World

variable {σ : Type}

def names (w : World σ) : List Text := w.base.names

def unbind (w : World σ) (name : Text) : World σ :=
  { w with base := w.base.erase name }

def bind (w : World σ) (name : Text) (v : Value) : World σ :=
  { w with base := w.base.put name v }

def print (w : World σ) (t : Text) : World σ := { w with console := w.console ++ t }

def printedAfter (w : World σ) (t : Text) : World σ := { w with console := t ++ w.console }

def installHelper (w : World σ) (b : Builtin) : World σ :=
  if w.base.has b.name then w
  else { w.bind b.name (.builtin b) with helpers := w.helpers ++ [b.name] }

def installHelpers (w : World σ) : World σ := helperFunctions.foldl installHelper w

def removeHelpers (w : World σ) : World σ :=
  { w.helpers.foldl unbind w with helpers := [] }

end World

namespace Evaluator

variable {σ : Type}

def surroundings (e : Evaluator σ) (w : World σ) : Surroundings :=
  ⟨e.openFiles w, w.names, e.builtins w⟩

def message (e : Evaluator σ) (r : Raised) (w : World σ) : Attempt Text × World σ :=
  let (said, w) := e.ask .text r.value w
  (said.map r.wording, w)

/-- Class and message of the error; empty when there was none. -/
def errorText (e : Evaluator σ) (result : Evaluation) (w : World σ) : Attempt Text × World σ :=
  match result.error with
  | none => (.ok [], w)
  | some raised =>
    let (said, w) := e.message raised w
    (said.map raised.line, w)

/-- What the last warning says; empty when there was none. -/
def warningMessage (e : Evaluator σ) (result : Evaluation) (w : World σ) :
    Attempt Text × World σ :=
  match result.warnings.getLast? with
  | none => (.ok [], w)
  | some warning => e.ask .text warning.value w

end Evaluator
end EmbeddedTests
