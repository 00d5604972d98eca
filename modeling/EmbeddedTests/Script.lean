import EmbeddedTests.Evaluator
/-!
An evaluator that follows a script: for each code, the script says what running it does. Code that
the script does not know does nothing. Every call is written down.
-/
namespace EmbeddedTests

open Text

/-- What running a code does, in the order of the fields. -/
structure Action where
  interrupt : Bool := false
  /-- Names to bind in the base namespace. -/
  globals : Bindings := []
  syntaxError : Bool := false
  /-- Variables, each with the variable whose old value it gets. -/
  copies : List (Text × Text) := []
  sets : Bindings := []
  warnings : List Warning := []
  error : Option Raised := none
  /-- What the code evaluates to as a condition. -/
  value : Value := .bool true

abbrev Script := Text → Action

inductive ScriptCall where
  | execute (code : Text) (bindings : Bindings) (record : Bool)
  | evaluate (expr : Text) (bindings : Bindings)
  | define (name source : Text)

namespace Script

abbrev Calls := List ScriptCall

def note (w : World Calls) (call : ScriptCall) : World Calls :=
  { w with state := w.state ++ [call] }

def interruption : Escape := .interrupted (.builtin "KeyboardInterrupt" [])

def bindGlobals (w : World Calls) (a : Action) : World Calls :=
  { w with base := w.base.merge a.globals }

def bindingsAfter (a : Action) (given : Bindings) : Bindings :=
  let copied := a.copies.foldl
    (fun b (target, source) => b.put target ((given.get? source).getD .none)) given
  copied.merge a.sets

def execute (script : Script) (code : Text) (bindings : Bindings) (record : Bool)
    (w : World Calls) : Attempt Evaluation × World Calls :=
  let w := note w (.execute code bindings record)
  let a := script code
  if a.interrupt then (.error interruption, w)
  else
    let w := bindGlobals w a
    if a.syntaxError then (.ok { error := a.error, syntaxError := true }, w)
    else
      (.ok
        { error := a.error, bindings := bindingsAfter a bindings,
          warnings := if record then a.warnings else [] }, w)

def evaluate (script : Script) (expr : Text) (bindings : Bindings) (w : World Calls) :
    Attempt (Except Raised Value) × World Calls :=
  let w := note w (.evaluate expr bindings)
  let a := script expr
  if a.interrupt then (.error interruption, w)
  else
    let w := bindGlobals w a
    match a.error with
    | some e => (.ok (.error e), w)
    | none => (.ok (.ok a.value), w)

def define (script : Script) (name source : Text) (w : World Calls) :
    Attempt Evaluation × World Calls :=
  let w := note w (.define name source)
  let a := script source
  if a.interrupt then (.error interruption, w)
  else
    let w := bindGlobals w a
    if a.error.isSome then (.ok { error := a.error, syntaxError := a.syntaxError }, w)
    else (.ok {}, w.bind name .none)

/-- Puts a text together that no code of objects has a part in. -/
def render : List Piece → Attempt Text
  | [] => .ok []
  | .text t :: rest => (render rest).map (t ++ ·)
  | .integer i :: rest =>
    if Value.isTooLong i then .error (.raised (.builtin "ValueError" Value.tooLongMessage))
    else (render rest).map (ofInt i ++ ·)
  | .own method _ :: _ => .error (.beyond method)
  | .beyond what :: _ => .error (.beyond what)

/-- The values of scripts have no code of their own. -/
def answer (v : Value) : (q : Question) → Attempt q.Answer
  | .text | .formatted => render v.said
  | .written => render v.written
  | .truth =>
    match v.truth with
    | .known b => .ok b
    | .own _ => .error (.beyond holdsMethod)
    | .beyond what => .error (.beyond what)

def evaluator (script : Script) : Evaluator Calls where
  execute := execute script
  evaluate := evaluate script
  define := define script
  ask q v w := (answer v q, w)

end Script
end EmbeddedTests
