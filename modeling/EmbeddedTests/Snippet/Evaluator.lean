import EmbeddedTests.Disk.Path
import EmbeddedTests.Snippet.BlockSource
import EmbeddedTests.Snippet.Interpreter
/-!
The evaluator for snippets. The code of a block is the body of a function with the shared variables
as parameters; a condition sees them as variables over the base namespace; a definition runs right
in the base namespace.
-/
namespace EmbeddedTests.Snippet

open Text

def Thrown.raised (t : Thrown) : Raised := ⟨t.type.name, t.type.lineage, t.value⟩

def CodeError.raised (e : CodeError) (file : Text) : Raised :=
  .builtin e.kind (e.report (Path.baseName file))

/-- An interruption leaves the evaluator; every other exception is a result. -/
def settle {α β : Type} (onError : Raised → β) (onSuccess : α → β) :
    Except Stop α → Attempt β
  | .ok a => .ok (onSuccess a)
  | .error (.beyond what) => .error (.beyond what)
  | .error (.thrown t) =>
    if t.isInterruption then .error (.interrupted t.raised) else .ok (onError t.raised)

def readBlock (code : Text) (names : List Text) : Except CodeError (List Stmt) :=
  (compileStatements (blockSource code names)).map fun
    | [.define _ _ _ body] => body
    | ss => ss

/-- The frame that a block's code starts in; it has the table of the number. -/
def blockFrame (body : List Stmt) (bindings : Bindings) (id : Nat) : Frame :=
  let parameters : Bindings := bindings.map fun (name, v) => (composed name, v)
  frameOf blockFunction (stateName :: parameters.names) (.stmts body) []
    ((stateName, .table id) :: parameters)

/-- What running a block comes to. -/
structure BlockEnd where
  result : Except Stop Unit
  /-- The shared variables as they were written back. -/
  table : Bindings
  warnings : List Warning

def runBlock (body : List Stmt) (bindings : Bindings) (record : Bool) (w : World Machine) :
    BlockEnd × World Machine :=
  let id := w.state.fresh
  let w := withMachine w fun m => (m.push (blockFrame body bindings id)).keepTable id bindings
  let ((result, warnings), w) := observe record (execAll topCall (some id) body) w
  (⟨result.map fun _ => (), (w.state.table? id).getD [], warnings⟩, w)

def execute (file code : Text) (bindings : Bindings) (record : Bool) (w : World Machine) :
    Attempt Evaluation × World Machine :=
  match readBlock code bindings.names with
  | .error e => (.ok { error := some (e.raised file), syntaxError := true }, w)
  | .ok body =>
    let (ended, w) := runBlock body bindings record w
    let evaluation : Evaluation := { bindings := ended.table, warnings := ended.warnings }
    (settle (fun e => { evaluation with error := some e }) (fun _ => evaluation) ended.result, w)

def evaluate (file expr : Text) (bindings : Bindings) (w : World Machine) :
    Attempt (Except Raised Value) × World Machine :=
  match readExpr (trim expr) with
  | .error e => (.ok (.error (e.raised file)), w)
  | .ok e =>
    let (result, w) := (do
      let id ← newFrame ⟨bindings, [], none⟩
      eval topCall (some id) e : Run Value).run w
    (settle .error .ok result, w)

/-- What is said of a definition that did not bind the name it is for. -/
def notBound (name : Text) : Raised :=
  .builtin "NameError" ("function " ++ quoted name ++ " was not defined")

/-- A text that code right in the base namespace begins with documents it. -/
def documented (names : Bindings) : List Stmt → Bindings
  | .expr (.str t) :: _ => names.put "__doc__" (.str t)
  | _ => names

def define (file name source : Text) (w : World Machine) : Attempt Evaluation × World Machine :=
  match compileStatements source with
  | .error e => (.ok { error := some (e.raised file), syntaxError := true }, w)
  | .ok ss =>
    let (result, w) := (execAll topCall none ss).run { w with base := documented w.base ss }
    let bound : Evaluation := if w.base.has name then {} else { error := some (notBound name) }
    (settle (fun e => { error := some e }) (fun _ => bound) result, w)

def answer (v : Value) : (q : Question) → Run q.Answer
  | .text | .formatted => saidOf topCall v
  | .written => render topCall v.written
  | .truth => holds topCall v

def ask : Asking Machine := fun q v w =>
  let (result, w) := (answer v q).run w
  (match result with
    | .ok answered => .ok answered
    | .error (.thrown t) => .error (.raised t.raised)
    | .error (.beyond what) => .error (.beyond what), w)

def evaluator (file : Text) : Evaluator Machine where
  execute := execute file
  evaluate := evaluate file
  define := define file
  ask := ask

end EmbeddedTests.Snippet
