import EmbeddedTests.Evaluator
import EmbeddedTests.Snippet.Exceptions
import EmbeddedTests.Snippet.Names
import EmbeddedTests.Snippet.Operation
/-!
The state that running snippets change: the base namespace and the console of the world, frames
with local variables, tables that are known by their numbers, and recorders of warnings. Frames
outlive their calls, since a function can use the variables of the functions around it later on.
-/
namespace EmbeddedTests.Snippet

/-- What a function's frame knows of its function. -/
structure FunctionScope where
  name : Text
  /-- The function's variables. -/
  bound : List Text
  /-- The names that it uses. -/
  mentions : List Text
  /-- The frames of the functions around it, the innermost first. -/
  outer : List Nat

/-- Local variables. Without a function, they lie over the base namespace. -/
structure Frame where
  vars : Bindings
  /-- Names that are looked up in the base namespace only. -/
  declared : List Text
  function : Option FunctionScope

structure Machine where
  /-- The frames by number, the newest first. -/
  frames : List (Nat × Frame) := []
  /-- The warnings of each recorder, the innermost recorder first. -/
  recorders : List (List Warning) := []
  /-- Tables of shared variables, the latest state of each first. -/
  tables : List (Nat × Bindings) := []
  /-- What frames have shown as their local variables, the latest first. -/
  shown : List (Nat × Bindings) := []
  characters : CharacterNames := latinNames

/-- What runs in a world and can stop; the state stays as it was left then. -/
abbrev Run := ExceptT Stop (StateM (World Machine))

abbrev Place := Option Nat

namespace Run

def compute {α : Type} (c : Computed α) : Run α := ExceptT.mk (pure c)

def raise {α : Type} (type message : Text) : Run α := compute (raising type message)

def beyond {α : Type} (what : Text) : Run α := throw (.beyond what)

def attempt {α : Type} (r : Run α) : Run (Except Stop α) := ExceptT.lift r.run

def print (t : Text) : Run Unit := modify (·.print t)

end Run

namespace Machine

def frame? (m : Machine) (id : Nat) : Option Frame := (m.frames.find? (·.1 == id)).map (·.2)

/-- A number that no frame has. -/
def fresh (m : Machine) : Nat :=
  match m.frames with
  | [] => 0
  | (id, _) :: _ => id + 1

def push (m : Machine) (f : Frame) : Machine := { m with frames := (m.fresh, f) :: m.frames }

def adjust (id : Nat) (change : Frame → Frame) : List (Nat × Frame) → List (Nat × Frame)
  | [] => []
  | (i, f) :: rest => if i = id then (i, change f) :: rest else (i, f) :: adjust id change rest

def changeVars (m : Machine) (id : Nat) (change : Bindings → Bindings) : Machine :=
  { m with frames := adjust id (fun f => { f with vars := change f.vars }) m.frames }

def startRecording (m : Machine) : Machine := { m with recorders := [] :: m.recorders }

def record (m : Machine) (w : Warning) : Machine :=
  match m.recorders with
  | [] => m
  | ws :: outer => { m with recorders := (ws ++ [w]) :: outer }

def recorded (m : Machine) : List Warning := m.recorders.headD []

def stopRecording (m : Machine) : Machine := { m with recorders := m.recorders.tail }

def table? (m : Machine) (id : Nat) : Option Bindings := m.tables.lookup id

def keepTable (m : Machine) (id : Nat) (entries : Bindings) : Machine :=
  { m with tables := (id, entries) :: m.tables }

def shown? (m : Machine) (id : Nat) : Option Bindings := m.shown.lookup id

def keepShown (m : Machine) (id : Nat) (vars : Bindings) : Machine :=
  { m with shown := (id, vars) :: m.shown }

end Machine

def withMachine (w : World Machine) (change : Machine → Machine) : World Machine :=
  { w with state := change w.state }

def onMachine (change : Machine → Machine) : Run Unit := modify fun w => withMachine w change

def getFrame? (id : Nat) : Run (Option Frame) := do return (← get).state.frame? id

def newFrame (f : Frame) : Run Nat := do
  let id := (← get).state.fresh
  onMachine (·.push f)
  return id

def observe {α : Type} (record : Bool) (r : Run α) (w : World Machine) :
    (Except Stop α × List Warning) × World Machine :=
  if record then
    let (result, w) := r.run (withMachine w (·.startRecording))
    ((result, w.state.recorded), withMachine w (·.stopRecording))
  else
    let (result, w) := r.run w
    ((result, []), w)

def recording {α : Type} (r : Run α) : Run (Except Stop α × List Warning) :=
  ExceptT.lift (observe true r)

def builtinNamed? (name : Text) : Option Value :=
  let functions : List Builtin :=
    [.print, .range, .max, .min, .len, .str, .repr, .bool, .abs, .locals]
  match functions.find? (·.name == name) with
  | some b => some (.builtin b)
  | none => (exceptionNamed? name).map fun n => .type (.builtin n)

/-- What else there is without any definition, but not in the language. -/
def otherBuiltins : List Text :=
  (["__build_class__", "__builtins__", "__debug__", "__doc__", "__import__", "__loader__",
    "__name__", "__package__", "__spec__", "__warningregistry__", "BaseExceptionGroup", "Ellipsis",
    "ExceptionGroup", "NotImplemented", "aiter", "all", "anext", "any", "ascii", "bin",
    "breakpoint", "bytearray", "bytes", "callable", "chr", "classmethod", "compile", "complex",
    "copyright", "credits", "delattr", "dict", "dir", "divmod", "enumerate", "eval", "exec",
    "exit", "filter", "float", "format", "frozenset", "getattr", "globals", "hasattr", "hash",
    "help", "hex", "id", "input", "int", "isinstance", "issubclass", "iter", "license", "list",
    "map", "memoryview", "next", "object", "oct", "open", "ord", "pow", "property", "quit",
    "reversed", "round", "set", "setattr", "slice", "sorted", "staticmethod", "sum", "super",
    "tuple", "type", "vars", "zip"] : List String).map String.toList

/-- Names whose values in a module are not described here. -/
def hiddenNames : List Text :=
  (["__builtins__", "__cached__", "__loader__", "__spec__"] : List String).map String.toList

def notDefined {α : Type} (name : Text) : Run α :=
  Run.raise "NameError" ("name '" ++ name ++ "' is not defined")

def unbound {α : Type} (name : Text) : Run α :=
  Run.raise "UnboundLocalError"
    ("cannot access local variable '" ++ name ++ "' where it is not associated with a value")

def unboundOutside {α : Type} (name : Text) : Run α :=
  Run.raise "NameError" ("cannot access free variable '" ++ name
    ++ "' where it is not associated with a value in enclosing scope")

def readBase (name : Text) : Run Value := do
  match (← get).base.get? name with
  | some v => if name ∈ hiddenNames then Run.beyond name else return v
  | none =>
    match builtinNamed? name with
    | some v => return v
    | none => if name ∈ otherBuiltins then Run.beyond name else notDefined name

/-- The value of a name in the functions around; the base namespace is around them all. -/
def readOuter (name : Text) : List Nat → Run Value
  | [] => readBase name
  | id :: rest => do
    match ← getFrame? id with
    | none => readOuter name rest
    | some f =>
      if name ∈ f.declared then readBase name
      else
        match f.function with
        | none => readOuter name rest
        | some scope =>
          if name ∈ scope.bound then
            match f.vars.get? name with
            | some v => return v
            | none => unboundOutside name
          else readOuter name rest

def readName (place : Place) (name : Text) : Run Value := do
  match place with
  | none => readBase name
  | some id =>
    match ← getFrame? id with
    | none => readBase name
    | some f =>
      if name ∈ f.declared then readBase name
      else
        match f.vars.get? name, f.function with
        | some v, _ => return v
        | none, none => readBase name
        | none, some scope =>
          if name ∈ scope.bound then unbound name else readOuter name scope.outer

def functionAt (place : Place) : Run (Option (Nat × FunctionScope)) := do
  match place with
  | none => return none
  | some id => return (← getFrame? id).bind fun f => f.function.map fun scope => (id, scope)

def isLocal (place : Place) (name : Text) : Run (Option (Nat × Frame)) := do
  match place with
  | none => return none
  | some id =>
    match ← getFrame? id with
    | none => return none
    | some f => return if name ∈ f.declared then none else some (id, f)

def writeName (place : Place) (name : Text) (v : Value) : Run Unit := do
  match ← isLocal place name with
  | none => modify (·.bind name v)
  | some (id, _) => onMachine (·.changeVars id (·.put name v))

def deleteName (place : Place) (name : Text) : Run Unit := do
  match ← isLocal place name with
  | none =>
    if (← get).base.has name then modify (·.unbind name) else notDefined name
  | some (id, f) =>
    if f.vars.has name then onMachine (·.changeVars id (·.erase name))
    else if f.function.isSome then unbound name
    else notDefined name

def captured (scope : FunctionScope) (declared : List Text) (frames : List Frame) : Bindings :=
  let names := (Text.distinct scope.mentions).filter fun n => n ∉ scope.bound ++ declared
  names.filterMap fun n => (frames.findSome? fun f => f.vars.get? n).map fun v => (n, v)

def localsAt (place : Place) : Run Bindings := do
  match place with
  | none => return (← get).base
  | some id =>
    match ← getFrame? id with
    | none => return []
    | some f =>
      match f.function with
      | none => return f.vars
      | some scope =>
        let m := (← get).state
        return f.vars ++ captured scope f.declared (scope.outer.filterMap m.frame?)

/-- What the code at the place sees as its own; a function's frame keeps what it has shown. -/
def showLocals (place : Place) : Run Bindings := do
  let vars ← localsAt place
  match ← functionAt place with
  | some (id, _) => onMachine (·.keepShown id vars)
  | none => pure ()
  return vars

def readTable (id : Nat) : Run Bindings := do return ((← get).state.table? id).getD []

def readShown (id : Nat) : Run Bindings := do return ((← get).state.shown? id).getD []

end EmbeddedTests.Snippet
