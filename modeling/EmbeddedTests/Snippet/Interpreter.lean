import EmbeddedTests.Snippet.Machine
/-!
Running snippets. Expressions and statements are run by recursion on their syntax; calling a
function leaves the syntax at hand, so calls are a parameter, which `callValue` supplies with a
bound on their depth.
-/
namespace EmbeddedTests.Snippet

open Text

/-- Whether a statement lets the next one run. -/
inductive Flow where
  | next
  | returned (v : Value)

abbrev Caller := Place → Value → List Value → Bindings → Run Value

/-- A function that is defined at the place; its name says what it is defined in. -/
def makeFunction (place : Place) (name : Text) (parameters : List Text) (defaults : Bindings)
    (body : Body) : Run Value := do
  match ← functionAt place with
  | none => return .function name parameters defaults body []
  | some (id, scope) =>
    return .function (scope.name ++ ".<locals>." ++ name) parameters defaults body
      (id :: scope.outer)

def attributeOf (v : Value) (name : Text) : Computed Value :=
  match v with
  | .module m =>
    if m = "warnings".toList ∧ name = "warn".toList then .ok (.builtin .warn)
    else beyond ("the attribute " ++ name ++ " of a module")
  | _ => beyond ("the attribute " ++ name)

section

variable (call : Caller)

def callOwn (method : Text) (object : Value) : Run Value :=
  match object with
  | .object c _ =>
    match c.method? method with
    | some f => call none f [object] []
    | none => Run.beyond method
  | _ => Run.beyond method

def render : List Piece → Run Text
  | [] => return []
  | .text t :: rest => do return t ++ (← render rest)
  | .integer i :: rest => do
    if Value.isTooLong i then Run.raise "ValueError" Value.tooLongMessage
    return ofInt i ++ (← render rest)
  | .own method object :: rest => do
    match ← callOwn call method object with
    | .str t => return t ++ (← render rest)
    | v => Run.raise "TypeError" (method ++ " returned non-string (type " ++ v.typeName ++ ")")
  | .beyond what :: _ => Run.beyond what

def holds (v : Value) : Run Bool := do
  match v.truth with
  | .known b => return b
  | .beyond what => Run.beyond what
  | .own object =>
    match ← callOwn call holdsMethod object with
    | .bool b => return b
    | v =>
      Run.raise "TypeError" (holdsMethod ++ " should return bool, returned " ++ v.typeName)

end

def isMemberOf (v : Value) : Value → Run Bool
  | .table id => do inTable (← readTable id)
  | .locals id => do inTable (← readShown id)
  | w => Run.compute (isMember v w)
where
  inTable (entries : Bindings) : Run Bool := Run.compute (isMember v (.dict entries))

def compareIn (op : CompareOp) (a b : Value) : Run Bool :=
  match op with
  | .member => isMemberOf a b
  | .notMember => do return !(← isMemberOf a b)
  | op => Run.compute (compareValues op a b)

def itemIn (v key : Value) : Run Value :=
  match v with
  | .table id => do Run.compute (entryOf (← readTable id) key)
  | .locals id => do Run.compute (entryOf (← readShown id) key)
  | v => Run.compute (itemOf v key)

def storeItem (v key item : Value) : Run Unit :=
  match v, key with
  | .table id, .str k => do
    let entries ← readTable id
    onMachine (·.keepTable id (entries.put k item))
  | v, _ => Run.compute (itemsFixed v)

/-- What a loop goes through, and the table that it is from with the number of its entries. -/
structure Iteration where
  items : List Value
  table : Option (Nat × Nat) := none

def Iteration.check (turns : Iteration) : Run Unit := do
  match turns.table with
  | none => return ()
  | some (id, size) =>
    if (← readTable id).length = size then return ()
    else Run.raise "RuntimeError" "dictionary changed size during iteration"

def iterationOf : Value → Run Iteration
  | .table id => do
    let entries ← readTable id
    return ⟨entries.names.map .str, some (id, entries.length)⟩
  | v => do return ⟨← Run.compute (iterate v), none⟩

section

variable (call : Caller) (place : Place)

mutual

def eval : Expr → Run Value
  | .none => return .none
  | .bool b => return .bool b
  | .int n => return .int n
  | .str t => return .str t
  | .name n => if n = debugName then return .bool true else readName place n
  | .list es => do return .list (← evalAll es)
  | .tuple es => do return .tuple (← evalAll es)
  | .negate e => do Run.compute (negated (← eval e))
  | .not e => do
    let v ← eval e
    return .bool !(← holds call v)
  | .binary op a b => do
    let x ← eval a
    let y ← eval b
    Run.compute (applyBinary op x y)
  | .both a b => do
    let x ← eval a
    if ← holds call x then eval b else return x
  | .either a b => do
    let x ← eval a
    if ← holds call x then return x else eval b
  | .compare first rest => do
    let x ← eval first
    evalComparison x rest
  | .lambda body => makeFunction place "<lambda>" [] [] (.expr body)
  | .call f arguments => do
    let v ← eval f
    let (positional, named) ← evalArguments arguments
    call place v positional named
  | .attribute e name => do Run.compute (attributeOf (← eval e) name)
  | .item e key => do
    let v ← eval e
    let k ← eval key
    itemIn v k

def evalAll : List Expr → Run (List Value)
  | [] => return []
  | e :: es => do
    let v ← eval e
    return v :: (← evalAll es)

def evalComparison (x : Value) : Comparison → Run Value
  | .last op e => do
    let y ← eval e
    return .bool (← compareIn op x y)
  | .more op e rest => do
    let y ← eval e
    if ← compareIn op x y then evalComparison y rest else return .bool false

def evalArguments : List Argument → Run (List Value × Bindings)
  | [] => return ([], [])
  | .positional e :: rest => do
    let v ← eval e
    let (positional, named) ← evalArguments rest
    return (v :: positional, named)
  | .named n e :: rest => do
    let v ← eval e
    let (positional, named) ← evalArguments rest
    return (positional, (n, v) :: named)

end

def evalDefaults : List Parameter → Run Bindings
  | [] => return []
  | .required _ :: ps => evalDefaults ps
  | .optional n e :: ps => do
    let v ← eval call place e
    return (n, v) :: (← evalDefaults ps)

def deleteNames : List Text → Run Unit
  | [] => return ()
  | n :: ns => do
    deleteName place n
    deleteNames ns

def standardModules : List Text := ["json", "os", "re", "sys", "warnings"]

def importNames : List Text → Run Unit
  | [] => return ()
  | n :: ns => do
    if n ∈ standardModules then
      writeName place n (.module n)
      importNames ns
    else Run.beyond ("the module " ++ n)

def instantiate (c : ObjectClass) (arguments : List Value) : Computed Value :=
  if c.isException then
    if describes c.lineage arguments.length then .ok (.object c arguments)
    else beyond ("how an object of " ++ c.name.name ++ " is made")
  else if arguments.isEmpty then .ok (.object c [])
  else typeError (c.name.name ++ "() takes no arguments")
where
  /-- Classes whose objects are made from their arguments in a way of their own. -/
  describes (lineage : List Text) (given : Nat) : Bool :=
    !(["UnicodeDecodeError".toList, "UnicodeEncodeError", "UnicodeTranslateError"].any
      lineage.contains)
      && (given ≤ 1 || !(["OSError".toList, "SyntaxError"].any lineage.contains))

def raiseValue {α : Type} (v : Value) : Run α := do
  match v with
  | .type c =>
    if c.isException then
      match ← Run.compute (instantiate c []) with
      | .object c arguments => throw (.thrown ⟨c, arguments⟩)
      | _ => notRaisable
    else notRaisable
  | .object c arguments =>
    if c.isException then throw (.thrown ⟨c, arguments⟩) else notRaisable
  | _ => notRaisable
where
  notRaisable : Run α := Run.raise "TypeError" "exceptions must derive from BaseException"

def handledBy? : Value → Option (List ObjectClass)
  | .type c => if c.isException then some [c] else none
  | .tuple vs => vs.mapM fun
    | .type c => if c.isException then some c else none
    | _ => none
  | _ => none

def handles (t : Thrown) (v : Value) : Run Bool :=
  match handledBy? v with
  | some classes => return classes.any t.type.isUnder
  | none =>
    Run.raise "TypeError" "catching classes that do not inherit from BaseException is not allowed"

def loop (turns : Iteration) (body : Value → Run Flow) : List Value → Run Flow
  | [] => do
    turns.check
    return .next
  | v :: vs => do
    turns.check
    match ← body v with
    | .next => loop turns body vs
    | flow => return flow

def ownMethods : List Text := [saysMethod, writesMethod, holdsMethod]

def isMangled (name : Text) : Bool :=
  name = "__class__".toList || name = "super".toList
    || (startsWith "__" name && !endsWith "__" name)

def methodsOf (scope : List Nat) (qualified : Text) : List Stmt → Computed Bindings
  | [] => .ok []
  | .pass :: rest => methodsOf scope qualified rest
  | .define _ n ps body :: rest => do
    let names := ps.map Parameter.name ++ boundIn body ++ declaredIn body ++ mentionedIn body
    if n ∉ ownMethods || names.any isMangled || ps.any (·.isOptional) then
      beyond ("the method " ++ n)
    else
      let later ← methodsOf scope qualified rest
      -- Of methods with one name the last one counts.
      if later.has n then return later
      else
        return (n, .function (qualified ++ '.' :: n) (ps.map Parameter.name) [] (.stmts body) scope)
          :: later
  | _ :: _ => beyond "what a class is made of"

/-- The class that a class is made from; a class without one is no class of exceptions. -/
def classAbove : List Value → Computed (Option Text)
  | [] => .ok none
  | [.type (.builtin n)] => .ok (some n)
  | _ => beyond "the classes that a class is made from"

def makeClass (place : Place) (name : Text) (above : List Value) (body : List Stmt) : Run Value := do
  let around ← functionAt place
  let qualified := (around.map fun (_, scope) => scope.name ++ ".<locals>." ++ name).getD name
  let frames := (around.map fun (id, scope) => id :: scope.outer).getD []
  let above ← Run.compute (classAbove above)
  let methods ← Run.compute (methodsOf frames qualified body)
  let home ← match (← get).base.get? "__name__" with
    | some (.str home) => pure home
    | none => pure "builtins"
    | some _ => Run.beyond "where a class is from"
  let id ← newFrame ⟨[], [], none⟩
  return .type (.own id ⟨name, qualified, home⟩ above methods)

mutual

def exec : Stmt → Run Flow
  | .pass | .global .. => return .next
  | .expr e => do
    let _ ← eval call place e
    return .next
  | .assign n e => do
    writeName place n (← eval call place e)
    return .next
  | .assignItem n key e => do
    let v ← eval call place e
    let target ← readName place n
    let k ← eval call place key
    storeItem target k v
    return .next
  | .return _ none => return .returned .none
  | .return _ (some e) => do return .returned (← eval call place e)
  | .delete ns => do
    deleteNames place ns
    return .next
  | .assert e message => do
    let v ← eval call place e
    if ← holds call v then return .next
    match message with
    | none => throw (.thrown ⟨.builtin "AssertionError", []⟩)
    | some m =>
      let v ← eval call place m
      throw (.thrown ⟨.builtin "AssertionError", [v]⟩)
  | .raise e => do raiseValue (← eval call place e)
  | .ifElse e body orElse => do
    let v ← eval call place e
    if ← holds call v then execAll body else execAll orElse
  | .forIn n e body => do
    let turns ← iterationOf (← eval call place e)
    loop turns (fun v => do
      writeName place n v
      execAll body) turns.items
  | .tryElse body handlers orElse atEnd => do
    let result ← Run.attempt (do
      match ← (execAll body).attempt with
      | .ok .next => execAll orElse
      | .ok flow => return flow
      | .error (.thrown t) => execHandlers t handlers
      | .error (.beyond what) => Run.beyond what)
    match result with
    | .error (.beyond what) => Run.beyond what
    | result =>
      match ← execAll atEnd with
      | .next => Run.compute result
      | flow => return flow
  | .define _ n ps body => do
    let defaults ← evalDefaults call place ps
    writeName place n (← makeFunction place n (ps.map Parameter.name) defaults (.stmts body))
    return .next
  | .classDef n above body => do
    let (above, named) ← evalArguments call place above
    if named.isEmpty then
      writeName place n (← makeClass place n above body)
      return .next
    else Run.beyond "how a class is made"
  | .import ns => do
    importNames place ns
    return .next

def execAll : List Stmt → Run Flow
  | [] => return .next
  | s :: ss => do
    match ← exec s with
    | .next => execAll ss
    | flow => return flow

/-- The first handler that takes the exception runs; without one it goes on. -/
def execHandlers (t : Thrown) : List Handler → Run Flow
  | [] => throw (.thrown t)
  | .mk _ none body :: _ => execAll body
  | .mk _ (some e) body :: rest => do
    if ← handles t (← eval call place e) then execAll body else execHandlers t rest

end

end

def enumerated : List Text → Text
  | [] => []
  | [a] => quoted a
  | [a, b] => quoted a ++ " and " ++ quoted b
  | names =>
    joinWith ", " (names.dropLast.map quoted) ++ ", and " ++ quoted (names.getLastD [])

def tooManyArguments (name : Text) (parameters defaults given : Nat) : Text :=
  let range : Text :=
    if defaults = 0 then ofNat parameters
    else "from " ++ ofNat (parameters - defaults) ++ " to " ++ ofNat parameters
  let noun : Text :=
    if defaults = 0 ∧ parameters = 1 then " positional argument but " else " positional arguments but "
  name ++ "() takes " ++ range ++ noun ++ ofNat given
    ++ (if given = 1 then " was given".toList else " were given")

def missingArguments (name : Text) (missing : List Text) : Text :=
  let noun : Text :=
    if missing.length = 1 then " required positional argument: "
    else " required positional arguments: "
  name ++ "() missing " ++ ofNat missing.length ++ noun ++ enumerated missing

def bindNamed (name : Text) (parameters : List Text) (bound : Bindings) :
    Bindings → Computed Bindings
  | [] => .ok bound
  | (n, v) :: rest =>
    if n ∉ parameters then
      typeError (name ++ "() got an unexpected keyword argument '" ++ n ++ "'")
    else if bound.has n then
      typeError (name ++ "() got multiple values for argument '" ++ n ++ "'")
    else bindNamed name parameters (bound ++ [(n, v)]) rest

def bindArguments (name : Text) (parameters : List Text) (defaults : Bindings)
    (positional : List Value) (named : Bindings) : Computed Bindings := do
  let bound ← bindNamed name parameters (parameters.zip positional) named
  if parameters.length < positional.length then
    typeError (tooManyArguments name parameters.length defaults.length positional.length)
  let bound := bound ++ defaults.filter fun d => !bound.has d.1
  let missing := parameters.filter fun n => !bound.has n
  if missing.isEmpty then return bound else typeError (missingArguments name missing)

/-- Code that has been compiled: an expression if it is one, else statements. -/
inductive Code where
  | expr (e : Expr)
  | stmts (ss : List Stmt)

def compileCode (t : Text) : Except CodeError Code :=
  match readExpr t with
  | .ok e => .ok (.expr e)
  | .error _ => (compileStatements t).map .stmts

def raiseCodeError {α : Type} (e : CodeError) (file : Text) : Run α :=
  Run.raise e.kind (e.report file)

def runBody (call : Caller) (frame : Frame) : Body → Run Value
  | .expr e => do eval call (some (← newFrame frame)) e
  | .stmts ss => do
    match ← execAll call (some (← newFrame frame)) ss with
    | .next => return .none
    | .returned v => return v

def frameOf (name : Text) (parameters : List Text) (body : Body) (scope : List Nat)
    (vars : Bindings) : Frame where
  vars := vars
  declared := body.declared
  function := some
    { name := name, bound := body.bound parameters, mentions := body.mentions, outer := scope }

/-- A text that fails is run over the variables of the place that it is given at; anything else
that can be called is called. -/
def runFailing (call : Caller) (place : Place) (code : Value) : Run Unit := do
  if code.isCallable then
    let _ ← call place code [] []
  else
    let vars ← showLocals place
    match code with
    | .str t =>
      match compileCode t with
      | .error e => raiseCodeError e "<fail>"
      | .ok (.expr e) =>
        let id ← newFrame ⟨vars, [], none⟩
        let _ ← eval call (some id) e
      | .ok (.stmts ss) =>
        let id ← newFrame ⟨vars, declaredIn ss, none⟩
        let _ ← execAll call (some id) ss
    | _ => Run.raise "TypeError" "compile() arg 1 must be a string, bytes or AST object"

def matchesPattern (pattern : Value) (message : Text) : Run Bool := do
  match pattern with
  | .none => return true
  | .str p =>
    match messageMatches (← get).state.characters p message with
    | .ok b => return b
    | .error e => Run.raise e.className e.message
  | _ => Run.beyond "a pattern that is no text"

def patternLabel : Value → Computed Text
  | .none => .ok []
  | .str p => .ok (if p = anything then [] else " <" ++ p ++ ">")
  | _ => beyond "a pattern that is no text"

def unmet {α : Type} (message : Text) : Run α := Run.raise "AssertionError" message

def interruption : Text := "KeyboardInterrupt"

def Thrown.isInterruption (t : Thrown) : Bool := t.type.lineage.contains interruption

def saidOf (call : Caller) (v : Value) : Run Text := render call v.said

def expectError (call : Caller) (failing : Run Unit) (pattern : Value) (label : Text) :
    Run Value := do
  match ← failing.attempt with
  | .ok _ => unmet ("expected error" ++ label ++ " but got none")
  | .error (.beyond what) => Run.beyond what
  | .error (.thrown t) =>
    if t.isInterruption then throw (.thrown t)
    if ← matchesPattern pattern (← saidOf call t.value) then return .none
    unmet ("expected error" ++ label ++ "\nbut got <" ++ (← saidOf call t.value) ++ ">")

/-- Expects a warning and no error; the last warning counts. -/
def expectWarning (call : Caller) (failing : Run Unit) (pattern : Value) (label : Text) :
    Run Value := do
  let watched : Run Unit := do
    match ← failing.attempt with
    | .ok _ => return ()
    | .error (.beyond what) => Run.beyond what
    | .error (.thrown t) =>
      if t.isInterruption then throw (.thrown t)
      unmet ("expected warning" ++ label ++ "\nbut got error <" ++ (← saidOf call t.value) ++ ">")
  match ← recording watched with
  | (.error stop, _) => throw stop
  | (.ok _, warnings) =>
    match warnings.getLast? with
    | none => unmet ("expected warning" ++ label ++ " but got none")
    | some w =>
      let message ← saidOf call w.value
      if ← matchesPattern pattern message then return .none
      unmet ("expected warning" ++ label ++ "\nbut got <" ++ message ++ ">")

/-- Whether a warning is expected can be given by name only. -/
def callFail (call : Caller) (place : Place) (positional : List Value) (named : Bindings) :
    Run Value := do
  if 2 < positional.length && named.has "warning" then
    Run.beyond "how too many arguments are told"
  let given ← Run.compute
    (bindArguments "fail" ["code", "pattern"] [("pattern", .none)] positional
      (named.erase "warning"))
  let code := (given.get? "code").getD .none
  let pattern := (given.get? "pattern").getD .none
  let label ← Run.compute (patternLabel pattern)
  let failing := runFailing call place code
  if ← holds call ((named.get? "warning").getD (.bool false)) then
    expectWarning call failing pattern label
  else expectError call failing pattern label

def categoryOf (c : Value) : Computed ObjectClass :=
  match c with
  | .none => .ok (.builtin "UserWarning")
  | .type c =>
    if c.lineage.contains "Warning" then .ok c else notCategory (.type c)
  | c => notCategory c
where
  notCategory (c : Value) : Computed ObjectClass :=
    typeError ("category must be a Warning subclass, not " ++ quotedType c)

def warningOf (message category : Value) : Computed Thrown := do
  match message with
  | .str t => return ⟨← categoryOf category, [.str t]⟩
  | .object (.builtin n) [.str t] =>
    if (ObjectClass.builtin n).lineage.contains "Warning" then return ⟨.builtin n, [.str t]⟩
    else beyond "a warning that is no text"
  | _ => beyond "a warning that is no text"

def warnArguments (positional : List Value) (named : Bindings) : Computed Bindings :=
  if positional.isEmpty ∧ named.has "message" = false ∧ named.length ≤ 4 then
    typeError "warn() missing required argument 'message' (pos 1)"
  else
    match bindArguments "warn" ["message", "category", "stacklevel", "source"]
      [("category", .none), ("stacklevel", .int 1), ("source", .none)] positional named with
    | .ok given => .ok given
    | .error _ => beyond "what is wrong with the arguments of a warning"

def callWarn (positional : List Value) (named : Bindings) : Run Value := do
  let given ← Run.compute (warnArguments positional named)
  if 2 < positional.length || named.has "stacklevel" || named.has "source" then
    Run.beyond "where a warning is from"
  let w ← Run.compute
    (warningOf ((given.get? "message").getD .none) ((given.get? "category").getD .none))
  onMachine (·.record ⟨w.type.name, w.value⟩)
  return .none

/-- The value that comes out when each value is weighed against the best one so far. -/
def pick (op : CompareOp) (best : Value) : List Value → Computed Value
  | [] => .ok best
  | v :: vs => do
    if ← compareValues op v best then pick op v vs else pick op best vs

def callPick (name : Text) (op : CompareOp) (positional : List Value) : Computed Value := do
  let values ← match positional with
    | [] => typeError (name ++ " expected at least 1 argument, got 0")
    | [v] => iterate v
    | vs => .ok vs
  match values with
  | [] => raising "ValueError" (name ++ "() arg is an empty sequence")
  | v :: vs => pick op v vs

def rangeBound (v : Value) : Computed Int :=
  match integer? v with
  | some i => .ok i
  | none => typeError (quotedType v ++ " object cannot be interpreted as an integer")

def callRange (positional : List Value) : Computed Value := do
  match positional with
  | [stop] => return .range 0 (← rangeBound stop) 1
  | [start, stop] => return .range (← rangeBound start) (← rangeBound stop) 1
  | [start, stop, step] =>
    let start ← rangeBound start
    let stop ← rangeBound stop
    let step ← rangeBound step
    if step = 0 then raising "ValueError" "range() arg 3 must not be zero"
    return .range start stop step
  | [] => typeError "range expected at least 1 argument, got 0"
  | vs => typeError ("range expected at most 3 arguments, got " ++ ofNat vs.length)

def single (name : Text) (positional : List Value) : Computed Value :=
  match positional with
  | [v] => .ok v
  | vs => typeError (name ++ "() takes exactly one argument (" ++ ofNat vs.length ++ " given)")

def magnitude (v : Value) : Computed Value :=
  match integer? v with
  | some i => .ok (.int i.natAbs)
  | none =>
    if isQuotient v then beyond "what a quotient amounts to"
    else typeError ("bad operand type for abs(): " ++ quotedType v)

def atMostOne (b : Builtin) (positional : List Value) : Computed (Option Value) :=
  match positional with
  | [] => .ok none
  | [v] => .ok (some v)
  | vs =>
    if b = .bool then typeError ("bool expected at most 1 argument, got " ++ ofNat vs.length)
    else beyond "how bytes are read"

def printAll (call : Caller) : List Value → Run Unit
  | [] => Run.print "\n"
  | [v] => do
    Run.print (← saidOf call v)
    Run.print "\n"
  | v :: vs => do
    Run.print (← saidOf call v)
    Run.print [' ']
    printAll call vs

def callPlain (call : Caller) (place : Place) (b : Builtin) (positional : List Value) :
    Run Value := do
  match b with
  | .print =>
    printAll call positional
    return .none
  | .range => Run.compute (callRange positional)
  | .max => Run.compute (callPick b.name .greater positional)
  | .min => Run.compute (callPick b.name .less positional)
  | .len => do
    let v ← Run.compute (single b.name positional)
    return .int (← Run.compute (lengthOf v))
  | .repr => do
    let v ← Run.compute (single b.name positional)
    return .str (← render call v.written)
  | .abs => do
    let v ← Run.compute (single b.name positional)
    Run.compute (magnitude v)
  | .str => do
    match ← Run.compute (atMostOne b positional) with
    | none => return .str []
    | some v => return .str (← saidOf call v)
  | .bool => do
    match ← Run.compute (atMostOne b positional) with
    | none => return .bool false
    | some v => return .bool (← holds call v)
  | .locals =>
    if positional.isEmpty then
      match ← functionAt place with
      | some (id, _) =>
        let _ ← showLocals place
        return .locals id
      | none => Run.beyond "local variables outside of functions"
    else
      Run.raise "TypeError"
        ("locals() takes no arguments (" ++ ofNat positional.length ++ " given)")
  | .fail | .warn => return .none

def callBuiltin (call : Caller) (place : Place) (b : Builtin) (positional : List Value)
    (named : Bindings) : Run Value := do
  match b with
  | .fail => callFail call place positional named
  | .warn => callWarn positional named
  | b =>
    if named.isEmpty then callPlain call place b positional
    else Run.beyond ("what " ++ b.name ++ " is given by name")

def callValue : Nat → Caller
  | 0, _, _, _, _ => Run.beyond "very deep calls"
  | depth + 1, place, f, positional, named => do
    match f with
    | .function name parameters defaults body scope =>
      let vars ← Run.compute (bindArguments name parameters defaults positional named)
      runBody (callValue depth) (frameOf name parameters body scope vars) body
    | .builtin b => callBuiltin (callValue depth) place b positional named
    | .type c =>
      if named.isEmpty then Run.compute (instantiate c positional)
      else Run.beyond "what a class is given by name"
    | v => Run.raise "TypeError" (quotedType v ++ " object is not callable")

def callDepth : Nat := 250

def topCall : Caller := callValue callDepth

end EmbeddedTests.Snippet
