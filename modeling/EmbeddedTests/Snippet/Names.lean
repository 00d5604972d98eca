import EmbeddedTests.Snippet.Reader
/-!
Names in snippets: which names a function binds, which it declares global, which it mentions. A
function's variables are the names that it binds anywhere and does not declare global.
-/
namespace EmbeddedTests.Snippet

mutual

def Expr.uses (inside : Bool) : Expr → List Text
  | .none | .bool _ | .int _ | .str _ => []
  | .name n => [n]
  | .list es | .tuple es => usesOfAll inside es
  | .negate e | .not e | .attribute e _ => e.uses inside
  | .binary _ a b | .both a b | .either a b | .item a b => a.uses inside ++ b.uses inside
  | .compare e rest => e.uses inside ++ rest.uses inside
  | .lambda body => if inside then body.uses inside else []
  | .call f arguments => f.uses inside ++ usesOfArguments inside arguments

def usesOfAll (inside : Bool) : List Expr → List Text
  | [] => []
  | e :: es => e.uses inside ++ usesOfAll inside es

def Comparison.uses (inside : Bool) : Comparison → List Text
  | .last _ e => e.uses inside
  | .more _ e rest => e.uses inside ++ rest.uses inside

def Argument.uses (inside : Bool) : Argument → List Text
  | .positional e => e.uses inside
  | .named _ e => e.uses inside

def usesOfArguments (inside : Bool) : List Argument → List Text
  | [] => []
  | a :: rest => a.uses inside ++ usesOfArguments inside rest

end

def usesOf? (inside : Bool) (e : Option Expr) : List Text := (e.map (Expr.uses inside)).getD []

def Parameter.uses (inside : Bool) : Parameter → List Text
  | .required _ => []
  | .optional _ e => e.uses inside

mutual

def Stmt.binds : Stmt → List Text
  | .assign n _ => [n]
  | .delete ns | .import ns => ns
  | .define _ n _ _ | .classDef n _ _ => [n]
  | .ifElse _ body orElse => boundIn body ++ boundIn orElse
  | .forIn n _ body => n :: boundIn body
  | .tryElse body handlers orElse atEnd =>
    boundIn body ++ boundInHandlers handlers ++ boundIn orElse ++ boundIn atEnd
  | .pass | .expr _ | .assignItem .. | .return .. | .global .. | .assert .. | .raise _ => []

def boundIn : List Stmt → List Text
  | [] => []
  | s :: ss => s.binds ++ boundIn ss

def boundInHandlers : List Handler → List Text
  | [] => []
  | .mk _ _ body :: rest => boundIn body ++ boundInHandlers rest

end

mutual

def Stmt.declares : Stmt → List Text
  | .global _ ns => ns
  | .ifElse _ body orElse => declaredIn body ++ declaredIn orElse
  | .forIn _ _ body => declaredIn body
  | .tryElse body handlers orElse atEnd =>
    declaredIn body ++ declaredIn orElse ++ declaredInHandlers handlers ++ declaredIn atEnd
  | .pass | .expr _ | .assign .. | .assignItem .. | .return .. | .delete _ | .assert ..
  | .raise _ | .define .. | .classDef .. | .import _ => []

def declaredIn : List Stmt → List Text
  | [] => []
  | s :: ss => s.declares ++ declaredIn ss

def declaredInHandlers : List Handler → List Text
  | [] => []
  | .mk _ _ body :: rest => declaredIn body ++ declaredInHandlers rest

end

def ownNames (parameters : List Text) (body : List Stmt) : List Text :=
  (parameters ++ boundIn body).filter fun n => n ∉ declaredIn body

mutual

def Stmt.mentions : Stmt → List Text
  | .pass | .global .. | .import _ => []
  | .expr e | .raise e => e.uses true
  | .assign _ e => e.uses true
  | .assignItem n key e => n :: key.uses true ++ e.uses true
  | .return _ e => usesOf? true e
  | .delete ns => ns
  | .assert e message => e.uses true ++ usesOf? true message
  | .ifElse e body orElse => e.uses true ++ mentionedIn body ++ mentionedIn orElse
  | .forIn _ e body => e.uses true ++ mentionedIn body
  | .tryElse body handlers orElse atEnd =>
    mentionedIn body ++ mentionedInHandlers handlers ++ mentionedIn orElse ++ mentionedIn atEnd
  | .define _ _ ps body =>
    (ps.map (Parameter.uses true)).flatten
      ++ (mentionedIn body).filter fun n =>
        n ∉ ownNames (ps.map Parameter.name) body ++ declaredIn body
  | .classDef _ above body => usesOfArguments true above ++ mentionedIn body

def mentionedIn : List Stmt → List Text
  | [] => []
  | s :: ss => s.mentions ++ mentionedIn ss

def mentionedInHandlers : List Handler → List Text
  | [] => []
  | .mk _ type body :: rest => usesOf? true type ++ mentionedIn body ++ mentionedInHandlers rest

end

namespace Body

def declared : Body → List Text
  | .expr _ => []
  | .stmts ss => declaredIn ss

def bound (parameters : List Text) : Body → List Text
  | .expr _ => parameters
  | .stmts ss => ownNames parameters ss

def mentions : Body → List Text
  | .expr e => e.uses true
  | .stmts ss => mentionedIn ss

end Body

/-- What has become of the names of a function so far. -/
structure Usage where
  parameters : List Text := []
  used : List Text := []
  bound : List Text := []

namespace Usage

def use (u : Usage) (names : List Text) : Usage := { u with used := u.used ++ names }

def bind (u : Usage) (names : List Text) : Usage := { u with bound := u.bound ++ names }

/-- Why a name cannot be declared global now. -/
def objection? (u : Usage) (name : Text) : Option Text :=
  let about (fault : Text) : Option Text := some ("name '" ++ name ++ "' is " ++ fault)
  if name ∈ u.parameters then about "parameter and global"
  else if name ∈ u.used then about "used prior to global declaration"
  else if name ∈ u.bound then about "assigned to before global declaration"
  else none

end Usage

def repeated? : List Text → List Text → Option Text
  | _, [] => none
  | seen, n :: rest => if n ∈ seen then some n else repeated? (n :: seen) rest

abbrev Checked := Except CodeError Usage

def checkParameters (line : Nat) (names : List Text) : Checked :=
  match repeated? [] names with
  | some n =>
    .error { message := "duplicate argument '" ++ n ++ "' in function definition", line := line }
  | none => .ok { parameters := names }

def checkGlobal (u : Usage) (line : Nat) (names : List Text) : Checked :=
  match names.findSome? u.objection? with
  | some message => .error { message := message, line := line }
  | none => .ok u

mutual

def Stmt.check (u : Usage) : Stmt → Checked
  | .pass => .ok u
  | .expr e | .raise e => .ok (u.use (e.uses false))
  | .assign n e => .ok ((u.bind [n]).use (e.uses false))
  | .assignItem n key e => .ok (u.use (n :: key.uses false ++ e.uses false))
  | .return _ e => .ok (u.use (usesOf? false e))
  | .global line names => checkGlobal u line names
  | .delete ns | .import ns => .ok (u.bind ns)
  | .assert e message => .ok (u.use (e.uses false ++ usesOf? false message))
  | .ifElse e body orElse => do
    let u ← checkAll (u.use (e.uses false)) body
    checkAll u orElse
  | .forIn n e body => checkAll ((u.bind [n]).use (e.uses false)) body
  -- What follows without an exception is looked at before the handlers.
  | .tryElse body handlers orElse atEnd => do
    let u ← checkAll u body
    let u ← checkAll u orElse
    let u ← checkHandlers u handlers
    checkAll u atEnd
  | .define line n ps body => do
    let inner ← checkParameters line (ps.map Parameter.name)
    let _ ← checkAll inner body
    return (u.bind [n]).use (ps.map (Parameter.uses false)).flatten
  | .classDef n above body => do
    let _ ← checkAll {} body
    return (u.bind [n]).use (usesOfArguments false above)

def checkAll (u : Usage) : List Stmt → Checked
  | [] => .ok u
  | s :: ss => do
    let u ← s.check u
    checkAll u ss

def checkHandlers (u : Usage) : List Handler → Checked
  | [] => .ok u
  | .mk _ type body :: rest => do
    let u ← checkAll (u.use (usesOf? false type)) body
    checkHandlers u rest

end

/-- The name of a constant that cannot be given a value. -/
def debugName : Text := "__debug__"

mutual

def Stmt.fault? (inFunction : Bool) : Stmt → Option CodeError
  | .return line _ =>
    if inFunction then none else some { message := "'return' outside function", line := line }
  | .define line _ ps body =>
    if debugName ∈ ps.map Parameter.name then
      some { message := "cannot assign to " ++ debugName, line := line }
    else faultIn? true body
  | .classDef _ _ body => faultIn? false body
  | .ifElse _ body orElse => (faultIn? inFunction body).or (faultIn? inFunction orElse)
  | .forIn _ _ body => faultIn? inFunction body
  | .tryElse body handlers orElse atEnd =>
    (faultIn? inFunction body).or ((faultIn? inFunction orElse).or
      ((faultInHandlers? inFunction handlers).or (faultIn? inFunction atEnd)))
  | .pass | .expr _ | .assign .. | .assignItem .. | .global .. | .delete _ | .assert ..
  | .raise _ | .import _ => none

def faultIn? (inFunction : Bool) : List Stmt → Option CodeError
  | [] => none
  | s :: ss => (s.fault? inFunction).or (faultIn? inFunction ss)

def faultInHandlers? (inFunction : Bool) : List Handler → Option CodeError
  | [] => none
  | .mk line type body :: rest =>
    if type.isNone ∧ rest ≠ [] then
      some { message := "default 'except:' must be last", line := line }
    else (faultIn? inFunction body).or (faultInHandlers? inFunction rest)

end

def compileStatements (t : Text) : Except CodeError (List Stmt) := do
  let ss ← readStatements t
  let _ ← checkAll {} ss
  match faultIn? false ss with
  | some e => .error e
  | none => return ss

end EmbeddedTests.Snippet
