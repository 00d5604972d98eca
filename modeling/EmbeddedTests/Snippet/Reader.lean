import EmbeddedTests.Snippet.Lexer
import EmbeddedTests.Text.Composed
/-!
From tokens to syntax trees, by descent with one token of lookahead. The fuel of the functions is
a bound on their depth; the number of tokens gives one that is enough.
-/
namespace EmbeddedTests.Snippet

/-- Names that cannot be used as identifiers. -/
def keywords : List Text :=
  ["False", "None", "True", "and", "as", "assert", "async", "await", "break", "class", "continue",
    "def", "del", "elif", "else", "except", "finally", "for", "from", "global", "if", "import",
    "in", "is", "lambda", "nonlocal", "not", "or", "pass", "raise", "return", "try", "while",
    "with", "yield"].map String.toList

def isKeyword (t : Text) : Bool := t ∈ keywords

abbrev Parse := StateT (List Token) (Except CodeError)

namespace Parse

def lineOf : List Token → Nat
  | [] => 0
  | t :: _ => t.line

def laterFault? (line : Nat) : List Token → Option CodeError
  | [] => none
  | t :: rest =>
    match t.lexeme with
    | .fault e => some e
    | .stuck _ (some (bracket, opened)) =>
      if opened < line then some (neverClosed bracket opened) else none
    | _ => laterFault? line rest

def errorAt (kind message : Text) (ts : List Token) : CodeError :=
  let line := lineOf ts
  (laterFault? line ts).getD { kind := kind, message := message, line := line }

/-- The error that the next token cannot stand where it does. -/
def misplaced (ts : List Token) : CodeError :=
  match ts with
  | ⟨.stuck e _, _⟩ :: _ => e
  | ⟨.indent, line⟩ :: _ => .indentation "unexpected indent" line
  | ⟨.dedent, line⟩ :: _ => .indentation "unexpected unindent" line
  | ts => errorAt "SyntaxError" "invalid syntax" ts

def unexpected {α : Type} : Parse α := do throw (misplaced (← get))

def complain {α : Type} (message : Text) : Parse α := do
  throw (errorAt "SyntaxError" message (← get))

def isSymbol (t : Text) : List Token → Bool
  | ⟨.symbol s, _⟩ :: _ => s == t
  | _ => false

def isWord (t : Text) : List Token → Bool
  | ⟨.name n, _⟩ :: _ => n == t
  | _ => false

def isLineEnd : List Token → Bool
  | ⟨.lineEnd, _⟩ :: _ => true
  | _ => false

def atSymbol (t : Text) : Parse Bool := do return isSymbol t (← get)

def atWord (t : Text) : Parse Bool := do return isWord t (← get)

def atLineEnd : Parse Bool := do return isLineEnd (← get)

def here : Parse Nat := do return lineOf (← get)

def skip : Parse Unit := modify List.tail

def takes (t : Text) : Parse Bool := do
  let found ← atSymbol t
  if found then skip
  return found

def takesWord (t : Text) : Parse Bool := do
  let found ← atWord t
  if found then skip
  return found

def symbol (t : Text) : Parse Unit := do
  if !(← takes t) then unexpected

def word (t : Text) : Parse Unit := do
  if !(← takesWord t) then unexpected

def demand (t : Text) : Parse Unit := do
  if !(← takes t) then
    match ← get with
    | ⟨.stuck .., _⟩ :: _ | ⟨.fault _, _⟩ :: _ => unexpected
    | _ => complain ("expected '" ++ t ++ "'")

/-- The colon after a head; it is missed only at the end of the line. -/
def colon : Parse Unit := do
  if ← atLineEnd then demand [':'] else symbol [':']

/-- A name as it is told apart from others. Keywords are only told by how they are written. -/
def identifier : Parse Text := do
  match ← get with
  | ⟨.name n, _⟩ :: _ =>
    if isKeyword n then unexpected
    else
      skip
      return Text.composed n
  | _ => unexpected

def identifiers : Nat → Parse (List Text)
  | 0 => unexpected
  | fuel + 1 => do
    let n ← identifier
    if ← takes [','] then return n :: (← identifiers fuel)
    return [n]

def joinLiterals : List Token → Text × List Token
  | ⟨.str t, _⟩ :: rest =>
    let (more, rest) := joinLiterals rest
    (t ++ more, rest)
  | ts => ([], ts)

def compareSign? (ts : List Token) : Option (CompareOp × List Token) :=
  match ts with
  | ⟨.symbol s, _⟩ :: rest =>
    if s = "==".toList then some (.equal, rest)
    else if s = "!=".toList then some (.unequal, rest)
    else if s = ['<'] then some (.less, rest)
    else if s = "<=".toList then some (.lessEqual, rest)
    else if s = ['>'] then some (.greater, rest)
    else if s = ">=".toList then some (.greaterEqual, rest)
    else none
  | ⟨.name n, _⟩ :: rest =>
    if n = "in".toList then some (.member, rest)
    else if n = "is".toList then
      if isWord "not" rest then some (.notSame, rest.tail) else some (.same, rest)
    else if n = "not".toList && isWord "in" rest then some (.notMember, rest.tail)
    else none
  | _ => none

def compareOp? : Parse (Option CompareOp) := do
  match compareSign? (← get) with
  | none => return none
  | some (op, rest) =>
    set rest
    return some op

def additive? : Parse (Option BinaryOp) := do
  if ← takes ['+'] then return some .add
  if ← takes ['-'] then return some .subtract
  return none

def multiplicative? : Parse (Option BinaryOp) := do
  if ← takes ['*'] then return some .multiply
  if ← takes ['/'] then return some .divide
  if ← takes "//" then return some .floorDivide
  if ← takes ['%'] then return some .remainder
  return none

def argumentName? : Parse (Option Text) := do
  match ← get with
  | ⟨.name n, _⟩ :: ⟨.symbol ['='], _⟩ :: rest =>
    if isKeyword n then return none
    set rest
    return some (Text.composed n)
  | _ => return none

/-- Can what is read as an expression from the tokens lack a comma after it? Not if it starts with
a name that marks a literal, or with a word that has a meaning in some places only. -/
def mayLackComma : List Token → Bool
  | ⟨.name n, _⟩ :: ⟨.str _, _⟩ :: _ => n.isEmpty
  | ⟨.name n, _⟩ :: _ => n ∉ ["_".toList, "case", "match", "lambda", "print", "exec"]
  | _ => true

mutual

def expr : Nat → Parse Expr
  | 0 => unexpected
  | fuel + 1 => do
    if ← takesWord "lambda" then
      demand [':']
      return .lambda (← expr fuel)
    else disjunction fuel

def disjunction : Nat → Parse Expr
  | 0 => unexpected
  | fuel + 1 => do
    let left ← conjunction fuel
    disjuncts fuel left

def disjuncts : Nat → Expr → Parse Expr
  | 0, _ => unexpected
  | fuel + 1, left => do
    if ← takesWord "or" then
      let right ← conjunction fuel
      disjuncts fuel (.either left right)
    else return left

def conjunction : Nat → Parse Expr
  | 0 => unexpected
  | fuel + 1 => do
    let left ← inversion fuel
    conjuncts fuel left

def conjuncts : Nat → Expr → Parse Expr
  | 0, _ => unexpected
  | fuel + 1, left => do
    if ← takesWord "and" then
      let right ← inversion fuel
      conjuncts fuel (.both left right)
    else return left

def inversion : Nat → Parse Expr
  | 0 => unexpected
  | fuel + 1 => do
    if ← takesWord "not" then return .not (← inversion fuel)
    else
      let first ← sum fuel
      match ← compareOp? with
      | none => return first
      | some op => return .compare first (← comparison fuel op)

def comparison : Nat → CompareOp → Parse Comparison
  | 0, _ => unexpected
  | fuel + 1, op => do
    let e ← sum fuel
    match ← compareOp? with
    | none => return .last op e
    | some next => return .more op e (← comparison fuel next)

def sum : Nat → Parse Expr
  | 0 => unexpected
  | fuel + 1 => do
    let left ← product fuel
    summands fuel left

def summands : Nat → Expr → Parse Expr
  | 0, _ => unexpected
  | fuel + 1, left => do
    match ← additive? with
    | none => return left
    | some op =>
      let right ← product fuel
      summands fuel (.binary op left right)

def product : Nat → Parse Expr
  | 0 => unexpected
  | fuel + 1 => do
    let left ← factor fuel
    factors fuel left

def factors : Nat → Expr → Parse Expr
  | 0, _ => unexpected
  | fuel + 1, left => do
    match ← multiplicative? with
    | none => return left
    | some op =>
      let right ← factor fuel
      factors fuel (.binary op left right)

def factor : Nat → Parse Expr
  | 0 => unexpected
  | fuel + 1 => do
    if ← takes ['-'] then return .negate (← factor fuel)
    else
      let e ← atom fuel
      trailers fuel e

def trailers : Nat → Expr → Parse Expr
  | 0, _ => unexpected
  | fuel + 1, e => do
    if ← takes ['('] then
      let given ← arguments fuel false
      trailers fuel (.call e given)
    else if ← takes ['['] then
      let key ← exprs fuel
      symbol [']']
      trailers fuel (.item e key)
    else if ← takes ['.'] then
      let name ← identifier
      trailers fuel (.attribute e name)
    else return e

/-- The bracket after an expression that starts with the tokens. When another expression comes
instead, a comma is missing. -/
def closing : Nat → List Token → Text → Parse Unit
  | 0, _, _ => unexpected
  | fuel + 1, start, close => do
    if ← takes close then return ()
    let rest ← get
    match (expr fuel).run rest with
    | .error _ => unexpected
    | .ok (_, after) =>
      if mayLackComma start then
        let e : CodeError :=
          { message := "invalid syntax. Perhaps you forgot a comma?", line := lineOf start }
        throw ((laterFault? (lineOf after) after).getD e)
      else unexpected

/-- Arguments up to the closing bracket; after a named one only named ones can come. -/
def arguments : Nat → Bool → Parse (List Argument)
  | 0, _ => unexpected
  | fuel + 1, onlyNamed => do
    if ← takes [')'] then return []
    let name ← argumentName?
    let start ← get
    let e ← expr fuel
    match name with
    | none =>
      if onlyNamed then complain "positional argument follows keyword argument"
      if ← takes [','] then return .positional e :: (← arguments fuel false)
      closing fuel start [')']
      return [.positional e]
    | some n =>
      if ← takes [','] then return .named n e :: (← arguments fuel true)
      closing fuel start [')']
      return [.named n e]

def atom : Nat → Parse Expr
  | 0 => unexpected
  | fuel + 1 => do
    match ← get with
    | ⟨.int n, _⟩ :: rest =>
      set rest
      return .int n
    | ⟨.str t, line⟩ :: rest =>
      let (t, rest) := joinLiterals (⟨.str t, line⟩ :: rest)
      set rest
      return .str t
    | ⟨.name n, _⟩ :: rest =>
      if n = "None".toList then
        set rest
        return .none
      else if n = "True".toList then
        set rest
        return .bool true
      else if n = "False".toList then
        set rest
        return .bool false
      else return .name (← identifier)
    | ⟨.symbol ['('], _⟩ :: rest =>
      set rest
      if ← takes [')'] then return .tuple []
      let start ← get
      let e ← expr fuel
      if ← takes [','] then return .tuple (e :: (← items fuel [')']))
      closing fuel start [')']
      return e
    | ⟨.symbol ['['], _⟩ :: rest =>
      set rest
      return .list (← items fuel [']'])
    | _ => unexpected

/-- Items up to the closing bracket, with commas between them and possibly one after the last. -/
def items : Nat → Text → Parse (List Expr)
  | 0, _ => unexpected
  | fuel + 1, close => do
    if ← takes close then return []
    let start ← get
    let e ← expr fuel
    if ← takes [','] then return e :: (← items fuel close)
    closing fuel start close
    return [e]

/-- An expression; with a comma after it, a tuple without brackets. -/
def exprs : Nat → Parse Expr
  | 0 => unexpected
  | fuel + 1 => do
    let e ← expr fuel
    if ← takes [','] then return .tuple (e :: (← moreExprs fuel))
    else return e

/-- The rest of a tuple without brackets: it ends where no expression can start. -/
def moreExprs : Nat → Parse (List Expr)
  | 0 => unexpected
  | fuel + 1 => do
    if (← atLineEnd) || (← atSymbol ['=']) || (← atSymbol [':']) || (← atSymbol [']']) then
      return []
    let e ← expr fuel
    if ← takes [','] then return e :: (← moreExprs fuel)
    return [e]

end

/-- Parameters up to the closing bracket; after an optional one only optional ones can come. -/
def parameters : Nat → Bool → Parse (List Parameter)
  | 0, _ => unexpected
  | fuel + 1, onlyOptional => do
    if ← takes [')'] then return []
    let name ← identifier
    if ← takes ['='] then
      let default ← expr fuel
      if ← takes [','] then return .optional name default :: (← parameters fuel true)
      symbol [')']
      return [.optional name default]
    if onlyOptional then complain "non-default argument follows default argument"
    if ← takes [','] then return .required name :: (← parameters fuel false)
    symbol [')']
    return [.required name]

def assignment (fuel : Nat) : Parse Stmt := do
  let target ← exprs fuel
  if !(← atSymbol ['=']) then return .expr target
  match target with
  | .name n =>
    skip
    return .assign n (← exprs fuel)
  | .item (.name n) key =>
    skip
    return .assignItem n key (← exprs fuel)
  | _ => unexpected

/-- A statement that has no block. -/
def simple (fuel : Nat) : Parse Stmt := do
  let line ← here
  if ← takesWord "pass" then return .pass
  else if ← takesWord "return" then
    if (← atLineEnd) || (← atSymbol [';']) then return .return line none
    else return .return line (some (← exprs fuel))
  else if ← takesWord "global" then return .global line (← identifiers fuel)
  else if ← takesWord "del" then return .delete (← identifiers fuel)
  else if ← takesWord "assert" then
    let e ← expr fuel
    if ← takes [','] then return .assert e (some (← expr fuel))
    else return .assert e none
  else if ← takesWord "raise" then return .raise (← expr fuel)
  else if ← takesWord "import" then return .import (← identifiers fuel)
  else assignment fuel

def simples : Nat → Parse (List Stmt)
  | 0 => unexpected
  | fuel + 1 => do
    let s ← simple fuel
    let more ← takes [';']
    match ← get with
    | ⟨.lineEnd, _⟩ :: rest =>
      set rest
      return [s]
    | ⟨.finish, _⟩ :: _ => return [s]
    | _ => if more then return s :: (← simples fuel) else unexpected

def statementOf (word : Text) : Text := '\'' :: word ++ "' statement"

def missingBlock (owner : Text) (line : Nat) : Text :=
  "expected an indented block after " ++ owner ++ " on line " ++ Text.ofNat line

mutual

def statements : Nat → Parse (List Stmt)
  | 0 => unexpected
  | fuel + 1 => do
    match ← get with
    | [] => return []
    | ⟨.dedent, _⟩ :: rest =>
      set rest
      return []
    | ⟨.finish, _⟩ :: _ => return []
    | _ =>
      let ss ← statement fuel
      return ss ++ (← statements fuel)

def block : Nat → Text → Nat → Parse (List Stmt)
  | 0, _, _ => unexpected
  | fuel + 1, owner, start => do
    match ← get with
    | ⟨.lineEnd, _⟩ :: ⟨.indent, _⟩ :: rest =>
      set rest
      let ss ← statement fuel
      return ss ++ (← statements fuel)
    | ⟨.lineEnd, _⟩ :: rest =>
      set rest
      match rest with
      | ⟨.stuck .., _⟩ :: _ | ⟨.fault _, _⟩ :: _ => unexpected
      | rest => throw (errorAt "IndentationError" (missingBlock owner start) rest)
    | _ => simples fuel

def statement : Nat → Parse (List Stmt)
  | 0 => unexpected
  | fuel + 1 => do
    let start ← here
    if ← takesWord "if" then return [← conditional fuel "if" start]
    else if ← takesWord "for" then
      let name ← identifier
      word "in"
      let items ← exprs fuel
      colon
      return [.forIn name items (← block fuel (statementOf "for") start)]
    else if ← takesWord "try" then
      demand [':']
      let body ← block fuel (statementOf "try") start
      let handled ← handlers fuel
      let orElse ← if handled.isEmpty then pure [] else alternative fuel "else"
      if handled.isEmpty && !(← atWord "finally") then
        complain "expected 'except' or 'finally' block"
      return [.tryElse body handled orElse (← alternative fuel "finally")]
    else if ← takesWord "def" then
      let name ← identifier
      demand ['(']
      let ps ← parameters fuel false
      demand [':']
      return [.define start name ps (← block fuel "function definition" start)]
    else if ← takesWord "class" then
      let name ← identifier
      let above ← if ← takes ['('] then arguments fuel false else pure []
      colon
      return [.classDef name above (← block fuel "class definition" start)]
    else simples fuel

/-- A condition with its block, and the blocks for the case that it does not hold. -/
def conditional : Nat → Text → Nat → Parse Stmt
  | 0, _, _ => unexpected
  | fuel + 1, keyword, start => do
    let condition ← expr fuel
    colon
    let body ← block fuel (statementOf keyword) start
    let next ← here
    if ← takesWord "elif" then
      return .ifElse condition body [← conditional fuel "elif" next]
    else return .ifElse condition body (← alternative fuel "else")

def alternative : Nat → Text → Parse (List Stmt)
  | 0, _ => unexpected
  | fuel + 1, keyword => do
    let start ← here
    if ← takesWord keyword then
      demand [':']
      block fuel (statementOf keyword) start
    else return []

def handlers : Nat → Parse (List Handler)
  | 0 => unexpected
  | fuel + 1 => do
    let start ← here
    if ← takesWord "except" then
      if (← atSymbol [':']) || (← atLineEnd) then
        colon
        let body ← block fuel (statementOf "except") start
        return .mk start none body :: (← handlers fuel)
      else
        let type ← expr fuel
        colon
        let body ← block fuel (statementOf "except") start
        return .mk start (some type) body :: (← handlers fuel)
    else return []

end

/-- Nothing but the end of the text comes. -/
def finish : Parse Unit := do
  match ← get with
  | [] | [⟨.finish, _⟩] => return ()
  | _ => unexpected

/-- Enough fuel for so many tokens. -/
def fuelFor (ts : List Token) : Nat := 16 * ts.length + 64

def of {α : Type} (parse : Nat → Parse α) (t : Text) : Except CodeError α :=
  let ts := tokens t
  ((parse (fuelFor ts)).run ts).map (·.1)

end Parse

def readStatements (t : Text) : Except CodeError (List Stmt) :=
  Parse.of (fun fuel => do
    let ss ← Parse.statements fuel
    Parse.finish
    return ss) t

/-- The expression that a text is; ends of lines may follow it. -/
def readExpr (t : Text) : Except CodeError Expr :=
  Parse.of (fun fuel => do
    let e ← Parse.exprs fuel
    modify (·.dropWhile (·.lexeme == .lineEnd))
    Parse.finish
    return e) t

end EmbeddedTests.Snippet
