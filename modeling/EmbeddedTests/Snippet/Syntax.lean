import EmbeddedTests.Text
/-!
The syntax tree of snippets: the small language that tested modules and the code of blocks are
written in. Statements that can be wrong in themselves know the line that they stand on.
-/
namespace EmbeddedTests.Snippet

inductive BinaryOp where
  | add | subtract | multiply | divide | floorDivide | remainder
  deriving DecidableEq, Repr

inductive CompareOp where
  | equal | unequal | less | lessEqual | greater | greaterEqual | same | notSame | member
  | notMember
  deriving DecidableEq, Repr

mutual

inductive Expr where
  | none
  | bool (b : Bool)
  | int (n : Nat)
  | str (t : Text)
  | name (n : Text)
  | list (items : List Expr)
  | tuple (items : List Expr)
  | negate (e : Expr)
  | not (e : Expr)
  | binary (op : BinaryOp) (left right : Expr)
  /-- The right side is evaluated only if the left one does not decide. -/
  | both (left right : Expr)
  | either (left right : Expr)
  | compare (first : Expr) (rest : Comparison)
  /-- A function without parameters. -/
  | lambda (body : Expr)
  | call (function : Expr) (arguments : List Argument)
  | attribute (e : Expr) (name : Text)
  | item (e key : Expr)

/-- Comparisons that go on from an expression: each is made only if the one before it holds. -/
inductive Comparison where
  | last (op : CompareOp) (e : Expr)
  | more (op : CompareOp) (e : Expr) (rest : Comparison)

inductive Argument where
  | positional (e : Expr)
  | named (name : Text) (e : Expr)

end

inductive Parameter where
  | required (name : Text)
  | optional (name : Text) (default : Expr)

mutual

inductive Stmt where
  | pass
  | expr (e : Expr)
  | assign (name : Text) (e : Expr)
  /-- Gives an item of the variable's value another value. -/
  | assignItem (name : Text) (key e : Expr)
  | return (line : Nat) (e : Option Expr)
  | global (line : Nat) (names : List Text)
  | delete (names : List Text)
  | assert (e : Expr) (message : Option Expr)
  | raise (e : Expr)
  | ifElse (condition : Expr) (body orElse : List Stmt)
  | forIn (name : Text) (items : Expr) (body : List Stmt)
  | tryElse (body : List Stmt) (handlers : List Handler) (orElse atEnd : List Stmt)
  | define (line : Nat) (name : Text) (parameters : List Parameter) (body : List Stmt)
  | classDef (name : Text) (above : List Argument) (body : List Stmt)
  | import (names : List Text)

/-- A handler without a class takes every exception. -/
inductive Handler where
  | mk (line : Nat) (type : Option Expr) (body : List Stmt)

end

def Parameter.name : Parameter → Text
  | .required n => n
  | .optional n _ => n

def Parameter.isOptional : Parameter → Bool
  | .required _ => false
  | .optional .. => true

/-- What a function does: a lambda has an expression. -/
inductive Body where
  | expr (e : Expr)
  | stmts (ss : List Stmt)

/-- Code that does not compile. -/
structure CodeError where
  /-- Its class. -/
  kind : Text := "SyntaxError"
  message : Text
  line : Nat
  deriving DecidableEq, Repr

namespace CodeError

def indentation (message : Text) (line : Nat) : CodeError :=
  { kind := "IndentationError", message := message, line := line }

def report (e : CodeError) (file : Text) : Text :=
  e.message ++ " (" ++ file ++ ", line " ++ Text.ofNat e.line ++ ")"

end CodeError

end EmbeddedTests.Snippet
