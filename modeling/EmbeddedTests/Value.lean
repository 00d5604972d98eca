import EmbeddedTests.Pattern.Matching
import EmbeddedTests.Snippet.Exceptions
import EmbeddedTests.Snippet.Syntax
import EmbeddedTests.Text.Quoted
/-!
Values of shared variables and of snippets, and what texts they are written by. Values that change
are known by a number, so that a change in one place is seen in every other.

Some values cannot be written, and some are written by methods of their own; what is written is
therefore put together from pieces.
-/
namespace EmbeddedTests

open Text

/-- The functions that are always there. -/
inductive Builtin where
  | print | range | max | min | len | str | repr | bool | abs | locals
  /-- Checks that a snippet fails. -/
  | fail
  | warn
  deriving DecidableEq, Repr

namespace Builtin

def name : Builtin → Text
  | print => "print" | range => "range" | max => "max" | min => "min" | len => "len"
  | str => "str" | repr => "repr" | bool => "bool" | abs => "abs" | locals => "locals"
  | fail => "fail" | warn => "warn"

def isClass : Builtin → Bool
  | range | str | bool => true
  | _ => false

end Builtin

mutual

inductive Value where
  | none
  | bool (b : Bool)
  | int (i : Int)
  /-- What dividing one number by another comes to; its digits are not described. -/
  | quotient (dividend divisor : Int)
  | str (t : Text)
  | list (items : List Value)
  | tuple (items : List Value)
  | dict (entries : List (Text × Value))
  | range (start stop step : Int)
  /-- `scope` are the frames of the functions around it, the innermost first. -/
  | function (name : Text) (parameters : List Text) (defaults : List (Text × Value))
      (body : Snippet.Body) (scope : List Nat)
  | builtin (b : Builtin)
  | module (name : Text)
  | type (c : ObjectClass)
  | object (type : ObjectClass) (arguments : List Value)
  /-- The table of shared variables that the code of a block is given. -/
  | table (id : Nat)
  /-- What a frame has shown as its local variables. -/
  | locals (id : Nat)

/-- The class of an object: a class of exceptions that is always there, or a class of its own, by a
number that no other has. -/
inductive ObjectClass where
  | builtin (name : Text)
  | own (id : Nat) (name : ClassName) (above : Option Text) (methods : List (Text × Value))

end

namespace ObjectClass

def name : ObjectClass → ClassName
  | builtin n =>
    if n = Snippet.patternErrorName then ⟨n, n, "re"⟩ else .builtin n
  | own _ n _ _ => n

def lineage : ObjectClass → List Text
  | builtin n => Snippet.lineage n
  | own _ _ above _ => (above.map Snippet.lineage).getD []

def isException (c : ObjectClass) : Bool := c.lineage.contains "BaseException"

def isSame : ObjectClass → ObjectClass → Bool
  | builtin n, builtin n' => n == n'
  | own id .., own id' .. => id == id'
  | _, _ => false

def isUnder (c : ObjectClass) : ObjectClass → Bool
  | builtin n => c.lineage.contains n
  | own id name above methods => c.isSame (own id name above methods)

def method? : ObjectClass → Text → Option Value
  | builtin _, _ => none
  | own _ _ _ methods, m => methods.lookup m

def has (c : ObjectClass) (m : Text) : Bool := (c.method? m).isSome

def written (c : ObjectClass) : Text :=
  let place :=
    if c.name.home = "builtins".toList then c.name.name
    else c.name.home ++ '.' :: c.name.qualified
  "<class '" ++ place ++ "'>"

end ObjectClass

def PatternError.className (e : PatternError) : Text :=
  if e.fault = .repeatTooLarge then "OverflowError" else Snippet.patternErrorName

def saysMethod : Text := "__str__"

def writesMethod : Text := "__repr__"

def holdsMethod : Text := "__bool__"

inductive Piece where
  | text (t : Text)
  | integer (i : Int)
  /-- What the object's method of the name says. -/
  | own (method : Text) (object : Value)
  /-- It is not described here what is written. -/
  | beyond (what : Text)

/-- Is a value true? -/
inductive Truth where
  | known (b : Bool)
  | own (object : Value)
  | beyond (what : Text)

namespace Value

def digitLimit : Nat := 4300

def isTooLong (i : Int) : Bool := digitLimit < (ofNat i.natAbs).length

def tooLongMessage : Text :=
  "Exceeds the limit (" ++ ofNat digitLimit ++ " digits) for integer string conversion; "
    ++ "use sys.set_int_max_str_digits() to increase the limit"

mutual

def written : Value → List Piece
  | none => [.text "None"]
  | bool true => [.text "True"]
  | bool false => [.text "False"]
  | int i => [.integer i]
  | quotient .. => [.beyond "the digits of a quotient"]
  | str t => [.text (quoted t)]
  | list items => .text ['['] :: (writtenItems items ++ [.text [']']])
  | tuple [v] => .text ['('] :: (v.written ++ [.text ",)"])
  | tuple items => .text ['('] :: (writtenItems items ++ [.text [')']])
  | dict entries => .text ['\x7b'] :: (writtenEntries entries ++ [.text ['\x7d']])
  | range start stop step =>
    [.text "range(", .integer start, .text ", ", .integer stop]
      ++ (if step = 1 then [] else [.text ", ", .integer step]) ++ [.text [')']]
  | function name .. => [.beyond ("where the function " ++ name ++ " is kept")]
  | builtin .fail => [.beyond "where the function fail is kept"]
  | builtin b =>
    [.text (if b.isClass then "<class '" ++ b.name ++ "'>"
      else "<built-in function " ++ b.name ++ ">")]
  | module name => [.beyond ("where the module " ++ name ++ " is kept")]
  | type c => [.text c.written]
  | object c arguments =>
    if c.has writesMethod then [.own writesMethod (object c arguments)]
    else if c.isException then
      .text (c.name.name ++ ['(']) :: (writtenItems arguments ++ [.text [')']])
    else [.beyond "where an object is kept"]
  | table _ => [.beyond "the table of shared variables"]
  | locals _ => [.beyond "the local variables"]

def writtenItems : List Value → List Piece
  | [] => []
  | [v] => v.written
  | v :: vs => v.written ++ .text ", " :: writtenItems vs

def writtenEntries : List (Text × Value) → List Piece
  | [] => []
  | [(key, v)] => .text (quoted key ++ ": ") :: v.written
  | (key, v) :: rest => .text (quoted key ++ ": ") :: (v.written ++ .text ", " :: writtenEntries rest)

end

mutual

def said : Value → List Piece
  | str t => [.text t]
  | object c arguments =>
    if c.has saysMethod then [.own saysMethod (object c arguments)]
    else if c.isException then saidBy c arguments
    else (object c arguments).written
  | v => v.written

def saidBy (c : ObjectClass) : List Value → List Piece
  | [] => [.text (if c.lineage.contains "SyntaxError" then "None" else [])]
  | [v] => if c.lineage.contains "KeyError" then v.written else v.said
  | arguments => (tuple arguments).written

end

def truth : Value → Truth
  | none | bool false | int 0 | str [] | list [] | tuple [] | dict [] => .known false
  | quotient dividend _ => .known (dividend ≠ 0)
  | range start stop step => .known (if step > 0 then start < stop else stop < start)
  | object c arguments =>
    if c.has holdsMethod then .own (object c arguments) else .known true
  | table _ => .beyond "the table of shared variables"
  | locals _ => .beyond "the local variables"
  | _ => .known true

def typeName : Value → Text
  | none => "NoneType" | bool _ => "bool" | int _ => "int" | quotient .. => "float"
  | str _ => "str"
  | list _ => "list" | tuple _ => "tuple" | dict _ | table _ | locals _ => "dict"
  | range .. => "range" | function .. | builtin .fail => "function"
  | builtin b => if b.isClass then "type" else "builtin_function_or_method"
  | type _ => "type" | object c _ => c.name.name | module _ => "module"

def isCallable : Value → Bool
  | function .. | builtin _ | type _ => true
  | _ => false

def exitStatus : Value → Value
  | object _ [v] => v
  | object _ (v :: vs) => tuple (v :: vs)
  | _ => none

def isOwn : Value → Bool
  | object (.own ..) _ => true
  | _ => false

end Value

abbrev Bindings := List (Text × Value)

namespace Bindings

def names (b : Bindings) : List Text := b.map (·.1)

def get? (b : Bindings) (name : Text) : Option Value := (b.find? (·.1 == name)).map (·.2)

def has (b : Bindings) (name : Text) : Bool := b.any (·.1 == name)

/-- A name that is bound keeps its place, a new one comes last. -/
def put (b : Bindings) (name : Text) (v : Value) : Bindings :=
  if b.has name then b.map fun entry => if entry.1 = name then (name, v) else entry
  else b ++ [(name, v)]

def erase (b : Bindings) (name : Text) : Bindings := b.filter (·.1 != name)

def merge (b added : Bindings) : Bindings :=
  added.foldl (fun b entry => b.put entry.1 entry.2) b

end Bindings
end EmbeddedTests
