import EmbeddedTests.Value
/-!
Operations on the values of snippets. Truth values count as the numbers zero and one.

An operation that would need the digits of a quotient, the identity of a value or what else is not
described of a value goes beyond what is described here, and so does all code that comes to it.
-/
namespace EmbeddedTests.Snippet

open Text

/-- An exception that is under way. -/
structure Thrown where
  type : ObjectClass
  arguments : List Value

namespace Thrown

def of (name message : Text) : Thrown := ⟨.builtin name, [.str message]⟩

def value (t : Thrown) : Value := .object t.type t.arguments

end Thrown

/-- What ends a computation before its time. -/
inductive Stop where
  | thrown (t : Thrown)
  /-- It is not described here how the code goes on. -/
  | beyond (what : Text)

abbrev Computed (α : Type) := Except Stop α

def raising {α : Type} (name message : Text) : Computed α := .error (.thrown (.of name message))

def typeError {α : Type} (message : Text) : Computed α := raising "TypeError" message

def beyond {α : Type} (what : Text) : Computed α := .error (.beyond what)

def quotedType (v : Value) : Text := '\'' :: v.typeName ++ "'"

def integer? : Value → Option Int
  | .int i => some i
  | .bool b => some (if b then 1 else 0)
  | _ => none

def isQuotient : Value → Bool
  | .quotient .. => true
  | _ => false

def rangeLength (start stop step : Int) : Nat :=
  if step > 0 then ((stop - start + step - 1) / step).toNat
  else if step < 0 then ((start - stop - step - 1) / (-step)).toNat
  else 0

def rangeItems (start stop step : Int) : List Value :=
  (List.range (rangeLength start stop step)).map fun (k : Nat) => .int (start + step * k)

def equalRanges (start stop step start' stop' step' : Int) : Bool :=
  let length := rangeLength start stop step
  length == rangeLength start' stop' step' &&
    (length == 0 || (start == start' && (length == 1 || step == step')))

/-- The values are not equal, unless that depends on what a quotient amounts to. -/
def differUnless (depends : Bool) : Computed Bool :=
  if depends then beyond "what a quotient amounts to" else .ok false

mutual

/-- Are two values equal? Numbers are by what they amount to, tables regardless of order, and
functions and objects only to themselves. -/
def equals : Value → Value → Computed Bool
  | .none, .none => .ok true
  | .str s, .str t => .ok (s == t)
  | .list as, .list bs => if as.length = bs.length then equalItems as bs else .ok false
  | .tuple as, .tuple bs => if as.length = bs.length then equalItems as bs else .ok false
  | .dict as, .dict bs => if as.length = bs.length then entriesWithin as bs else .ok false
  | .range a b c, .range a' b' c' => .ok (equalRanges a b c a' b' c')
  | .function n .., .function n' .. =>
    if n = n' then beyond "whether two functions are one" else .ok false
  | .builtin a, .builtin b => .ok (a == b)
  | .module a, .module b => .ok (a == b)
  | .type c, .type c' => .ok (c.isSame c')
  | .object c _, .object c' _ =>
    if c.isSame c' then beyond "whether two objects are one" else .ok false
  | .table _, .dict _ | .table _, .table _ | .table _, .locals _ | .dict _, .table _
  | .locals _, .table _ | .dict _, .locals _ | .locals _, .dict _ | .locals _, .locals _ =>
    beyond "whether two tables are equal"
  | a, b =>
    match integer? a, integer? b with
    | some i, some j => .ok (i == j)
    | some _, none => differUnless (isQuotient b)
    | none, some _ => differUnless (isQuotient a)
    | none, none => differUnless (isQuotient a && isQuotient b)

def equalItems : List Value → List Value → Computed Bool
  | a :: as, b :: bs => do
    if ← equals a b then equalItems as bs else return false
  | _, _ => .ok true

def entriesWithin : List (Text × Value) → List (Text × Value) → Computed Bool
  | [], _ => .ok true
  | (key, a) :: rest, bs =>
    match bs.lookup key with
    | some b => do
      if ← equals a b then entriesWithin rest bs else return false
    | none => .ok false

end

/-- Are two values one and the same? Equal numbers, texts and sequences can be, or can be not. -/
def same (a b : Value) : Computed Bool :=
  match a, b with
  | .none, .none => .ok true
  | .bool a, .bool b => .ok (a == b)
  | .builtin a, .builtin b => .ok (a == b)
  | .module a, .module b => .ok (a == b)
  | .type c, .type c' => .ok (c.isSame c')
  | .table i, .table j | .locals i, .locals j => .ok (i == j)
  | a, b =>
    if a.typeName ≠ b.typeName then .ok false
    else do
      if ← equals a b then beyond "whether two equal values are one" else return false

def orderTexts (s t : Text) : Ordering :=
  if precedes s t then .lt else if precedes t s then .gt else .eq

mutual

def order (sign : Text) : Value → Value → Computed Ordering
  | .str s, .str t => .ok (orderTexts s t)
  | .list as, .list bs => orderItems sign as bs
  | .tuple as, .tuple bs => orderItems sign as bs
  | a, b =>
    match integer? a, integer? b with
    | some i, some j => .ok (compare i j)
    | _, _ =>
      if isQuotient a || isQuotient b then beyond "what a quotient amounts to"
      else typeError ('\'' :: sign ++ "' not supported between instances of " ++ quotedType a
        ++ " and " ++ quotedType b)

def orderItems (sign : Text) : List Value → List Value → Computed Ordering
  | [], [] => .ok .eq
  | [], _ :: _ => .ok .lt
  | _ :: _, [] => .ok .gt
  | a :: as, b :: bs => do
    if ← equals a b then orderItems sign as bs else order sign a b

end

def ordered (sign : Text) (holds : Ordering → Bool) (a b : Value) : Computed Bool :=
  (order sign a b).map holds

def iterate : Value → Computed (List Value)
  | .list vs | .tuple vs => .ok vs
  | .str t => .ok (t.map fun c => .str [c])
  | .dict entries => .ok (entries.map fun e => .str e.1)
  | .range start stop step => .ok (rangeItems start stop step)
  | .table _ | .locals _ => beyond "the entries of a table"
  | v => typeError (quotedType v ++ " object is not iterable")

def isAmong (v : Value) : List Value → Computed Bool
  | [] => .ok false
  | w :: ws => do
    if ← equals w v then return true else isAmong v ws

/-- What is said of a value that cannot be a key. -/
def unhashable {α : Type} (v : Value) : Computed α :=
  match v with
  | .list _ | .dict _ | .table _ | .locals _ =>
    typeError ("unhashable type: " ++ quotedType v)
  | _ => beyond "a key that is no text"

def isMember (v : Value) : Value → Computed Bool
  | .list vs | .tuple vs => isAmong v vs
  | .dict entries =>
    match v with
    | .str key => .ok (Bindings.has entries key)
    | v => unhashable v
  | .str t =>
    match v with
    | .str part => .ok (occursIn part t)
    | v => typeError ("'in <string>' requires string as left operand, not " ++ v.typeName)
  | .range start stop step =>
    match integer? v with
    | some i =>
      let last := start + step * ((rangeLength start stop step : Int) - 1)
      .ok (step ≠ 0 && (i - start) % step = 0 && min start last ≤ i && i ≤ max start last
        && rangeLength start stop step ≠ 0)
    | none => if isQuotient v then beyond "what a quotient amounts to" else .ok false
  | .table _ | .locals _ => beyond "the entries of a table"
  | w => typeError ("argument of type " ++ quotedType w ++ " is not iterable")

def compareValues (op : CompareOp) (a b : Value) : Computed Bool :=
  match op with
  | .equal => equals a b
  | .unequal => (equals a b).map (!·)
  | .less => ordered "<" (·.isLT) a b
  | .lessEqual => ordered "<=" (·.isLE) a b
  | .greater => ordered ">" (·.isGT) a b
  | .greaterEqual => ordered ">=" (·.isGE) a b
  | .same => same a b
  | .notSame => (same a b).map (!·)
  | .member => isMember a b
  | .notMember => (isMember a b).map (!·)

def signOf : BinaryOp → Text
  | .add => "+" | .subtract => "-" | .multiply => "*" | .divide => "/" | .floorDivide => "//"
  | .remainder => "%"

def unsupported {α : Type} (op : BinaryOp) (a b : Value) : Computed α :=
  typeError ("unsupported operand type(s) for " ++ signOf op ++ ": " ++ quotedType a ++ " and "
    ++ quotedType b)

/-- Only values of one type can be put in a row. -/
def notConcatenable (a b : Value) : Computed Value :=
  typeError ("can only concatenate " ++ a.typeName ++ " (not \"" ++ b.typeName ++ "\") to "
    ++ a.typeName)

def divisionByZero {α : Type} (message : Text) : Computed α := raising "ZeroDivisionError" message

/-- Quotients of numbers up to here are numbers again, and only those of zero are zero. -/
def quotientLimit : Nat := 0x20000000000000

def numberOp (op : BinaryOp) (a b : Int) : Computed Value :=
  match op with
  | .add => .ok (.int (a + b))
  | .subtract => .ok (.int (a - b))
  | .multiply => .ok (.int (a * b))
  | .divide =>
    if b = 0 then divisionByZero "division by zero"
    else if a.natAbs ≤ quotientLimit ∧ b.natAbs ≤ quotientLimit then .ok (.quotient a b)
    else beyond "a quotient of long numbers"
  | .floorDivide =>
    if b = 0 then divisionByZero "integer division or modulo by zero" else .ok (.int (a.fdiv b))
  | .remainder =>
    if b = 0 then divisionByZero "integer modulo by zero" else .ok (.int (a.fmod b))

/-- No sequence has a place from here on. -/
def indexLimit : Int := 0x8000000000000000

/-- No sequence that is made by repeating one is longer. -/
def repetitionLimit : Nat := 1000000

def repeated {α : Type} (n : Int) (items : List α) : Computed (List α) :=
  if n < -indexLimit then
    raising "OverflowError" "cannot fit 'int' into an index-sized integer"
  else if repetitionLimit < n.toNat * items.length ∨ repetitionLimit < n then
    beyond "a very long sequence"
  else .ok (List.replicate n.toNat items).flatten

/-- A sequence so many times in a row. -/
def multiple (sequence count other : Value) : Computed Value :=
  match sequence, integer? count with
  | .str t, some n => (repeated n t).map .str
  | .list vs, some n => (repeated n vs).map .list
  | .tuple vs, some n => (repeated n vs).map .tuple
  | .str _, none | .list _, none | .tuple _, none =>
    typeError ("can't multiply sequence by non-int of type " ++ quotedType count)
  | _, _ => unsupported .multiply sequence other

def isSequence : Value → Bool
  | .str _ | .list _ | .tuple _ => true
  | _ => false

def applyBinary (op : BinaryOp) (a b : Value) : Computed Value :=
  match integer? a, integer? b with
  | some x, some y => numberOp op x y
  | _, _ =>
    if isQuotient a || isQuotient b then beyond "what a quotient amounts to"
    else match op, a, b with
    | .add, .str s, .str t => .ok (.str (s ++ t))
    | .add, .list as, .list bs => .ok (.list (as ++ bs))
    | .add, .tuple as, .tuple bs => .ok (.tuple (as ++ bs))
    | .add, .str s, b => notConcatenable (.str s) b
    | .add, .list as, b => notConcatenable (.list as) b
    | .add, .tuple as, b => notConcatenable (.tuple as) b
    | .multiply, a, b =>
      if isSequence a then multiple a b b
      else if isSequence b then multiple b a a
      else unsupported op a b
    | .remainder, .str _, _ => beyond "a text with places for values"
    | op, a, b => unsupported op a b

def negated (v : Value) : Computed Value :=
  match integer? v with
  | some i => .ok (.int (-i))
  | none =>
    if isQuotient v then beyond "what a quotient amounts to"
    else typeError ("bad operand type for unary -: " ++ quotedType v)

/-- The place in a list that an index means; negative ones count from the end. -/
def placeOf? (length : Nat) (i : Int) : Option Nat :=
  let j := if i < 0 then i + length else i
  if 0 ≤ j ∧ j < length then some j.toNat else none

/-- How messages name a sequence and say what its indices must be. -/
structure IndexWords where
  noun : Text
  wrongType : Value → Text

def listWords (noun : Text) : IndexWords where
  noun := noun
  wrongType key := noun ++ " indices must be integers or slices, not " ++ key.typeName

def textWords : IndexWords where
  noun := "string"
  wrongType key := "string indices must be integers, not " ++ quotedType key

def indexed (words : IndexWords) (items : List Value) (key : Value) : Computed Value :=
  match integer? key with
  | none => typeError (words.wrongType key)
  | some i =>
    if i < -indexLimit ∨ indexLimit ≤ i then
      raising "IndexError" ("cannot fit " ++ quotedType key ++ " into an index-sized integer")
    else
      match (placeOf? items.length i).bind (items[·]?) with
      | some v => .ok v
      | none => raising "IndexError" (words.noun ++ " index out of range")

def missingKey {α : Type} (key : Value) : Computed α :=
  .error (.thrown ⟨.builtin "KeyError", [key]⟩)

def entryOf (entries : Bindings) (key : Value) : Computed Value :=
  match key with
  | .str k =>
    match entries.get? k with
    | some v => .ok v
    | none => missingKey key
  | key => unhashable key

def itemOf (v key : Value) : Computed Value :=
  match v with
  | .list vs => indexed (listWords "list") vs key
  | .tuple vs => indexed (listWords "tuple") vs key
  | .str t => indexed textWords (t.map fun c => .str [c]) key
  | .dict entries => entryOf entries key
  | .range .. | .type _ | .table _ | .locals _ => beyond ("the items of a " ++ v.typeName)
  | .builtin b =>
    if b.isClass then beyond "the items of a class"
    else typeError (quotedType v ++ " object is not subscriptable")
  | v => typeError (quotedType v ++ " object is not subscriptable")

/-- Why no item of the value can be given another value. -/
def itemsFixed {α : Type} (v : Value) : Computed α :=
  match v with
  | .list _ | .dict _ | .table _ | .locals _ => beyond "a change of a list or a table"
  | v => typeError (quotedType v ++ " object does not support item assignment")

def lengthOf (v : Value) : Computed Nat :=
  match v with
  | .list vs | .tuple vs => .ok vs.length
  | .str t => .ok t.length
  | .dict entries => .ok entries.length
  | .range start stop step =>
    let length := rangeLength start stop step
    if (length : Int) < indexLimit then .ok length
    else raising "OverflowError" "Python int too large to convert to C ssize_t"
  | .table _ | .locals _ => beyond "the length of a table"
  | v => typeError ("object of type " ++ quotedType v ++ " has no len()")

end EmbeddedTests.Snippet
