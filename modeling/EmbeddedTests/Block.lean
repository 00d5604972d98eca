import EmbeddedTests.Header
/-!
Blocks of a test buffer. A block's keyword says what it is; `Content` has one constructor for each
kind of work, so that only the fields that a block of that kind has can be asked for.
-/
namespace EmbeddedTests

inductive CheckKind where
  | assert | fail | test | xtest
  deriving DecidableEq, Repr

inductive ExpectKind where
  | error | warning
  deriving DecidableEq, Repr

inductive BlockKind where
  | shared | function | endfunction | assert | fail | error | warning | test | xtest
  | testif | demo | comment | unknown
  deriving DecidableEq, Repr

namespace BlockKind

def all : List BlockKind :=
  [shared, function, endfunction, assert, fail, error, warning, test, xtest, testif, demo,
    comment, unknown]

def name : BlockKind → Text
  | shared => "shared" | function => "function" | endfunction => "endfunction"
  | assert => "assert" | fail => "fail" | error => "error" | warning => "warning"
  | test => "test" | xtest => "xtest" | testif => "testif" | demo => "demo"
  | comment => "comment" | unknown => "unknown"

def ofName? (name : Text) : Option BlockKind := all.find? (·.name == name)

def ofCheck : CheckKind → BlockKind
  | .assert => assert | .fail => fail | .test => test | .xtest => xtest

def ofExpect : ExpectKind → BlockKind
  | .error => error | .warning => warning

end BlockKind

/-- What an error or warning block expects: a message that matches a pattern, or a class that
goes by an identifier. -/
inductive Expectation where
  | matching (pattern : Text)
  | identified (id : Text)
  deriving DecidableEq, Repr

/-- The pattern that every message matches, an empty one too. -/
def anything : Text := ['.']

namespace Expectation

def label (kind : ExpectKind) : Expectation → Text
  | identified id => "id=" ++ id
  | matching pattern =>
    if pattern ≠ anything then "<" ++ pattern ++ ">"
    else match kind with
      | .error => "an error"
      | .warning => "a warning"

end Expectation

/-- What a function block's first line declares. -/
structure Signature where
  name : Text
  outputs : List Text
  deriving DecidableEq, Repr

inductive Content where
  | shared (names : List Text) (code : Text)
  /-- Without a signature the first line has no function name. -/
  | function (signature : Option Signature) (code : Text)
  | functionEnd
  | check (kind : CheckKind) (bug : BugTag) (code : Text)
  | expect (kind : ExpectKind) (target : Expectation) (code : Text)
  | guarded (header : Except HeaderError Header) (code : Text)
  | demo (code : Text)
  | comment
  | unknown (keyword : Text)

structure Block where
  raw : Text
  content : Content

namespace Content

def kind : Content → BlockKind
  | shared .. => .shared
  | function .. => .function
  | functionEnd => .endfunction
  | check k .. => .ofCheck k
  | expect k .. => .ofExpect k
  | guarded .. => .testif
  | demo _ => .demo
  | comment => .comment
  | unknown _ => .unknown

def code : Content → Text
  | shared _ code | function _ code | check _ _ code | expect _ _ code | guarded _ code
  | demo code => code
  | functionEnd | comment | unknown _ => []

/-- Tests count when they run; the other blocks prepare them. -/
def isTest : Content → Bool
  | check .. | expect .. | guarded .. | unknown _ => true
  | shared .. | function .. | functionEnd | demo _ | comment => false

def isKnownFailure : Content → Bool
  | check .xtest _ _ => true
  | check _ bug _ => !bug.id.isEmpty
  | guarded (.ok header) _ => !header.bug.id.isEmpty
  | _ => false

end Content

namespace Block

def kind (b : Block) : BlockKind := b.content.kind

def isTest (b : Block) : Bool := b.content.isTest

def isKnownFailure (b : Block) : Bool := b.content.isKnownFailure

end Block
end EmbeddedTests
