import EmbeddedTests.Text.Blank
import EmbeddedTests.Text.Quoted
/-!
Headers of guarded tests: features that must be available, then a condition after a semicolon,
then a bug tag in angle brackets. Each part may be left out.

Features are separated by blanks or by one comma. The condition runs up to the bug tag that ends
the header, if one does, so it may have angle brackets of its own; it is as short as it can be.
-/
namespace EmbeddedTests

/-- The bug that a test is known to fail for. An empty `id` is no bug; `fixed` is written as an
asterisk before the id. -/
structure BugTag where
  id : Text := []
  fixed : Bool := false
  deriving DecidableEq, Repr

namespace BugTag

def ofText : Text → BugTag
  | '*' :: id => ⟨id, true⟩
  | id => ⟨id, false⟩

def render (tag : BugTag) : Text :=
  "<" ++ (if tag.fixed then "*" ++ tag.id else tag.id) ++ ">"

end BugTag

structure Header where
  features : List Text := []
  condition : Text := []
  bug : BugTag := {}
  deriving DecidableEq, Repr

structure HeaderError where
  line : Text
  deriving DecidableEq, Repr

def HeaderError.message (e : HeaderError) : Text :=
  "malformed testif header: " ++ Text.quoted e.line

def featureName (name : Text) : Text := (Text.after? "HAVE_" name).getD name

namespace Header

open Text

def isNameStart (c : Char) : Bool := c.isAlpha || c == '_'

def isNamePart (c : Char) : Bool := c.isAlphanum || c == '_'

def isName : Text → Bool
  | [] => false
  | c :: rest => isNameStart c && rest.all isNamePart

/-- The names in a feature list. Between two commas, and before and after a comma, there is at
least one name. -/
def readFeatures? (t : Text) : Option (List Text) :=
  let parts := (splitOn ',' t).map (runsOf isMargin)
  if parts.all (·.all isName) && (parts.length == 1 || parts.all (!·.isEmpty)) then
    some parts.flatten
  else none

def isBugChar (c : Char) : Bool := c != '<' && c != '>' && !isBlank c

def readBug? (t : Text) : Option (BugTag × Text) :=
  match t.dropWhile isBugChar with
  | '>' :: rest => some (BugTag.ofText (t.takeWhile isBugChar), rest)
  | _ => none

def readEnd? (space : Char → Bool) (t : Text) : Option BugTag :=
  match t.dropWhile space with
  | [] => some {}
  | '<' :: rest =>
    match readBug? rest with
    | some (bug, rest) => if rest.all space then some bug else none
    | none => none
  | _ => none

def readCondition? : Text → Option (Text × Text)
  | [] => some ([], [])
  | c :: rest =>
    if (readEnd? isBlank (c :: rest)).isSome then some ([], c :: rest)
    else if c = ';' then none
    else (readCondition? rest).map fun (condition, tail) => (c :: condition, tail)

def readGuard? (t : Text) : Option (Text × BugTag) :=
  match t.dropWhile isMargin with
  | [] => none
  | c :: rest =>
    if c = ';' || isBlank c then none
    else
      match readCondition? rest with
      | none => none
      | some (condition, tail) => (readEnd? isMargin tail).map fun bug => (c :: condition, bug)

def endsFeatures (c : Char) : Bool := c == ';' || c == '<'

def read? (t : Text) : Option Header := do
  let features ← readFeatures? (t.takeWhile (!endsFeatures ·))
  let features := features.map featureName
  match t.dropWhile (!endsFeatures ·) with
  | ';' :: rest =>
    let (condition, bug) ← readGuard? rest
    return ⟨features, condition, bug⟩
  | tail =>
    let bug ← readEnd? isMargin tail
    return ⟨features, [], bug⟩

def parse (line : Text) : Except HeaderError Header :=
  match read? (trim line) with
  | some header => .ok header
  | none => .error ⟨trim line⟩

/-- The written form with every feature's long name and with a bug tag always. -/
def render (h : Header) : Text :=
  joinWith ", " (h.features.map fun name => "HAVE_" ++ name)
    ++ (if h.condition = [] then [] else ';' :: ' ' :: h.condition)
    ++ " " ++ h.bug.render

end Header
end EmbeddedTests
