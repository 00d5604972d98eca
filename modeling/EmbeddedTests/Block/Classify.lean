import EmbeddedTests.Block
import EmbeddedTests.Block.Layout
import EmbeddedTests.Text.Identifier
/-!
From the text of a block to what it is. The keyword is the longest run of letters at its start.
-/
namespace EmbeddedTests

open Text

/-- A bug tag at the start, and what follows it; without one, the whole text. -/
def takeBug (t : Text) : BugTag × Text :=
  match trimStart t with
  | '<' :: rest =>
    match cutAt? '>' rest with
    | some (tag, rest) => (BugTag.ofText tag, rest)
    | none => ({}, t)
  | _ => ({}, t)

/-- A pattern in angle brackets or an identifier after `id=` at the start, and what follows it;
with neither, anything is expected. -/
def takeExpectation (t : Text) : Expectation × Text :=
  match trimStart t with
  | '<' :: rest =>
    match cutAt? '>' rest with
    | some (pattern, rest) => (.matching pattern, rest)
    | none => (.matching anything, t)
  | 'i' :: 'd' :: '=' :: rest =>
    match firstWord? rest with
    | some (id, rest) => (.identified id, rest)
    | none => (.matching anything, t)
  | _ => (.matching anything, t)

/-- The parts of a function block's first line: what comes before the name, the name, and what
comes after it. The name ends at the first opening parenthesis, blanks before it apart, and starts
after the last space or equals sign before that. -/
def functionParts? (header : Text) : Option (Text × Text × Text) :=
  match cutAt? '(' header with
  | none => none
  | some (before, _) =>
    let before := trimEnd before
    match cutAtLast? (fun c => c == ' ' || c == '=') before with
    | none => none
    | some (front, name) =>
      if isIdentifier name then
        some (before.take (front.length + 1), name, header.drop before.length)
      else none

def functionName? (header : Text) : Option (Nat × Nat) :=
  (functionParts? header).map fun (front, name, _) =>
    (front.length, front.length + name.length)

def isNameSeparator (c : Char) : Bool := isBlank c || c == ','

def names (t : Text) : List Text := runsOf isNameSeparator t

def functionOutputs (front : Text) : List Text :=
  match cutAt? '=' (front.drop "function".length) with
  | none => []
  | some (outputs, _) => names (strip (fun c => c == '[' || c == ']') (trim outputs))

def functionCode (name parameters : Text) (outputs : List Text) (body : Text) : Text :=
  let parameters := trimEnd (dropEnd (· == ':') (trim parameters))
  let written := bodyText body
  let body := if allBlank written then [] else [written]
  let result : List Text :=
    if outputs.isEmpty then [] else ["return " ++ joinWith ", " outputs]
  let body := match body ++ result with
    | [] => ["pass".toList]
    | body => body
  "def " ++ name ++ parameters ++ ":\n" ++ indent "    " (joinLines body)

def functionContent (raw : Text) : Content :=
  match functionParts? (firstLine raw) with
  | none => .function none []
  | some (front, name, parameters) =>
    let outputs := functionOutputs front
    .function (some ⟨name, outputs⟩) (functionCode name parameters outputs (laterLines raw))

def laterCode (t : Text) : Text :=
  let later := laterLines t
  if later.isEmpty then [] else normalizeCode ('\n' :: later)

def beforeComment (line : Text) : Text := line.takeWhile (· ≠ '#')

def sharedContent (t : Text) : Content :=
  .shared (names (trim (beforeComment (firstLine t)))) (laterCode t)

def guardedContent (t : Text) : Content :=
  .guarded (Header.parse (beforeComment (firstLine t))) (laterCode t)

def isKeywordChar (c : Char) : Bool := c.isAlpha

def keyword (raw : Text) : Text := raw.takeWhile isKeywordChar

def assertionContent (kind : CheckKind) (word t : Text) : Content :=
  let (bug, rest) := takeBug t
  .check kind bug (normalizeCode (word ++ rest))

def testContent (kind : CheckKind) (t : Text) : Content :=
  let (bug, rest) := takeBug t
  .check kind bug (normalizeCode rest)

def expectContent (kind : ExpectKind) (t : Text) : Content :=
  let (target, rest) := takeExpectation t
  .expect kind target (normalizeCode rest)

/-- The kind that a keyword names. Comments and unknown blocks have no keyword. -/
def keywordKind? (word : Text) : Option BlockKind :=
  [BlockKind.demo, .shared, .function, .endfunction, .assert, .fail, .test, .xtest, .error,
    .warning, .testif].find? (·.name == word)

def classify (raw : Text) : Content :=
  let word := keyword raw
  let rest := raw.drop word.length
  match keywordKind? word with
  | some .demo => .demo rest
  | some .shared => sharedContent rest
  | some .function => functionContent raw
  | some .endfunction => .functionEnd
  | some .assert => assertionContent .assert word rest
  | some .fail => assertionContent .fail word rest
  | some .test => testContent .test rest
  | some .xtest => testContent .xtest rest
  | some .error => expectContent .error rest
  | some .warning => expectContent .warning rest
  | some .testif => guardedContent rest
  | _ =>
    match raw with
    | '#' :: _ => .comment
    | _ => .unknown word

def parseBlock (raw : Text) : Block := ⟨raw, classify raw⟩

def parseBlocks (buffer : Text) : List Block := (splitBlocks buffer).map parseBlock

end EmbeddedTests
