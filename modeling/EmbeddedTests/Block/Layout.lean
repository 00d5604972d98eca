import EmbeddedTests.Text.Alphanumeric
import EmbeddedTests.Text.Margin
/-!
The layout of a test buffer. A line whose first character is not blank starts a block; empty lines
and lines that start with a blank continue it. Within a block, `normalizeCode` makes runnable code
of what follows the keyword: the first line is trimmed, the others lose their common margin.
-/
namespace EmbeddedTests

open Text

def startsBlock : Text → Bool
  | [] => false
  | c :: _ => !isBlank c

def gatherBlocks : List Text → List Text × List (List Text)
  | [] => ([], [])
  | line :: later =>
    let (continuing, blocks) := gatherBlocks later
    if startsBlock line then ([], (line :: continuing) :: blocks)
    else (line :: continuing, blocks)

/-- One line feed at the end of a buffer ends its last line. -/
def dropFinalFeed : Text → Text
  | [] => []
  | ['\n'] => []
  | c :: rest => c :: dropFinalFeed rest

def splitBlocks (buffer : Text) : List Text :=
  (gatherBlocks (splitOn '\n' (dropFinalFeed buffer))).2.map joinLines

def isClause (line : Text) : Bool :=
  let wordEnds (t : Text) : Bool := match t with
    | [] => true
    | c :: _ => !isWordChar c
  let colonFollows (t : Text) : Bool := match trimStart t with
    | ':' :: _ => true
    | _ => false
  ((after? "elif" line).elim false wordEnds) || ((after? "else" line).elim false colonFollows)
    || ((after? "except" line).elim false wordEnds)
    || ((after? "finally" line).elim false colonFollows)

/-- A line under a first line that ends in a colon: one step further in, unless it is a clause of
that line's statement, which is a clause written less far in than the body. -/
def nestLine (bodyDepth : Nat) (line : Text) : Text :=
  let stripped := trimStart line
  if !stripped.isEmpty && depth line < bodyDepth && isClause stripped then stripped
  else indent "    " line

def nestLines (lines : List Text) : List Text :=
  lines.map (nestLine (depth (lines.headD [])))

def bodyText (later : Text) : Text := strip (· == '\n') (dedent later)

/-- What the first line contributes; a comment contributes nothing. -/
def leadText (line : Text) : Text :=
  match trim line with
  | '#' :: _ => []
  | lead => lead

def joinCode (lead body : Text) : Text :=
  if allBlank body then lead
  else if lead.isEmpty then trimEnd body
  else if endsWith ":" lead then
    lead ++ "\n" ++ joinLines (nestLines (splitOn '\n' (trimEnd body)))
  else lead ++ "\n" ++ trimEnd body

def normalizeCode (t : Text) : Text :=
  joinCode (leadText (firstLine t)) (bodyText (laterLines t))

end EmbeddedTests
