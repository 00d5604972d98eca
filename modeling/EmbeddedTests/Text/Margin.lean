import EmbeddedTests.Text.Blank
/-!
Margins of a passage: `dedent` takes the blank start that all lines share away from them, `indent`
puts one before every line that is not blank.
-/
namespace EmbeddedTests.Text

def commonStart : Text → Text → Text
  | a :: s, b :: t => if a = b then a :: commonStart s t else []
  | _, _ => []

def margin (line : Text) : Text := line.takeWhile isMargin

/-- A line of spaces and tabs only does not count for the common margin. -/
def isBare (line : Text) : Bool := line.all isMargin

def commonMargin : List Text → Text
  | [] => []
  | first :: others => others.foldl commonStart first

/-- Lines, divided by line feeds only, without their common margin; bare lines become empty. -/
def dedentLines (lines : List Text) : List Text :=
  let width := (commonMargin ((lines.filter (!isBare ·)).map margin)).length
  lines.map fun line => if isBare line then [] else line.drop width

def dedent (t : Text) : Text := joinLines (dedentLines (splitOn '\n' t))

/-- Where a line ends for `indent`: also at the vertical tab, the form feed, the information
separators but the last, next line, and the line and paragraph separators. -/
def endsLine (c : Char) : Bool :=
  let n := c.toNat
  (10 ≤ n && n ≤ 13) || (28 ≤ n && n ≤ 30) || n == 0x85 || n == 0x2028 || n == 0x2029

/-- The lines of a text, each with the character or the carriage return and line feed that
ends it. -/
def brokenLines : Text → List Text
  | [] => []
  | '\r' :: '\n' :: rest => ['\r', '\n'] :: brokenLines rest
  | c :: rest =>
    if endsLine c then [c] :: brokenLines rest
    else match brokenLines rest with
      | [] => [[c]]
      | line :: lines => (c :: line) :: lines

/-- `front` before every line that has a character which is not blank. -/
def indent (front t : Text) : Text :=
  ((brokenLines t).map fun line => if allBlank line then line else front ++ line).flatten

def lines (t : Text) : List Text := (brokenLines t).map (dropEnd endsLine)

def depth (line : Text) : Nat := (line.takeWhile isBlank).length

end EmbeddedTests.Text
