import EmbeddedTests.Text
/-!
Lines of files: what ends them, and how they are told apart.
-/
namespace EmbeddedTests.Text

def unifyLineEnds : Text → Text
  | [] => []
  | '\r' :: '\n' :: rest => '\n' :: unifyLineEnds rest
  | c :: rest => (if c = '\r' then '\n' else c) :: unifyLineEnds rest

def feedLines : Text → List Text
  | [] => []
  | c :: rest =>
    if c = '\n' then ['\n'] :: feedLines rest
    else match feedLines rest with
      | [] => [[c]]
      | line :: later => (c :: line) :: later

def fromLineStarts (t : Text) : List Text :=
  t :: later t
where
  later : Text → List Text
    | [] => []
    | c :: rest => if c = '\n' then rest :: later rest else later rest

end EmbeddedTests.Text
