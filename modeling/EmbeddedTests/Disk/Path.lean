import EmbeddedTests.Text
/-!
Paths as texts: names with slashes between them, after a slash when they start at the root.
-/
namespace EmbeddedTests.Path

open Text

def isAbsolute (path : Text) : Bool := startsWith "/" path

def parts (path : Text) : List Text := splitOn '/' path

def isIdle (part : Text) : Bool := part.isEmpty || part == ['.']

def tidyRoot (path : Text) : Text :=
  match (path.takeWhile (· == '/')).length with
  | 0 => []
  | 2 => "//"
  | _ => "/"

/-- Without idle names; two dots stay, since what they undo may be a link. -/
def tidy (path : Text) : Text :=
  match tidyRoot path ++ joinWith "/" ((parts path).filter (!isIdle ·)) with
  | [] => "."
  | tidied => tidied

/-- The last name. -/
def baseName (path : Text) : Text :=
  match cutAtLast? (· == '/') path with
  | some (_, name) => name
  | none => path

/-- The last name without its last extension; dots at its front do not start an extension. -/
def stem (path : Text) : Text :=
  let name := baseName path
  match cutAtLast? (· == '.') name with
  | some (front, _) => if front.all (· == '.') then name else front
  | none => name

def join (directory path : Text) : Text :=
  if isAbsolute path then path
  else if directory.isEmpty || endsWith "/" directory then directory ++ path
  else directory ++ '/' :: path

end EmbeddedTests.Path
