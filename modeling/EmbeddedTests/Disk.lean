import EmbeddedTests.Disk.Path
import EmbeddedTests.Text.LineFeed
import EmbeddedTests.Text.Quoted
import EmbeddedTests.Text.Utf8
/-!
Files in directories. Every directory above a file or a directory is there, and so is the current
one, in which paths start that do not start at the root.
-/
namespace EmbeddedTests

open Text

abbrev Place := List Text

def Place.path (p : Place) : Text := '/' :: joinWith "/" p

structure Disk where
  files : List (Place × Bytes) := []
  directories : List Place := []
  current : Place := []

inductive DiskEntry where
  | file (bytes : Bytes)
  | directory
  deriving DecidableEq, Repr

/-- Why a path cannot be opened. -/
inductive DiskFault where
  | missing | isDirectory | notDirectory
  deriving DecidableEq, Repr

namespace DiskFault

def reason : DiskFault → Text
  | missing => "No such file or directory"
  | isDirectory => "Is a directory"
  | notDirectory => "Not a directory"

def number : DiskFault → Nat
  | missing => 2
  | isDirectory => 21
  | notDirectory => 20

def kind : DiskFault → Text
  | missing => "FileNotFoundError"
  | isDirectory => "IsADirectoryError"
  | notDirectory => "NotADirectoryError"

def report (f : DiskFault) (path : Text) : Text :=
  "[Errno " ++ Text.ofNat f.number ++ "] " ++ f.reason ++ ": " ++ quoted path

end DiskFault

namespace Disk

def isDirectoryAt (d : Disk) (p : Place) : Bool :=
  p.isPrefixOf d.current || d.directories.any p.isPrefixOf
    || d.files.any fun (q, _) => p.isPrefixOf q && p != q

def entry? (d : Disk) (p : Place) : Option DiskEntry :=
  match d.files.find? (·.1 == p) with
  | some (_, bytes) => some (.file bytes)
  | none => if d.isDirectoryAt p then some .directory else none

def follow (p : Place) (part : Text) : Place :=
  if Path.isIdle part then p
  else if part = "..".toList then p.dropLast
  else p ++ [part]

/-- Follows names, each of which but the last has to lead to a directory. -/
def walk (d : Disk) (p : Place) : List Text → Except DiskFault Place
  | [] => .ok p
  | part :: later =>
    match d.entry? p with
    | none => .error .missing
    | some (.file _) => .error .notDirectory
    | some .directory => d.walk (follow p part) later

/-- The place that a path names; there need not be anything. -/
def place (d : Disk) (path : Text) : Except DiskFault Place :=
  if path.isEmpty then .error .missing
  else d.walk (if Path.isAbsolute path then [] else d.current) (Path.parts path)

def find? (d : Disk) (path : Text) : Option DiskEntry :=
  match d.place path with
  | .ok p => d.entry? p
  | .error _ => none

def isFile (d : Disk) (path : Text) : Bool :=
  match d.find? path with
  | some (.file _) => true
  | _ => false

def isDirectory (d : Disk) (path : Text) : Bool := d.find? path == some .directory

def read (d : Disk) (path : Text) : Except DiskFault Bytes := do
  match d.entry? (← d.place path) with
  | none => .error .missing
  | some .directory => .error .isDirectory
  | some (.file bytes) => .ok bytes

def put (d : Disk) (p : Place) (bytes : Bytes) : Disk :=
  if d.files.any (·.1 == p) then
    { d with files := d.files.map fun file => if file.1 = p then (p, bytes) else file }
  else { d with files := d.files ++ [(p, bytes)] }

def placeForFile (d : Disk) (path : Text) : Except DiskFault Place := do
  if path.isEmpty then .error .missing
  else
    let bare := dropEnd (· == '/') path
    let p ← d.walk (if Path.isAbsolute path then [] else d.current) (Path.parts bare)
    if bare ≠ path || d.entry? p = some .directory then .error .isDirectory
    else .ok p

def write (d : Disk) (path : Text) (t : Text) : Except DiskFault Disk := do
  return d.put (← d.placeForFile path) (encodeUtf8 t)

def absolute (d : Disk) (path : Text) : Text := Path.join d.current.path path

end Disk

/-- Why a text cannot be read from a file. -/
inductive ReadFault where
  | unopened (f : DiskFault)
  | undecodable (e : Utf8Error)
  deriving DecidableEq, Repr

namespace ReadFault

def reason : ReadFault → Text
  | unopened f => f.reason
  | undecodable e => e.message

def report (path : Text) : ReadFault → Text
  | unopened f => f.report path
  | undecodable e => e.message

end ReadFault

/-- The text of a file, decoded at once or in pieces, with line feeds only. -/
def Disk.readText (d : Disk) (path : Text) (decode : Bytes → Except Utf8Error Text) :
    Except ReadFault Text := do
  let bytes ← (d.read path).mapError .unopened
  let t ← (decode bytes).mapError .undecodable
  return unifyLineEnds t

end EmbeddedTests
