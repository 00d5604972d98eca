import EmbeddedTests.CommandLine
/-!
What a run of the program can ask of the file system: the paths of its arguments, the places of
the modules that they name, and the places of the modules that stand for features.
-/
namespace EmbeddedTests

open Text

def Path.stages (path : Text) : List Text :=
  let rec go (front : Text) : List Text → List Text
    | [] => []
    | part :: later =>
      let here := if front.isEmpty then part else Path.join front part
      if part.isEmpty then go (if front.isEmpty then "/" else front) later
      else here :: go here later
  go [] (Path.parts path)

def Disk.nominalPlace (d : Disk) (path : Text) : Place :=
  (Path.parts path).foldl Disk.follow (if Path.isAbsolute path then [] else d.current)

def Disk.enter (d : Disk) (path : Text) : DiskEntry → Disk
  | .file bytes => d.put (d.nominalPlace path) bytes
  | .directory => { d with directories := d.directories ++ [d.nominalPlace path] }

def modulePaths (name : Text) : List Text :=
  let rec go (front : Text) : List Text → List Text
    | [] => []
    | part :: later =>
      let here := if front.isEmpty then part else Path.join front part
      [here, Path.join here "__init__.py", here ++ ".py"] ++ go here later
  if '/' ∈ name || name.isEmpty then [] else go [] (splitOn '.' name)

namespace Arguments

def paths (a : Arguments) : List Text :=
  let named := a.name.elim [] fun name => Path.stages name ++ modulePaths name
  named ++ a.log.elim [] Path.stages

end Arguments

def featuresIn (buffer : Text) : List Text :=
  ((parseBlocks buffer).map fun b =>
    match b.content with
    | .guarded (.ok header) _ => header.features
    | _ => []).flatten

def featurePaths (config : Config) (disk : Disk) : List Text :=
  let features := disk.files.map fun (place, _) =>
    match disk.readTests place.path config.marker with
    | .ok buffer => featuresIn buffer
    | .error _ => []
  (features.flatten.map fun f => modulePaths (lower (featureName f))).flatten

end EmbeddedTests
