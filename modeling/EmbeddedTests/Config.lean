import EmbeddedTests.Text.CharacterNames
import EmbeddedTests.Text.LetterCase
import EmbeddedTests.Text.Template
/-!
Settings, and reading them from the environment. A variable that is missing, empty or malformed
leaves its setting at the default.
-/
namespace EmbeddedTests

open Text

structure Config where
  marker : Text := "#!"
  /-- Where a bug can be looked up; a template with the bug's id. -/
  trackerUrl : Text := "https://bugs.python.org/issue\x7bbug_id\x7d"
  /-- A file counts as failed when its hard failures exceed this. -/
  failThreshold : Int := 2
  shuffleSeed : Option Int := none
  features : List Text := []
  logLevel : Text := "WARNING"
  importModule : Bool := true

/-- What texts and patterns are read with: the names of characters, and the attributes of texts. -/
structure Library where
  characters : CharacterNames := latinNames
  attributes : TextAttributes := Template.namedAttributes

abbrev Environment := Text → Option Text

namespace Environment

/-- A variable with a value that is not empty. -/
def filled? (env : Environment) (name : Text) : Option Text :=
  (env name).filter (!·.isEmpty)

def flag (env : Environment) (name : Text) (default : Bool) : Bool :=
  match env name with
  | none => default
  | some value =>
    let word := lower (trim value)
    if word ∈ ["1".toList, "true", "yes", "on"] then true
    else if word ∈ ["0".toList, "false", "no", "off"] then false
    else default

def integer? (env : Environment) (name : Text) : Option Int := (env name).bind readInt?

def items (env : Environment) (name : Text) : List Text :=
  ((splitOn ',' ((env name).getD [])).map trim).filter (!·.isEmpty)

end Environment

namespace Config

def markerLength : Nat := 2

def variableNames : List Text :=
  ["PYBIST_MARKER", "PYBIST_TRACKER_URL", "PYBIST_FAIL_THRESHOLD", "PYBIST_SHUFFLE_SEED",
    "PYBIST_FEATURES", "PYBIST_LOG_LEVEL", "PYBIST_IMPORT_MODULE"]

def ofEnvironment (env : Environment) : Config :=
  let default : Config := {}
  { marker := ((env.filled? "PYBIST_MARKER").filter (·.length == markerLength)).getD default.marker
    trackerUrl := (env.filled? "PYBIST_TRACKER_URL").getD default.trackerUrl
    failThreshold := (env.integer? "PYBIST_FAIL_THRESHOLD").getD default.failThreshold
    shuffleSeed := env.integer? "PYBIST_SHUFFLE_SEED"
    features := env.items "PYBIST_FEATURES"
    logLevel := upper ((env.filled? "PYBIST_LOG_LEVEL").getD default.logLevel)
    importModule := env.flag "PYBIST_IMPORT_MODULE" default.importModule }

def bugUrl (config : Config) (attributes : TextAttributes) (id : Text) :
    Except TemplateError Text :=
  if allDigits id then Template.render attributes "bug_id" id config.trackerUrl else .ok id

end Config
end EmbeddedTests
