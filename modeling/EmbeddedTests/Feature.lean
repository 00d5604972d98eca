import EmbeddedTests.Header
import EmbeddedTests.Journal
/-!
Queries for the features that guarded tests need.
-/
namespace EmbeddedTests

structure FeatureQuery where
  available : Text → Bool
  /-- What asking for a feature is logged as. -/
  records : Text → Journal := fun _ => []

namespace FeatureQuery

/-- Only the features in the list. -/
def listed (features : List Text) : FeatureQuery := ⟨fun f => f ∈ features, fun _ => []⟩

/-- A feature is available when it is forced on, in any case, or else when there is a module of
its name in small letters. -/
def standard (forced : List Text) (hasModule : Text → Bool) : FeatureQuery :=
  let available (name : Text) : Bool :=
    let small := Text.lower (featureName name)
    small ∈ forced.map (fun f => Text.lower (featureName f)) || hasModule small
  { available := available
    records := fun name =>
      [⟨.debug, .features,
        "feature " ++ name ++ ": " ++ (if available name then "available".toList else "missing")⟩] }

def allAvailable (q : FeatureQuery) : List Text → Bool × Journal
  | [] => (true, [])
  | f :: rest =>
    if q.available f then
      let (all, journal) := q.allAvailable rest
      (all, q.records f ++ journal)
    else (false, q.records f)

end FeatureQuery
end EmbeddedTests
