import FleetScore.Manifest.FeatureManifest
import FleetScore.Feature.Parity
import FleetScore.Storage.FileTree
import FleetScore.Telemetry.Event

/-!
# Checking a manifest file

A manifest file is loaded and held against the canonical features.  An absent file
is an absent manifest and never an empty one: a deployment that lost its manifest
must not look like one that expects no features.
-/

namespace FleetScore
namespace FeatureManifest

/-- Loads a manifest file. -/
def load (files : FileTree) (path : Path) : Except Failure FeatureManifest :=
  match files.readText path with
  | .ok text => ofText text
  | .error .notFound => .error (.manifestMissing path)
  | .error fault => .error (.artifact path fault)

/-- Checks that a manifest names the canonical features. -/
def verify (m : FeatureManifest) : Except Failure Unit :=
  (Parity.verify FeatureName.names m.features).mapError .featureSetMismatch

/-- The target of the reports of this module. -/
def target : String := "pipeline_lib::parity"

/-- The report of a manifest in parity. -/
def verifiedEvent (path : Path) (m : FeatureManifest) : Event where
  level := .info
  target := target
  message := "Feature manifest matches training features"
  fields := [
    ("event", .text "parity_verified"),
    ("manifest", .text path.text),
    ("features", .integer m.features.length)]

/-- The report of a manifest that is not in parity. -/
def violationEvent (path : Path) (failure : Failure) : Event where
  level := .warn
  target := target
  message := "Feature manifest does not match training features"
  fields := [
    ("event", .text "parity_violation"),
    ("manifest", .text path.text),
    ("error", .text failure.message)]

/-- Loads and checks a manifest file; the second part is what is reported. -/
def verifyFile (files : FileTree) (path : Path) : Except Failure FeatureManifest × List Event :=
  match load files path with
  | .error failure => (.error failure, [])
  | .ok m =>
      match m.verify with
      | .ok () => (.ok m, [verifiedEvent path m])
      | .error failure => (.error failure, [violationEvent path failure])

end FeatureManifest
end FleetScore
