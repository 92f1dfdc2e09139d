import FleetScore.Artifact.ModelRecord
import FleetScore.Manifest.FeatureManifest
import FleetScore.Storage.Plan
import FleetScore.Digest.Sha256
import FleetScore.Json.Printer

/-!
# Exporting a trained model

Three files make a model usable: the model, its scaler, and the manifest of the
features it expects.  They are written into one directory, in this order.

## What an observer can rely on

*Parity first.*  Before anything is touched, the manifest that is about to be written
is held against the features that vectors really carry, and so is the manifest that a
serving deployment already runs with, if there is one.  A difference blocks the export.

*Whole files.*  Each file is replaced by way of a temporary sibling, so it holds its
old or its new content at any time.

*The manifest last.*  It carries the digest of the model file.  Whoever finds the new
manifest finds the new model and the new scaler too.

The export is therefore a plan, and what has been said are properties of the plan.
-/

namespace FleetScore

/-- Where models are exported, and the manifest that serving runs with, if it is known. -/
structure Exporter where
  dir : Path
  serving : Option FeatureManifest

/-- The files that an export has written, and the digest of the model file. -/
structure ExportSummary where
  modelPath : Path
  scalerPath : Path
  manifestPath : Path
  modelSha256 : String
  deriving DecidableEq

namespace Exporter

/-- The name of the model file. -/
def modelFile : String := "model.json"

/-- The name of the scaler file. -/
def scalerFile : String := "scaler.json"

/-- The name of the manifest file. -/
def manifestFile : String := "feature_manifest.json"

/-- The name of the temporary sibling of the model file. -/
def modelTemporary : String := "model.tmp"

/-- The name of the temporary sibling of the scaler file. -/
def scalerTemporary : String := "scaler.tmp"

/-- The name of the temporary sibling of the manifest file. -/
def manifestTemporary : String := "feature_manifest.tmp"

/-- Holds a manifest, and the serving manifest if there is one, against the features
that vectors carry. -/
def verify (e : Exporter) (m : FeatureManifest) : Except Failure Unit := do
  let emitted := FeatureVector.emittedNames
  (Parity.verify emitted m.features).mapError Failure.featureSetMismatch
  match e.serving with
  | none => .ok ()
  | some serving => (Parity.verify emitted serving.features).mapError Failure.featureSetMismatch

/-- The manifest of an export, without the digest. -/
def manifest (now : Instant) : FeatureManifest :=
  { FeatureManifest.canonical with labelVersion := some Label.version, generatedAt := some now }

/-- The contents of the three files. -/
structure Contents where
  model : ByteArray
  scaler : ByteArray
  manifest : ByteArray

/-- The contents of the files for a trained model. -/
def contents (t : Training.Trained Float) (now : Instant) : Contents :=
  let model := (ModelRecord.ofTrained t now).toJson.pretty.toUTF8
  { model := model
    scaler := t.scaler.toJson.pretty.toUTF8
    manifest :=
      ({ manifest now with modelSha256 := some (Sha256.checksum model) }
        : FeatureManifest).text.toUTF8 }

/-- The steps that write the three files, drawn up for the files there are. -/
def plan (e : Exporter) (c : Contents) (files : FileTree) : Plan :=
  Plan.makeDirectories files e.dir
    ++ Plan.replace (e.dir.child modelFile) (e.dir.child modelTemporary) c.model
    ++ Plan.replace (e.dir.child scalerFile) (e.dir.child scalerTemporary) c.scaler
    ++ Plan.replace (e.dir.child manifestFile) (e.dir.child manifestTemporary) c.manifest

/-- What the files of an export are called, and the digest of the model. -/
def summary (e : Exporter) (c : Contents) : ExportSummary where
  modelPath := e.dir.child modelFile
  scalerPath := e.dir.child scalerFile
  manifestPath := e.dir.child manifestFile
  modelSha256 := Sha256.checksum c.model

/-- What an export leaves behind: the files, what was written or why not, and what is reported. -/
structure Outcome where
  files : FileTree
  result : Except Failure ExportSummary
  events : List Event

/-- The target of the reports of this module. -/
def target : String := "pipeline_lib::training::export"

/-- The report of an export that parity blocked. -/
def blockedEvent (failure : Failure) : Event where
  level := .warn
  target := target
  message := "Parity check failed, export blocked"
  fields := [("error", .text failure.message)]

/-- The report of a finished export. -/
def exportedEvent (e : Exporter) (summary : ExportSummary) : Event where
  level := .info
  target := target
  message := "Artifacts exported"
  fields := [
    ("dir", .text e.dir.text),
    ("model_version", .text Training.modelVersion),
    ("label_version", .text Label.version),
    ("checksum", .text summary.modelSha256)]

/-- Exports a trained model. -/
def run (e : Exporter) (t : Training.Trained Float) (now : Instant) (files : FileTree) : Outcome :=
  match e.verify (manifest now) with
  | .error failure => ⟨files, .error failure, [blockedEvent failure]⟩
  | .ok () =>
      let c := contents t now
      let outcome := (e.plan c files).run files
      match outcome.fault with
      | some (path, fault) => ⟨outcome.tree, .error (.artifact path fault), []⟩
      | none => ⟨outcome.tree, .ok (e.summary c), [e.exportedEvent (e.summary c)]⟩

end Exporter
end FleetScore
