import FleetScore.Console.Screen
import FleetScore.Artifact.ModelRecord
import FleetScore.Manifest.Verification

/-!
# Looking at artifacts

A manifest can be checked, and a manifest, a scaler and a model can be shown.

The check tells three outcomes apart by its exit code.  A manifest in parity is a
success and one that is not in parity a failure; both are answers.  A manifest that
cannot be read is no answer at all, and is reported as an error.
-/

namespace FleetScore
namespace Console
namespace Screen

/-- The answer of a check. -/
def verdict (s : Screen) (path : Path) (ok : Bool) (d : NameDifference) : Transcript :=
  let exitCode := if ok then 0 else 1
  match s.format with
  | .json =>
      let record := Json.record [
        ("manifest", .text path.text),
        ("ok", .bool ok),
        ("missing", Json.list Json.text d.missing),
        ("extra", Json.list Json.text d.extra)]
      ⟨exitCode, [record.pretty], []⟩
  | .table =>
      if ok then
        .success [s.success (s.paint (.coloured .cyan) path.text ++ " matches the "
          ++ Decimal.natText FeatureName.names.length ++ " training features")]
      else
        ⟨exitCode, [], [
          s.failure (path.text ++ " does not match training features"),
          "  missing: " ++ names d.missing,
          "  extra:   " ++ names d.extra]⟩

/-- Checks a manifest file. -/
def verify (s : Screen) (files : FileTree) (path : Path) : Transcript :=
  match (FeatureManifest.verifyFile files path).1 with
  | .ok _ => s.verdict path true ⟨[], []⟩
  | .error (.featureSetMismatch d) => s.verdict path false d
  | .error failure => .failure failure.message

/-- Whether a name stands where it should. -/
def canonicalMark (s : Screen) (index : Nat) (name : String) : String :=
  match FeatureName.names[index]? with
  | none => s.paint (.coloured .red) "extra"
  | some expected =>
      if expected = name then s.paint (.coloured .green) "canonical"
      else s.paint (.coloured .red) ("expected " ++ expected)

/-- A table of names with a value each. -/
def featureTable (s : Screen) (entries : List (String × String)) : List String :=
  s.table {
    header := ["#", "Feature", "Value"]
    rows := entries.zipIdx.map fun e => [Decimal.natText e.2, e.1.1, e.1.2] }

/-- Shows a manifest. -/
def manifest (s : Screen) (path : Path) (m : FeatureManifest) : List String :=
  let generated := match m.generatedAt with
    | none => []
    | some t => ["Generated:     " ++ Timestamp.spelled t]
  s.heading '=' "Feature Manifest"
    ++ ["File:          " ++ s.paint (.coloured .cyan) path.text,
      "Label version: " ++ m.labelVersion.getD "-",
      "Model SHA-256: " ++ m.modelSha256.getD "-"]
    ++ generated ++ [""]
    ++ s.featureTable (m.features.zipIdx.map fun f => (f.1, s.canonicalMark f.2 f.1))

/-- Shows a scaler. -/
def scaler (s : Screen) (p : Scaler Float) : List String :=
  let rows := (p.mean.zip p.scale).zipIdx.map fun e =>
    [FeatureName.names.getD e.2 "?", measure e.1.1, measure e.1.2]
  let rest :=
    if p.isComplete then []
    else [s.note "Scaler does not cover all features in canonical order"]
  s.heading '=' "Scaler Parameters"
    ++ s.table { header := ["Feature", "Mean", "Scale"], rows := rows } ++ rest

/-- Shows a model. -/
def model (s : Screen) (m : ModelRecord) : List String :=
  s.heading '=' "Model"
    ++ ["Version:       " ++ s.paint (.coloured .cyan) m.modelVersion,
      "Label version: " ++ m.labelVersion,
      "Kind:          " ++ m.kind,
      "Trained:       " ++ Timestamp.spelled m.trainedAt,
      "Bias:          " ++ measure m.bias,
      ""]
    ++ s.featureTable (List.zipWith (fun name weight => (name, measure weight))
      m.featureNames m.weights)
    ++ "" :: s.heading '-' "Validation"
    ++ ["Samples:  " ++ Decimal.natText m.evaluation.samples,
      "MAE:      " ++ measure m.evaluation.mae,
      "RMSE:     " ++ measure m.evaluation.rmse,
      "Accuracy: " ++ percent m.evaluation.accuracy]

/-- Shows what was loaded, or says that it could not be loaded. -/
def loaded {α : Type} (s : Screen) (what : String) (path : Path) (record : α → Json)
    (lines : α → List String) : Except Failure α → Transcript
  | .error _ => .failure ("Failed to load " ++ what ++ " " ++ path.text)
  | .ok a =>
      match s.format with
      | .json => .success [(record a).pretty]
      | .table => .success (lines a)

/-- Shows an artifact. -/
def present (s : Screen) (files : FileTree) (kind : Kind) (path : Path) : Transcript :=
  match kind with
  | .manifest =>
      s.loaded "manifest" path FeatureManifest.toJson (s.manifest path)
        (FeatureManifest.load files path)
  | .scaler => s.loaded "scaler" path Scaler.toJson s.scaler (Artifact.loadScaler files path)
  | .model => s.loaded "model" path ModelRecord.toJson s.model (Artifact.loadModel files path)

end Screen
end Console
end FleetScore
