import FleetScore.Training.Train
import FleetScore.Store.RecordText
import FleetScore.Json.Reader
import FleetScore.Storage.FileTree

/-!
# The written form of a model

A model file holds everything that is needed to use a model and to tell it from
others: the versions, the features it expects, its parameters, how good it was, and
when it was trained.  The scaler has a file of its own.

Both are read by the same rule.  A file that cannot be read is an artifact failure
and names the file; a text that is not the record it should be is a serialization
failure.
-/

namespace FleetScore

/-- The contents of a model file.  There is a weight for each name of a feature, in their order,
and the evaluation tells how good the model was when it was trained. -/
structure ModelRecord where
  modelVersion : String
  labelVersion : String
  kind : String
  featureNames : List String
  weights : List Float
  bias : Float
  evaluation : Evaluation Float
  trainedAt : Instant

namespace ModelRecord

/-- The fields of a model's record. -/
def fields : List Json.Field := [
  ⟨"model_version", .required⟩, ⟨"label_version", .required⟩, ⟨"kind", .required⟩,
  ⟨"feature_names", .required⟩, ⟨"weights", .required⟩, ⟨"bias", .required⟩,
  ⟨"evaluation", .required⟩, ⟨"trained_at", .required⟩]

/-- The record of a model. -/
def toJson (m : ModelRecord) : Json :=
  .record [
    ("model_version", .text m.modelVersion),
    ("label_version", .text m.labelVersion),
    ("kind", .text m.kind),
    ("feature_names", Json.list Json.text m.featureNames),
    ("weights", Json.list Json.float m.weights),
    ("bias", .float m.bias),
    ("evaluation", m.evaluation.toJson),
    ("trained_at", m.trainedAt.toJson)]

/-- Reads a model from its record. -/
def ofJson? (j : Json) : Option ModelRecord := do
  match ← j.fields? fields with
  | [modelVersion, labelVersion, kind, featureNames, weights, bias, evaluation, trainedAt] =>
      some {
        modelVersion := ← modelVersion.toText?
        labelVersion := ← labelVersion.toText?
        kind := ← kind.toText?
        featureNames := ← featureNames.toList? Json.toText?
        weights := ← weights.toList? Json.toFloat?
        bias := ← bias.toFloat?
        evaluation := ← Evaluation.ofJson? evaluation
        trainedAt := ← trainedAt.toInstant? }
  | _ => none

/-- The record of a trained model. -/
def ofTrained (t : Training.Trained Float) (now : Instant) : ModelRecord where
  modelVersion := Training.modelVersion
  labelVersion := Label.version
  kind := Regressor.kind
  featureNames := FeatureName.names
  weights := t.model.weights
  bias := t.model.bias
  evaluation := t.evaluation
  trainedAt := now

/-- The model that a record describes. -/
def regressor (m : ModelRecord) : Regressor Float := ⟨m.weights, m.bias⟩

end ModelRecord

namespace Artifact

/-- Loads a record from a file. -/
def load {α : Type} (decode : Json → Option α) (files : FileTree) (path : Path) :
    Except Failure α :=
  match files.readText path with
  | .error fault => .error (.artifact path fault)
  | .ok text =>
      match (Json.read? text).bind decode with
      | some a => .ok a
      | none => .error .serialization

/-- Loads a model file. -/
def loadModel : FileTree → Path → Except Failure ModelRecord := load ModelRecord.ofJson?

/-- Loads a scaler file. -/
def loadScaler : FileTree → Path → Except Failure (Scaler Float) := load Scaler.ofJson?

end Artifact
end FleetScore
