import FleetScore.Json.Reader
import FleetScore.Json.Printer
import FleetScore.Json.Decode
import FleetScore.Feature.Name
import FleetScore.Failure

/-!
# Feature manifests

A manifest tells the serving side which features a model expects.  It is written as
a record: the names, and perhaps the version of the labels, the digest of the model
file and the instant of writing.  What a manifest does not have is left out of the
text.

On reading, a bare list of names will do as well.  The value at the start of the text
is read strictly first, and only then tried as a record --- an object, or an array of
the record's fields in order --- and after that as a list.  A list of names is never
taken for a record in array form, because there the first item is itself a list.

What stands behind the value is looked at last.  So a text that starts with the wrong
shape is refused for its shape, whatever follows, and only a manifest with something
behind it is refused as no JSON.
-/

namespace FleetScore

/-- The names of the features that a model expects, with the version of the labels it was
trained on, the digest of the model file, and when the manifest was written, as far as these are
told. -/
structure FeatureManifest where
  features : List String
  labelVersion : Option String
  modelSha256 : Option String
  generatedAt : Option Instant
  deriving DecidableEq

namespace FeatureManifest

/-- A manifest of names and nothing else. -/
def ofNames (features : List String) : FeatureManifest := ⟨features, none, none, none⟩

/-- The manifest of the canonical features in canonical order. -/
def canonical : FeatureManifest := ofNames FeatureName.names

/-- The fields of a manifest's record. -/
def fields : List Json.Field := [
  ⟨"features", .required⟩, ⟨"label_version", .optional⟩, ⟨"model_sha256", .optional⟩,
  ⟨"generated_at", .optional⟩]

/-- A member of an object, if there is a value for it. -/
def member {α : Type} (name : String) (encode : α → Json) : Option α → List (String × Json)
  | none => []
  | some a => [(name, encode a)]

/-- The record of a manifest. -/
def toJson (m : FeatureManifest) : Json :=
  .record (("features", Json.list Json.text m.features)
    :: (member "label_version" Json.text m.labelVersion
      ++ member "model_sha256" Json.text m.modelSha256
      ++ member "generated_at" (fun t => Json.text (Timestamp.text t)) m.generatedAt))

/-- The text of a manifest. -/
def text (m : FeatureManifest) : String := m.toJson.pretty

/-- Reads a manifest from its record. -/
def ofRecord? (j : Json) : Option FeatureManifest := do
  match ← j.fields? fields with
  | [features, labelVersion, modelSha256, generatedAt] =>
      some {
        features := ← features.toList? Json.toText?
        labelVersion := ← labelVersion.toOption? Json.toText?
        modelSha256 := ← modelSha256.toOption? Json.toText?
        generatedAt := ← generatedAt.toOption? Json.toInstant? }
  | _ => none

/-- Reads a manifest from a tree: a record, or else a list of names. -/
def ofJson? (j : Json) : Option FeatureManifest :=
  match ofRecord? j with
  | some m => some m
  | none => (j.toList? Json.toText?).map ofNames

/-- Reads a manifest. -/
def ofText (text : String) : Except Failure FeatureManifest :=
  match Json.leadingStrict? text with
  | none => .error (.manifestInvalid .malformed)
  | some (j, rest) =>
      match ofJson? j with
      | none => .error (.manifestInvalid .unknownShape)
      | some m => if Json.isEnd rest then .ok m else .error (.manifestInvalid .malformed)

end FeatureManifest
end FleetScore
