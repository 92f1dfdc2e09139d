import FleetScore.Proofs.Artifact.Loading
import FleetScore.Proofs.Artifact.ParityChecks
import FleetScore.Proofs.Artifact.ReadBack

/-!
# What an export wrote is what its loaders read

An export turns a trained model into three files, and there are three loaders for them.  Each file
holds the pretty text of a record, and what a loader answers is what the record is read back as
(`load_pretty`).  So the loaders answer the trained model with its doubles as the reader of
numerals makes them of their numerals (`load_of_run_ok`).  The reader that artifacts are read with
is quick and may miss a double by a little.

Where it does not, for the doubles of one model, everything is restored: the parameters, the
evaluation and the scaler, to the bit, with a manifest that passes and carries the digest of the
model file; and the restored model predicts what the trained model predicted, for every row
(`restores_of_run_ok`).  How many weights, means and scales there are does not matter.
-/

namespace FleetScore

/-! ## 1.  Files -/

/-- **A file with the pretty text of a record is loaded as what the record is read back as.** -/
theorem Artifact.load_pretty {α : Type} {decode : Json → Option α} {files : FileTree} {path : Path}
    {j : Json} {a : α} (h : files.read path = .ok j.pretty.toUTF8) (hj : Json.IsWritable j)
    (ha : decode j = some a) : load decode files path = .ok a := by
  rw [load, readText_of_read h]
  simp only [Json.read?_pretty hj, Option.bind_some, ha]

/-- The doubles that an export of a trained model writes. -/
def Training.Trained.numbers (t : Training.Trained Float) : List Float :=
  (t.model.weights ++ t.model.bias :: t.evaluation.numbers) ++ t.scaler.numbers

namespace Exporter

/-! ## 2.  Exports -/

section

variable {e : Exporter} {t : Training.Trained Float} {now : Instant} {files : FileTree}
  {summary : ExportSummary}

/-- **The loaders answer the trained model with its doubles as they are read.** -/
theorem load_of_run_ok {f : Float → Float} (h : (e.run t now files).result = .ok summary)
    (hsamples : t.evaluation.samples < 2 ^ 64)
    (hread : ∀ x ∈ t.numbers, (Json.float x).toFloat? = some (f x)) :
    Artifact.loadModel (e.run t now files).files summary.modelPath =
        .ok ((ModelRecord.ofTrained t now).map f) ∧
      Artifact.loadScaler (e.run t now files).files summary.scalerPath = .ok (t.scaler.map f) ∧
      (FeatureManifest.verifyFile (e.run t now files).files summary.manifestPath).1 =
        .ok (writtenManifest t now).settled := by
  obtain ⟨hmodel, hscaler⟩ := List.forall_mem_append.mp hread
  obtain ⟨hmodelText, hscalerText, hmanifestText⟩ := texts_of_run_ok h
  have hverify : (writtenManifest t now).settled.verify = .ok () :=
    FeatureManifest.verify_eq_ok_iff.mpr (.refl _)
  obtain ⟨-, -, rfl⟩ := fault_of_run_ok h
  refine ⟨?_, ?_, ?_⟩
  · exact Artifact.load_pretty hmodelText (ModelRecord.isWritable_toJson _)
      (ModelRecord.ofJson?_toJson hsamples hmodel)
  · exact Artifact.load_pretty hscalerText t.scaler.isWritable_toJson
      (Scaler.ofJson?_toJson hscaler)
  · rw [FeatureManifest.verifyFile_eq, Exporter.summary, FeatureManifest.load_text hmanifestText]
    simp only [Except.bind, hverify, Except.map]

/-- Whether what is loaded from the files of an export restores a trained model.  The model has
its parameters and its evaluation, the scaler is its scaler, the manifest passes and has the
digest of the bytes of the model file, and together they predict what the trained model predicts
for rows as they come. -/
structure Restores (t : Training.Trained Float) (summary : ExportSummary) (files : FileTree)
    (model : ModelRecord) (scaler : Scaler Float) (manifest : FeatureManifest) : Prop where
  loadModel : Artifact.loadModel files summary.modelPath = .ok model
  weights : model.weights = t.model.weights
  bias : model.bias = t.model.bias
  evaluation : model.evaluation = t.evaluation
  featureNames : model.featureNames = FeatureName.names
  loadScaler : Artifact.loadScaler files summary.scalerPath = .ok scaler
  scaler_eq : scaler = t.scaler
  verifyManifest : (FeatureManifest.verifyFile files summary.manifestPath).1 = .ok manifest
  features : manifest.features = FeatureName.names
  labelVersion : manifest.labelVersion = some Label.version
  checksum : ∃ bytes, files.read summary.modelPath = .ok bytes ∧
    manifest.modelSha256 = some (Sha256.checksum bytes)
  predict : ∀ row, model.regressor.predict (scaler.transform row) = t.predictRaw row

/-- **A finished export can be undone.**  If the doubles of a trained model are finite and are read
back from their numerals, then a model, a scaler and a manifest are loaded from the files of the
export, and restore it.  The samples of its evaluation are counted in a word. -/
theorem restores_of_run_ok (h : (e.run t now files).result = .ok summary)
    (hsamples : t.evaluation.samples < 2 ^ 64)
    (hfinite : ∀ x ∈ t.numbers, Scalar.isFinite x = true)
    (hexact : ∀ x ∈ t.numbers, Scalar.isFinite x = true → (Json.float x).toFloat? = some x) :
    ∃ model scaler manifest,
      Restores t summary (e.run t now files).files model scaler manifest := by
  obtain ⟨hmodel, hscaler, hmanifest⟩ := load_of_run_ok (f := id) h hsamples
    fun x hx => hexact x hx (hfinite x hx)
  have hbytes := (texts_of_run_ok h).1
  rw [← contents_model] at hbytes
  refine ⟨_, _, _, {
    loadModel := hmodel
    weights := List.map_id _
    bias := rfl
    evaluation := t.evaluation.map_id
    featureNames := rfl
    loadScaler := hscaler
    scaler_eq := t.scaler.map_id
    verifyManifest := hmanifest
    features := rfl
    labelVersion := rfl
    checksum := ⟨_, ?_, rfl⟩
    predict := ?_ }⟩
  · obtain ⟨-, -, rfl⟩ := fault_of_run_ok h
    exact hbytes
  · intro row
    rw [Scaler.map_id]
    show Regressor.predict ⟨t.model.weights.map id, t.model.bias⟩ _ = _
    rw [List.map_id]
    rfl

end

/-! ## 3.  A model that is restored -/

/-- A trained model with more weights than features, and fewer means and scales. -/
def roundTrained : Training.Trained Float where
  model := ⟨[0.1, -2.5, 1e-7, 12345.678, 5e-324, -0.0, 0.30000000000000004], 0.5⟩
  scaler := ⟨[10.25, 0.0], [1.5, 1e22, 0.3333333333333333]⟩
  evaluation := ⟨2, 0.75, 0.9, 0.5, -1.25, 1.5, 0.125, 0.8⟩
  validationLoss := 0.81
  trainSamples := 2
  validationSamples := 2

/-- An exporter for a deployment that lists the canonical names backwards. -/
def roundExporter : Exporter := ⟨⟨"out"⟩, some (.ofNames FeatureName.names.reverse)⟩

theorem exports_roundExporter (t : Training.Trained Float) :
    (roundExporter.run t sampleInstant sampleFiles).result =
      .ok (roundExporter.summary (contents t sampleInstant)) := rfl

/-- The model is restored from its export. -/
theorem restores_roundTrained :
    ∃ summary, (roundExporter.run roundTrained sampleInstant sampleFiles).result = .ok summary ∧
      roundTrained.evaluation.samples < 2 ^ 64 ∧
      (∀ x ∈ roundTrained.numbers, Scalar.isFinite x = true) ∧
      (∀ x ∈ roundTrained.numbers, Scalar.isFinite x = true →
        (Json.float x).toFloat? = some x) ∧
      ∃ model scaler manifest, Restores roundTrained summary
        (roundExporter.run roundTrained sampleInstant sampleFiles).files model scaler manifest := by
  have hfinite : ∀ x ∈ roundTrained.numbers, Scalar.isFinite x = true := by decide +kernel
  have hexact : ∀ x ∈ roundTrained.numbers, Scalar.isFinite x = true →
      (Json.float x).toFloat? = some x := by
    decide +kernel
  have h := exports_roundExporter roundTrained
  exact ⟨_, h, by decide, hfinite, hexact, restores_of_run_ok h (by decide) hfinite hexact⟩

end Exporter
end FleetScore
