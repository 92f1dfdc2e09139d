import FleetScore.Manifest.Verification
import FleetScore.Proofs.Pipeline.ArtifactHistory
import FleetScore.Proofs.Json.Measurements
import FleetScore.Proofs.Storage.Retrieval
import FleetScore.Proofs.Training.FiniteResults

/-!
# Which artifacts can be loaded

Each of the three files of an export is the pretty text of a record, so it loads exactly if the
record is read back (`isOk_load`).  A manifest always is.  A scaler is, exactly if all its numbers
are finite (`Scaler.isSome_ofJson?_toJson`), and a model, exactly if its parameters and its
evaluation are (`ModelRecord.isSome_ofJson?_toJson`): one number that is not finite is written as
`null`, and `null` in a field for a number refuses the whole file.

The records are read field by field, and the lemmas are about fields of any content: the order and
the kinds of the fields are all that they depend on.
-/

namespace FleetScore

/-! ## 1.  Records -/

section

variable {α β : Type} {x : Option α} {f : α → Option β}

/-- A field and then the rest are read if the field is and the rest is, provided that the rest does
not depend on what was read. -/
theorem isSome_bind_iff {rest : Prop} (h : ∀ a, (f a).isSome = true ↔ rest) :
    (x.bind f).isSome = true ↔ x.isSome = true ∧ rest := by
  cases x with
  | none => simp
  | some a => simp [h a]

theorem isSome_bind_last (h : ∀ a, (f a).isSome = true) :
    (x.bind f).isSome = true ↔ x.isSome = true := by
  cases x with
  | none => simp
  | some a => simp [h a]

end

namespace Evaluation

variable {j samples mae rmse accuracy minError maxError meanError stdError : Json}

theorem isSome_ofJson?_iff (h : j.fields? fields =
      some [samples, mae, rmse, accuracy, minError, maxError, meanError, stdError]) :
    (ofJson? j).isSome = true ↔ samples.toCount?.isSome = true ∧ mae.toFloat?.isSome = true ∧
      rmse.toFloat?.isSome = true ∧ accuracy.toFloat?.isSome = true ∧
      minError.toFloat?.isSome = true ∧ maxError.toFloat?.isSome = true ∧
      meanError.toFloat?.isSome = true ∧ stdError.toFloat?.isSome = true := by
  rw [ofJson?, h]
  exact isSome_bind_iff fun _ => isSome_bind_iff fun _ => isSome_bind_iff fun _ =>
    isSome_bind_iff fun _ => isSome_bind_iff fun _ => isSome_bind_iff fun _ =>
    isSome_bind_iff fun _ => isSome_bind_last fun _ => rfl

/-- **An evaluation is read back exactly if it is finite** and its count fits a word. -/
theorem isSome_ofJson?_toJson (e : Evaluation Float) :
    (ofJson? e.toJson).isSome = true ↔
      e.samples < 2 ^ 64 ∧ e.HasFiniteErrors ∧ Scalar.isFinite e.stdError = true := by
  have hfields : e.toJson.fields? fields = some [.nat e.samples, .float e.mae, .float e.rmse,
      .float e.accuracy, .float e.minError, .float e.maxError, .float e.meanError,
      .float e.stdError] := rfl
  rw [isSome_ofJson?_iff hfields]
  simp only [Json.toCount?_nat, Option.isSome_ite, Json.isSome_toFloat?_float]
  constructor
  · rintro ⟨hsamples, hmae, hrmse, haccuracy, hmin, hmax, hmean, hstd⟩
    exact ⟨hsamples, ⟨hmae, hrmse, haccuracy, hmin, hmax, hmean⟩, hstd⟩
  · rintro ⟨hsamples, herrors, hstd⟩
    exact ⟨hsamples, herrors.mae, herrors.rmse, herrors.accuracy, herrors.minError,
      herrors.maxError, herrors.meanError, hstd⟩

theorem isWritable_toJson (e : Evaluation Float) : Json.IsWritable e.toJson := by
  refine Json.isWritable_record ?_
  simp only [List.forall_mem_cons, List.not_mem_nil, false_imp_iff, implies_true, and_true]
  exact ⟨Json.isWritable_int _, Json.isWritable_float _, Json.isWritable_float _,
    Json.isWritable_float _, Json.isWritable_float _, Json.isWritable_float _,
    Json.isWritable_float _, Json.isWritable_float _⟩

end Evaluation

namespace Scaler

theorem isSome_ofJson?_iff {j mean scale : Json} (h : j.fields? fields = some [mean, scale]) :
    (ofJson? j).isSome = true ↔
      (mean.toList? Json.toFloat?).isSome = true ∧ (scale.toList? Json.toFloat?).isSome = true := by
  rw [ofJson?, h]
  exact isSome_bind_iff fun _ => isSome_bind_last fun _ => rfl

/-- **A scaler is read back exactly if it is finite.** -/
theorem isSome_ofJson?_toJson (s : Scaler Float) :
    (ofJson? s.toJson).isSome = true ↔
      (∀ x ∈ s.mean, Scalar.isFinite x = true) ∧ ∀ x ∈ s.scale, Scalar.isFinite x = true := by
  have hfields : s.toJson.fields? fields =
      some [Json.list Json.float s.mean, Json.list Json.float s.scale] := rfl
  rw [isSome_ofJson?_iff hfields, Json.isSome_toList?_floats, Json.isSome_toList?_floats]

theorem isWritable_toJson (s : Scaler Float) : Json.IsWritable s.toJson := by
  refine Json.isWritable_record ?_
  simp only [List.forall_mem_cons, List.not_mem_nil, false_imp_iff, implies_true, and_true]
  exact ⟨Json.isWritable_list fun x _ => Json.isWritable_float x,
    Json.isWritable_list fun x _ => Json.isWritable_float x⟩

end Scaler

namespace ModelRecord

variable {j modelVersion labelVersion kind featureNames weights bias evaluation trainedAt : Json}

theorem isSome_ofJson?_iff (h : j.fields? fields = some [modelVersion, labelVersion, kind,
      featureNames, weights, bias, evaluation, trainedAt]) :
    (ofJson? j).isSome = true ↔ modelVersion.toText?.isSome = true ∧
      labelVersion.toText?.isSome = true ∧ kind.toText?.isSome = true ∧
      (featureNames.toList? Json.toText?).isSome = true ∧
      (weights.toList? Json.toFloat?).isSome = true ∧ bias.toFloat?.isSome = true ∧
      (Evaluation.ofJson? evaluation).isSome = true ∧ trainedAt.toInstant?.isSome = true := by
  rw [ofJson?, h]
  exact isSome_bind_iff fun _ => isSome_bind_iff fun _ => isSome_bind_iff fun _ =>
    isSome_bind_iff fun _ => isSome_bind_iff fun _ => isSome_bind_iff fun _ =>
    isSome_bind_iff fun _ => isSome_bind_last fun _ => rfl

/-- **A model is read back exactly if its parameters and its evaluation are.** -/
theorem isSome_ofJson?_toJson (m : ModelRecord) :
    (ofJson? m.toJson).isSome = true ↔
      (∀ w ∈ m.weights, Scalar.isFinite w = true) ∧ Scalar.isFinite m.bias = true ∧
        (Evaluation.ofJson? m.evaluation.toJson).isSome = true := by
  have hfields : m.toJson.fields? fields = some [.text m.modelVersion, .text m.labelVersion,
      .text m.kind, Json.list Json.text m.featureNames, Json.list Json.float m.weights,
      .float m.bias, m.evaluation.toJson, .text (Timestamp.text m.trainedAt)] := rfl
  rw [isSome_ofJson?_iff hfields, Json.isSome_toList?_floats, Json.toList?_texts,
    Json.toInstant?_text, Json.isSome_toFloat?_float]
  simp only [Json.toText?_text, Option.isSome_some, true_and, and_true]

theorem isWritable_toJson (m : ModelRecord) : Json.IsWritable m.toJson := by
  refine Json.isWritable_record ?_
  simp only [List.forall_mem_cons, List.not_mem_nil, false_imp_iff, implies_true, and_true]
  exact ⟨Json.isWritable_text _, Json.isWritable_text _, Json.isWritable_text _,
    Json.isWritable_list fun s _ => Json.isWritable_text s,
    Json.isWritable_list fun x _ => Json.isWritable_float x, Json.isWritable_float _,
    m.evaluation.isWritable_toJson, Json.isWritable_text _⟩

end ModelRecord

/-! ## 2.  Files -/

namespace Artifact

theorem readText_of_read {files : FileTree} {path : Path} {text : String}
    (h : files.read path = .ok text.toUTF8) : files.readText path = .ok text := by
  rw [FileTree.readText, h]
  simp only [bind, Except.bind, Exporter.fromUTF8?_toUTF8]

/-- **A file with the pretty text of a record loads exactly if the record is read back.** -/
theorem isOk_load {α : Type} {decode : Json → Option α} {files : FileTree} {path : Path} {j : Json}
    (h : files.read path = .ok j.pretty.toUTF8) (hj : Json.IsWritable j) :
    (load decode files path).isOk = (decode j).isSome := by
  rw [load, readText_of_read h]
  simp only [Json.read?_pretty hj, Option.bind_some]
  cases decode j <;> rfl

end Artifact

/-- **A file with the text of a manifest loads**, the instant of writing settled. -/
theorem FeatureManifest.load_text {files : FileTree} {path : Path} {m : FeatureManifest}
    (h : files.read path = .ok m.text.toUTF8) : load files path = .ok m.settled := by
  rw [load, Artifact.readText_of_read h]
  exact ofText_text m

/-! ## 3.  Exports -/

namespace Exporter

open FileTree Plan

/-- An export that returns has run its plan to the end, and returns the summary of its contents. -/
theorem fault_of_run_ok {e : Exporter} {t : Training.Trained Float} {now : Instant}
    {files : FileTree} {summary : ExportSummary} (h : (e.run t now files).result = .ok summary) :
    ((e.plan (contents t now) files).run files).fault = none ∧
      (e.run t now files).files = ((e.plan (contents t now) files).run files).tree ∧
        summary = e.summary (contents t now) := by
  obtain ⟨d, -, hrun⟩ | ⟨-, ⟨path, fault, -, hrun⟩ | ⟨hfault, hrun⟩⟩ := e.run_cases t now files
  · rw [hrun] at h
    cases h
  · rw [hrun] at h
    cases h
  · rw [hrun] at h ⊢
    dsimp only at h ⊢
    exact ⟨hfault, rfl, (Except.ok.inj h).symm⟩

theorem rename_mem_plan {e : Exporter} {c : Contents} (files : FileTree) {r : Replacement}
    (hr : r ∈ e.replacements c) : ⟨.rename r.temporary r.target, r.target⟩ ∈ e.plan c files := by
  rw [plan_eq]
  refine List.mem_append_right _ (List.mem_flatMap.2 ⟨r, hr, ?_⟩)
  simp [Replacement.steps, replace]

theorem exists_child_of_mem {e : Exporter} {c : Contents} {r : Replacement}
    (hr : r ∈ e.replacements c) :
    ∃ name, Path.IsFileName name ∧ r.target = e.dir.child name := by
  simp only [replacements, List.mem_cons, List.not_mem_nil, or_false] at hr
  obtain rfl | rfl | rfl := hr
  · exact ⟨modelFile, isFileName_of_mem (by decide), rfl⟩
  · exact ⟨scalerFile, isFileName_of_mem (by decide), rfl⟩
  · exact ⟨manifestFile, isFileName_of_mem (by decide), rfl⟩

/-- **All files of a finished export can be read**, and hold what they should. -/
theorem read_of_run_ok {e : Exporter} {t : Training.Trained Float} {now : Instant}
    {files : FileTree} {summary : ExportSummary} (h : (e.run t now files).result = .ok summary)
    {r : Replacement} (hr : r ∈ e.replacements (contents t now)) :
    (e.run t now files).files.read r.target = .ok r.bytes := by
  obtain ⟨hfault, hfiles, -⟩ := fault_of_run_ok h
  have hdone : r.IsDone (e.run t now files).files := by
    obtain ⟨-, -, hdone⟩ | ⟨difference, herror, -⟩ | ⟨path, fault, herror⟩ :=
      e.run_leaves t now files
    · exact hdone r hr
    · rw [h] at herror
      cases herror
    · rw [h] at herror
      cases herror
  obtain ⟨name, hname, htarget⟩ := exists_child_of_mem hr
  have hplanned := rename_mem_plan files hr
  rw [Replacement.IsDone, hfiles] at hdone
  rw [hfiles]
  rw [htarget] at hplanned hdone ⊢
  exact read_child hname (arrivesAt_of_mem hfault hname hplanned) hdone

theorem contents_model (t : Training.Trained Float) (now : Instant) :
    (contents t now).model = (ModelRecord.ofTrained t now).toJson.pretty.toUTF8 := by
  simp only [contents]

theorem contents_scaler (t : Training.Trained Float) (now : Instant) :
    (contents t now).scaler = t.scaler.toJson.pretty.toUTF8 := by
  simp only [contents]

/-- The manifest that an export writes. -/
def writtenManifest (t : Training.Trained Float) (now : Instant) : FeatureManifest :=
  { manifest now with modelSha256 := some (Sha256.checksum (contents t now).model) }

/-- **The three files of a finished export hold the texts of their records.** -/
theorem texts_of_run_ok {e : Exporter} {t : Training.Trained Float} {now : Instant}
    {files : FileTree} {summary : ExportSummary} (h : (e.run t now files).result = .ok summary) :
    (e.run t now files).files.read (e.dir.child modelFile) =
        .ok (ModelRecord.ofTrained t now).toJson.pretty.toUTF8 ∧
      (e.run t now files).files.read (e.dir.child scalerFile) =
        .ok t.scaler.toJson.pretty.toUTF8 ∧
      (e.run t now files).files.read (e.dir.child manifestFile) =
        .ok (writtenManifest t now).text.toUTF8 := by
  rw [← contents_model, ← contents_scaler, writtenManifest, ← contents_manifest]
  obtain ⟨c, hc⟩ : ∃ c, c = contents t now := ⟨_, rfl⟩
  have hread : ∀ r ∈ e.replacements c, (e.run t now files).files.read r.target = .ok r.bytes := by
    rw [hc]
    exact fun r hr => read_of_run_ok h hr
  rw [← hc]
  exact ⟨hread (e.modelReplacement c) (by simp [replacements]),
    hread (e.scalerReplacement c) (by simp [replacements]),
    hread (e.manifestReplacement c) (by simp [replacements])⟩

/-- **Which files of a finished export load**: the manifest, always; the scaler, if its numbers are
finite; and the model, if its parameters and its evaluation are. -/
theorem loads_of_run_ok {e : Exporter} {t : Training.Trained Float} {now : Instant}
    {files : FileTree} {summary : ExportSummary} (h : (e.run t now files).result = .ok summary) :
    (FeatureManifest.load (e.run t now files).files (e.dir.child manifestFile)).isOk = true ∧
      ((Artifact.loadScaler (e.run t now files).files (e.dir.child scalerFile)).isOk = true ↔
        (∀ x ∈ t.scaler.mean, Scalar.isFinite x = true) ∧
          ∀ x ∈ t.scaler.scale, Scalar.isFinite x = true) ∧
      ((Artifact.loadModel (e.run t now files).files (e.dir.child modelFile)).isOk = true ↔
        (∀ w ∈ t.model.weights, Scalar.isFinite w = true) ∧ Scalar.isFinite t.model.bias = true ∧
          t.evaluation.samples < 2 ^ 64 ∧ t.evaluation.HasFiniteErrors ∧
          Scalar.isFinite t.evaluation.stdError = true) := by
  obtain ⟨hmodel, hscaler, hmanifest⟩ := texts_of_run_ok h
  refine ⟨?_, ?_, ?_⟩
  · rw [FeatureManifest.load_text hmanifest]
    rfl
  · rw [Artifact.loadScaler, Artifact.isOk_load hscaler t.scaler.isWritable_toJson,
      Scaler.isSome_ofJson?_toJson]
  · rw [Artifact.loadModel, Artifact.isOk_load hmodel (ModelRecord.isWritable_toJson _),
      ModelRecord.isSome_ofJson?_toJson, Evaluation.isSome_ofJson?_toJson]
    rfl

end Exporter
end FleetScore
