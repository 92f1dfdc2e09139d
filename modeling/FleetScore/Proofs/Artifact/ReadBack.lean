import FleetScore.Artifact.ModelRecord
import FleetScore.Proofs.Json.Records

/-!
# What is read back from the records of a model

An evaluation, a scaler and a model are records of doubles with some texts and counts between them.
Texts and counts are read back as they were.  What becomes of the doubles is a matter of the reader
of numerals alone, and a record has nothing to add to it: if the reader makes `f x` of the numeral
of `x`, for each double `x` of a record, then the record is read back with `f` applied to all its
doubles, in whatever number and order they stand in its lists.

A reader that loses nothing is the case that `f` is the identity.
-/

namespace FleetScore

/-! ## 1.  Evaluations -/

namespace Evaluation

/-- The doubles of an evaluation. -/
def numbers (e : Evaluation Float) : List Float :=
  [e.mae, e.rmse, e.accuracy, e.minError, e.maxError, e.meanError, e.stdError]

/-- An evaluation with a function applied to its doubles. -/
def map (f : Float → Float) (e : Evaluation Float) : Evaluation Float where
  samples := e.samples
  mae := f e.mae
  rmse := f e.rmse
  accuracy := f e.accuracy
  minError := f e.minError
  maxError := f e.maxError
  meanError := f e.meanError
  stdError := f e.stdError

theorem map_id (e : Evaluation Float) : e.map id = e := rfl

theorem ofJson?_of_fields {j samples mae rmse accuracy minError maxError meanError stdError : Json}
    (h : j.fields? fields =
      some [samples, mae, rmse, accuracy, minError, maxError, meanError, stdError])
    {e : Evaluation Float} (hsamples : samples.toCount? = some e.samples)
    (hmae : mae.toFloat? = some e.mae) (hrmse : rmse.toFloat? = some e.rmse)
    (haccuracy : accuracy.toFloat? = some e.accuracy) (hmin : minError.toFloat? = some e.minError)
    (hmax : maxError.toFloat? = some e.maxError) (hmean : meanError.toFloat? = some e.meanError)
    (hstd : stdError.toFloat? = some e.stdError) : ofJson? j = some e := by
  rw [ofJson?, h]
  simp only [Option.bind_eq_bind, Option.bind_some, hsamples, hmae, hrmse, haccuracy, hmin, hmax,
    hmean, hstd]

/-- **An evaluation is read back as its doubles are.** -/
theorem ofJson?_toJson {f : Float → Float} {e : Evaluation Float} (hsamples : e.samples < 2 ^ 64)
    (h : ∀ x ∈ e.numbers, (Json.float x).toFloat? = some (f x)) :
    ofJson? e.toJson = some (e.map f) := by
  have hfields : e.toJson.fields? fields = some [.nat e.samples, .float e.mae, .float e.rmse,
      .float e.accuracy, .float e.minError, .float e.maxError, .float e.meanError,
      .float e.stdError] := rfl
  simp only [numbers, List.forall_mem_cons] at h
  obtain ⟨hmae, hrmse, haccuracy, hmin, hmax, hmean, hstd, -⟩ := h
  exact ofJson?_of_fields hfields ((Json.toCount?_nat e.samples).trans (if_pos hsamples)) hmae hrmse
    haccuracy hmin hmax hmean hstd

end Evaluation

/-! ## 2.  Scalers -/

namespace Scaler

/-- The doubles of a scaler. -/
def numbers (s : Scaler Float) : List Float := s.mean ++ s.scale

/-- A scaler with a function applied to its doubles. -/
def map (f : Float → Float) (s : Scaler Float) : Scaler Float := ⟨s.mean.map f, s.scale.map f⟩

theorem map_id (s : Scaler Float) : s.map id = s := by
  rw [map, List.map_id, List.map_id]

/-- **A scaler is read back as its doubles are**, however many they are. -/
theorem ofJson?_toJson {f : Float → Float} {s : Scaler Float}
    (h : ∀ x ∈ s.numbers, (Json.float x).toFloat? = some (f x)) :
    ofJson? s.toJson = some (s.map f) := by
  have hfields : s.toJson.fields? fields =
      some [Json.list Json.float s.mean, Json.list Json.float s.scale] := rfl
  obtain ⟨hmean, hscale⟩ := List.forall_mem_append.mp h
  rw [ofJson?, hfields]
  simp only [Option.bind_eq_bind, Option.bind_some, Json.toList?_list hmean,
    Json.toList?_list hscale]
  rfl

end Scaler

/-! ## 3.  Models -/

namespace ModelRecord

/-- The doubles of a model. -/
def numbers (m : ModelRecord) : List Float := m.weights ++ m.bias :: m.evaluation.numbers

/-- A model with a function applied to its doubles, and the instant of its training settled. -/
def map (f : Float → Float) (m : ModelRecord) : ModelRecord :=
  { m with
    weights := m.weights.map f
    bias := f m.bias
    evaluation := m.evaluation.map f
    trainedAt := m.trainedAt.settled }

theorem ofJson?_of_fields {j modelVersion labelVersion kind featureNames weights bias evaluation
      trainedAt : Json}
    (h : j.fields? fields = some [modelVersion, labelVersion, kind, featureNames, weights, bias,
      evaluation, trainedAt])
    {m : ModelRecord} (hmodelVersion : modelVersion.toText? = some m.modelVersion)
    (hlabelVersion : labelVersion.toText? = some m.labelVersion)
    (hkind : kind.toText? = some m.kind)
    (hfeatureNames : featureNames.toList? Json.toText? = some m.featureNames)
    (hweights : weights.toList? Json.toFloat? = some m.weights)
    (hbias : bias.toFloat? = some m.bias)
    (hevaluation : Evaluation.ofJson? evaluation = some m.evaluation)
    (htrainedAt : trainedAt.toInstant? = some m.trainedAt) : ofJson? j = some m := by
  rw [ofJson?, h]
  simp only [Option.bind_eq_bind, Option.bind_some, hmodelVersion, hlabelVersion, hkind,
    hfeatureNames, hweights, hbias, hevaluation, htrainedAt]

/-- **A model is read back as its doubles are**, the instant of its training settled. -/
theorem ofJson?_toJson {f : Float → Float} {m : ModelRecord}
    (hsamples : m.evaluation.samples < 2 ^ 64)
    (h : ∀ x ∈ m.numbers, (Json.float x).toFloat? = some (f x)) :
    ofJson? m.toJson = some (m.map f) := by
  have hfields : m.toJson.fields? fields = some [.text m.modelVersion, .text m.labelVersion,
      .text m.kind, Json.list Json.text m.featureNames, Json.list Json.float m.weights,
      .float m.bias, m.evaluation.toJson, .text (Timestamp.text m.trainedAt)] := rfl
  obtain ⟨hweights, hrest⟩ := List.forall_mem_append.mp h
  obtain ⟨hbias, hevaluation⟩ := List.forall_mem_cons.mp hrest
  exact ofJson?_of_fields hfields (Json.toText?_text _) (Json.toText?_text _)
    (Json.toText?_text _) (Json.toList?_texts _) (Json.toList?_list hweights) hbias
    (Evaluation.ofJson?_toJson hsamples hevaluation) (Json.toInstant?_text _)

end ModelRecord
end FleetScore
