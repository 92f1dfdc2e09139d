import FleetScore.Training.Regressor
import FleetScore.Training.Evaluation
import FleetScore.Training.Set
import FleetScore.Telemetry.Event

/-!
# Training a model

A training set is split, a scaler is fitted to the half that is learned from, both
halves are standardised with it, a model is fitted, and its predictions for the other
half are evaluated.  The validation half never enters the scaler: at serving time the
rows to be predicted are not known in advance either.
-/

namespace FleetScore
namespace Training

/-- The version of models trained here. -/
def modelVersion : String := "1.2.0"

/-- How a model is trained.  Every so many examples one is held back for validation; below two,
none is. -/
structure Config (R : Type) where
  descent : Regressor.Descent R
  validationEvery : Nat

/-- A trained model with everything that serving it needs: the scaler that rows pass through
before they are predicted, how good the model is on the validation data, and how many examples
it learned from and was validated on. -/
structure Trained (R : Type) where
  model : Regressor R
  scaler : Scaler R
  evaluation : Evaluation R
  validationLoss : R
  trainSamples : Nat
  validationSamples : Nat

variable {R : Type} [Scalar R]

/-- The configuration used unless another is given. -/
def Config.standard : Config R := ⟨.standard, 5⟩

/-- The prediction for a row as it comes. -/
def Trained.predictRaw (t : Trained R) (row : FeatureRow R) : R :=
  t.model.predict (t.scaler.transform row)

/-- The two halves of a set, standardised by the scaler of the first. -/
def standardised (scaler : Scaler R) (h : TrainingSet.Halves R) : Regressor.Data R where
  x := h.train.x.map scaler.transform
  y := h.train.y
  xValidation := h.validation.x.map scaler.transform
  yValidation := h.validation.y

/-- Trains a model on the halves of a set. -/
def trainHalves (config : Config R) (h : TrainingSet.Halves R) : Except TrainingFault (Trained R) :=
  let scaler := Scaler.fit h.train.x
  let data := standardised scaler h
  let fitted := Regressor.zero.fit config.descent data
  match fitted.result with
  | .error fault => .error fault
  | .ok loss =>
      .ok {
        model := fitted.model
        scaler := scaler
        evaluation :=
          Evaluation.compute (data.xValidation.map fitted.model.predict) data.yValidation
        validationLoss := loss
        trainSamples := h.train.size
        validationSamples := h.validation.size }

/-- Trains a model on a set; `none` when the set cannot be split. -/
def train? (config : Config R) (s : TrainingSet R) : Option (Except TrainingFault (Trained R)) :=
  (s.split? config.validationEvery).map (trainHalves config)

/-- The report of a trained model. -/
def Trained.event (t : Trained Float) : Event where
  level := .info
  target := "pipeline_lib::training"
  message := "Training completed"
  fields := [
    ("model", .text Regressor.kind),
    ("train_samples", .integer t.trainSamples),
    ("validation_samples", .integer t.validationSamples),
    ("validation_loss", .measure t.validationLoss),
    ("mae", .measure t.evaluation.mae),
    ("rmse", .measure t.evaluation.rmse)]

end Training
end FleetScore
