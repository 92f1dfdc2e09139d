import FleetScore.Training.Scaler
import FleetScore.Failure

/-!
# Linear regression by gradient descent

The model predicts a label as a weighted sum of standardised features and a bias.
It is fitted by taking, epoch after epoch, one step down the gradient of the mean
squared error over *all* training data, with a decay that pulls the weights, and
only the weights, towards zero.

## What fitting keeps

After each epoch the loss on the validation data is computed.  If it is not finite,
fitting stops there, and the model is left as the epoch made it.  Otherwise, if it is
less than every loss before, the model is remembered.  At the end the remembered
model replaces the last one.  So the model that fitting leaves behind is the best one
it has seen, the one it started from included.

A model that was read from a file may have any number of weights.  Those beyond the
features take no part in a prediction and no step.
-/

namespace FleetScore

/-- A linear model over standardised features: a weight for each, and what is predicted where
all of them are zero. -/
structure Regressor (R : Type) where
  weights : List R
  bias : R

namespace Regressor

/-- The family of models. -/
def kind : String := "linear"

section

variable {R : Type} [Scalar R]

/-- The model that predicts zero. -/
def zero : Regressor R := ⟨List.replicate 6 0.0, 0.0⟩

/-- The prediction for a standardised row. -/
def predict (m : Regressor R) (row : FeatureRow R) : R :=
  Scalar.sum (List.zipWith (· * ·) m.weights row.toList) + m.bias

/-- The mean squared error over some rows; zero without rows. -/
def meanSquaredError (m : Regressor R) (x : List (FeatureRow R)) (y : List R) : R :=
  if x.isEmpty then 0.0
  else
    Scalar.sum (List.zipWith (fun row target => Scalar.square (m.predict row - target)) x y)
      / Scalar.ofNat x.length

/-! ## One epoch -/

/-- A direction in which a model can be moved, by weight and for the bias. -/
structure Gradient (R : Type) where
  weights : FeatureRow R
  bias : R

/-- The gradient of no data. -/
def Gradient.zero : Gradient R := ⟨Vector.replicate 6 0.0, 0.0⟩

/-- Adds the part of one row to a gradient over `n` rows. -/
def Gradient.add (m : Regressor R) (n : R) (g : Gradient R) (row : FeatureRow R) (target : R) :
    Gradient R :=
  let error := m.predict row - target
  ⟨Vector.zipWith (fun slope v => slope + 2.0 * error * v / n) g.weights row,
    g.bias + 2.0 * error / n⟩

/-- The gradient of the mean squared error. -/
def gradient (m : Regressor R) (x : List (FeatureRow R)) (y : List R) : Gradient R :=
  (x.zip y).foldl (fun g d => g.add m (Scalar.ofNat x.length) d.1 d.2) Gradient.zero

/-- The parameters of fitting: how many steps are taken, the length of a step by the gradient,
and how strongly weights are pulled towards zero. -/
structure Descent (R : Type) where
  epochs : Nat
  learningRate : R
  weightDecay : R

/-- The parameters used unless others are given. -/
def Descent.standard : Descent R := ⟨100, 0.01, 0.01⟩

/-- Moves weights down a gradient; weights beyond it stay. -/
def stepWeights (p : Descent R) : List R → List R → List R
  | w :: ws, g :: gs => (w - p.learningRate * (g + p.weightDecay * w)) :: stepWeights p ws gs
  | ws, _ => ws

/-- The model after one step. -/
def step (p : Descent R) (x : List (FeatureRow R)) (y : List R) (m : Regressor R) : Regressor R :=
  let g := m.gradient x y
  ⟨stepWeights p m.weights g.weights.toList, m.bias - p.learningRate * g.bias⟩

/-! ## All epochs -/

/-- Standardised rows with their labels to learn from, and those that the loss is watched on. -/
structure Data (R : Type) where
  x : List (FeatureRow R)
  y : List R
  xValidation : List (FeatureRow R)
  yValidation : List R

/-- Whether there is data to learn from and every row has its label. -/
def Data.isWellShaped (d : Data R) : Bool :=
  !d.x.isEmpty && d.x.length == d.y.length && d.xValidation.length == d.yValidation.length

/-- The loss of a model on the validation data. -/
def Data.loss (d : Data R) (m : Regressor R) : R := m.meanSquaredError d.xValidation d.yValidation

/-- A model with its loss on the validation data. -/
structure Checkpoint (R : Type) where
  model : Regressor R
  loss : R

/-- What fitting leaves behind: the model, the losses after the epochs that were completed, and
the loss of the model, or why fitting stopped. -/
structure Fitted (R : Type) where
  model : Regressor R
  losses : List R
  result : Except TrainingFault R

/-- Takes `remaining` more steps, of which the next is the one numbered `epoch`. -/
def descend (p : Descent R) (d : Data R) :
    (remaining epoch : Nat) → Regressor R → Checkpoint R → List R → Fitted R
  | 0, _, _, best, losses => ⟨best.model, losses.reverse, .ok best.loss⟩
  | remaining + 1, epoch, model, best, losses =>
      let next := model.step p d.x d.y
      let loss := d.loss next
      if Scalar.isFinite loss then
        let best := if Scalar.less loss best.loss then ⟨next, loss⟩ else best
        descend p d remaining (epoch + 1) next best (loss :: losses)
      else ⟨next, losses.reverse, .error (.diverged epoch)⟩

/-- Fits a model. -/
def fit (p : Descent R) (d : Data R) (m : Regressor R) : Fitted R :=
  if d.isWellShaped then descend p d p.epochs 1 m ⟨m, d.loss m⟩ []
  else
    ⟨m, [], .error (.shapes d.x.length d.y.length d.xValidation.length d.yValidation.length)⟩

end

/-! ## As a record -/

/-- The fields of a model's record. -/
def fields : List Json.Field := [⟨"weights", .required⟩, ⟨"bias", .required⟩]

/-- The record of a model. -/
def toJson (m : Regressor Float) : Json :=
  .record [("weights", Json.list Json.float m.weights), ("bias", .float m.bias)]

/-- Reads a model from its record. -/
def ofJson? (j : Json) : Option (Regressor Float) := do
  match ← j.fields? fields with
  | [weights, bias] =>
      some { weights := ← weights.toList? Json.toFloat?, bias := ← bias.toFloat? }
  | _ => none

end Regressor
end FleetScore
