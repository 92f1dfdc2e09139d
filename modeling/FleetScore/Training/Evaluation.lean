import FleetScore.Numeric.Statistics
import FleetScore.Numeric.Binary64
import FleetScore.Json.Decode

/-!
# How good a model is

Predictions are held against the truth.  An *error* is a prediction minus the truth
it stands for; predictions without a truth, and truths without a prediction, are left
out.  Eight numbers sum the errors up: how many there are, how large they are on
average in two senses, how many are small, the least and the greatest of them, and
their mean with the deviation from it.  Without errors all eight are zero.
-/

namespace FleetScore

/-- The summary of the errors of a model: their number, the mean distance from the truth, the
root of the mean square, the part of them that are small, the extremes, the mean and the
standard deviation. -/
structure Evaluation (R : Type) where
  samples : Nat
  mae : R
  rmse : R
  accuracy : R
  minError : R
  maxError : R
  meanError : R
  stdError : R

namespace Evaluation

section

variable {R : Type} [Scalar R]

/-- An error up to this distance from zero is small. -/
def accuracyThreshold : R := 5.0

/-- The summary of no errors. -/
def zero : Evaluation R := ⟨0, 0.0, 0.0, 0.0, 0.0, 0.0, 0.0, 0.0⟩

/-- The least of the numbers in a list. -/
def least (xs : List R) : R :=
  match xs.filter fun x => !Scalar.isNaN x with
  | [] => Scalar.infinity
  | x :: rest => rest.foldl Scalar.smaller x

/-- The greatest of the numbers in a list. -/
def greatest (xs : List R) : R :=
  match xs.filter fun x => !Scalar.isNaN x with
  | [] => -Scalar.infinity
  | x :: rest => rest.foldl Scalar.larger x

/-- The errors of predictions. -/
def errors (predictions truth : List R) : List R := List.zipWith (· - ·) predictions truth

/-- The average of a function over a list. -/
def average (f : R → R) (xs : List R) : R :=
  Scalar.sum (xs.map f) / Scalar.ofNat xs.length

/-- The summary of some errors. -/
def ofErrors (es : List R) : Evaluation R :=
  if es.isEmpty then zero
  else
    let mean := average (fun e => e) es
    { samples := es.length
      mae := average Scalar.abs es
      rmse := Scalar.sqrt (average (fun e => e * e) es)
      accuracy :=
        Scalar.ofNat (es.countP fun e => Scalar.atMost (Scalar.abs e) accuracyThreshold)
          / Scalar.ofNat es.length
      minError := least es
      maxError := greatest es
      meanError := mean
      stdError := Scalar.sqrt (average (fun e => Scalar.square (e - mean)) es) }

/-- Holds predictions against the truth. -/
def compute (predictions truth : List R) : Evaluation R := ofErrors (errors predictions truth)

end

/-! ## As a record -/

/-- The fields of an evaluation's record. -/
def fields : List Json.Field := [
  ⟨"samples", .required⟩, ⟨"mae", .required⟩, ⟨"rmse", .required⟩, ⟨"accuracy", .required⟩,
  ⟨"min_error", .required⟩, ⟨"max_error", .required⟩, ⟨"mean_error", .required⟩,
  ⟨"std_error", .required⟩]

/-- The record of an evaluation. -/
def toJson (e : Evaluation Float) : Json :=
  .record [
    ("samples", .nat e.samples),
    ("mae", .float e.mae),
    ("rmse", .float e.rmse),
    ("accuracy", .float e.accuracy),
    ("min_error", .float e.minError),
    ("max_error", .float e.maxError),
    ("mean_error", .float e.meanError),
    ("std_error", .float e.stdError)]

/-- Reads an evaluation from its record. -/
def ofJson? (j : Json) : Option (Evaluation Float) := do
  match ← j.fields? fields with
  | [samples, mae, rmse, accuracy, minError, maxError, meanError, stdError] =>
      some {
        samples := ← samples.toCount?
        mae := ← mae.toFloat?
        rmse := ← rmse.toFloat?
        accuracy := ← accuracy.toFloat?
        minError := ← minError.toFloat?
        maxError := ← maxError.toFloat?
        meanError := ← meanError.toFloat?
        stdError := ← stdError.toFloat? }
  | _ => none

end Evaluation
end FleetScore
