import FleetScore.Feature.Vector
import FleetScore.Numeric.Statistics

/-!
# Standardising features

Six numbers of different units are made comparable: from each the mean of its
column is taken off, and what remains is divided by the standard deviation of its
column, both over the training data.

A column that hardly varies has no usable deviation.  It keeps its unit: its scale is
one.  Whether a deviation is usable is asked as *greater than a threshold*, which an
infinite deviation is and a deviation that is not a number is not, so a scale is
always a positive number and a transformed feature never divided by nothing.

A scaler that was read from a file may have too few entries; a feature without one is
left as it is.
-/

namespace FleetScore

/-- Means and scales of feature columns in canonical order; the means are taken off, and the
scales are divided by. -/
structure Scaler (R : Type) where
  mean : List R
  scale : List R

namespace Scaler

variable {R : Type} [Scalar R]

/-- The distance from one to the next double. -/
def threshold : R := 1.0 / 4503599627370496.0

/-- The mean of a column with its standard deviation over the whole column. -/
def columnMoments (column : List R) : R × R :=
  let n := Scalar.ofNat column.length
  let mean := Scalar.sum column / n
  let variance := Scalar.sum (column.map fun v => Scalar.square (v - mean)) / n
  (mean, Scalar.sqrt variance)

/-- The scale for a standard deviation. -/
def scaleOf (deviation : R) : R := if Scalar.less threshold deviation then deviation else 1.0

/-- A column of some rows. -/
def column (rows : List (FeatureRow R)) (i : Fin 6) : List R := rows.map fun row => row[i]

/-- The scaler of some rows; without rows it changes nothing. -/
def fit (rows : List (FeatureRow R)) : Scaler R :=
  if rows.isEmpty then ⟨List.replicate 6 0.0, List.replicate 6 1.0⟩
  else
    let moments := (Vector.ofFn fun i => columnMoments (column rows i)).toList
    ⟨moments.map Prod.fst, moments.map fun m => scaleOf m.2⟩

/-- Standardises a row. -/
def transform (s : Scaler R) (row : FeatureRow R) : FeatureRow R :=
  Vector.ofFn fun i : Fin 6 =>
    (row[i] - (s.mean[i.val]?).getD 0.0) / (s.scale[i.val]?).getD 1.0

/-- Whether there is an entry for each feature. -/
def isComplete (s : Scaler R) : Bool :=
  s.mean.length == featureCount && s.scale.length == featureCount

/-! ## As a record -/

/-- The fields of a scaler's record. -/
def fields : List Json.Field := [⟨"mean", .required⟩, ⟨"scale", .required⟩]

/-- The record of a scaler. -/
def toJson (s : Scaler Float) : Json :=
  .record [("mean", Json.list Json.float s.mean), ("scale", Json.list Json.float s.scale)]

/-- Reads a scaler from its record. -/
def ofJson? (j : Json) : Option (Scaler Float) := do
  match ← j.fields? fields with
  | [mean, scale] =>
      some { mean := ← mean.toList? Json.toFloat?, scale := ← scale.toList? Json.toFloat? }
  | _ => none

end Scaler
end FleetScore
