import FleetScore.Proofs.Numeric.Exact
import FleetScore.Training.Scaler

/-!
# What standardising does to a feature

A scaler is two lists, and standardising a row looks both of them up by the position of a feature.
Over any scalars,

* a scaler that was fitted has an entry in either list for each feature (`isComplete_fit`), and it
  is made from the column of that feature alone (`fit_getElem?`);
* so a feature is standardised by the moments of its own column (`transform_fit_get`).

Over the real numbers these moments are the average and the standard deviation
(`columnMoments_eq`), and the scale is the deviation if that is above the threshold, and one
otherwise (`scaleOf_of_lt`, `scaleOf_of_le`).
-/

namespace FleetScore
namespace Scaler

/-! ## 1.  Entries -/

section

variable {R : Type} [Scalar R] {rows : List (FeatureRow R)} {i : Fin 6}

theorem isComplete_fit (rows : List (FeatureRow R)) :
    (fit rows).mean.length = 6 ∧ (fit rows).scale.length = 6 := by
  unfold fit
  split <;> simp

theorem fit_getElem? (hne : rows ≠ []) (i : Fin 6) :
    (fit rows).mean[i.val]? = some (columnMoments (column rows i)).1 ∧
      (fit rows).scale[i.val]? = some (scaleOf (columnMoments (column rows i)).2) := by
  rw [fit, if_neg (by simpa using hne)]
  constructor <;> simp

theorem transform_get {s : Scaler R} {mean scale : R} (row : FeatureRow R)
    (hmean : s.mean[i.val]? = some mean) (hscale : s.scale[i.val]? = some scale) :
    (s.transform row).get i = (row.get i - mean) / scale := by
  simp [transform, hmean, hscale, Vector.get_eq_getElem]

/-- **A feature is standardised by the moments of its own column.** -/
theorem transform_fit_get (hne : rows ≠ []) (row : FeatureRow R) (i : Fin 6) :
    ((fit rows).transform row).get i =
      (row.get i - (columnMoments (column rows i)).1) /
        scaleOf (columnMoments (column rows i)).2 :=
  transform_get row (fit_getElem? hne i).1 (fit_getElem? hne i).2

omit [Scalar R] in
theorem column_eq_replicate {v : R} (hconstant : ∀ row ∈ rows, row.get i = v) :
    column rows i = List.replicate rows.length v :=
  List.eq_replicate_iff.2 ⟨List.length_map _, fun x hx => by
    obtain ⟨row, hrow, rfl⟩ := List.mem_map.1 hx
    exact hconstant row hrow⟩

end

/-! ## 2.  Moments of real numbers -/

/-- **The moments of a column** are its average and its standard deviation. -/
theorem columnMoments_eq (xs : List (Exact ℝ)) :
    columnMoments xs = (Exact.average xs, Exact.deviation xs) := by
  simp only [columnMoments, Exact.sum_eq, Exact.ofNat_eq, Exact.sqrt_eq, Scalar.square, ← sq]
  rfl

theorem scaleOf_of_lt {deviation : Exact ℝ} (h : threshold < deviation) :
    scaleOf deviation = deviation :=
  if_pos (decide_eq_true h)

theorem scaleOf_of_le {deviation : Exact ℝ} (h : deviation ≤ threshold) : scaleOf deviation = 1 := by
  have hless : Scalar.less threshold deviation = false := decide_eq_false h.not_gt
  rw [scaleOf, hless]
  norm_num

end Scaler
end FleetScore
