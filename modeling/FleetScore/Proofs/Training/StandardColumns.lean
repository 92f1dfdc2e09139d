import FleetScore.Proofs.Numeric.Moments
import FleetScore.Proofs.Numeric.Comparison
import FleetScore.Proofs.Training.Standardised

/-!
# A scaler and the rows it was fitted to

A scaler is fitted so that its own rows become comparable, and that is asked here in two ways.

In exact real arithmetic the rows of a scaler are standardised by it: every column then has the
average zero, and a column whose deviation is above the threshold has the mean square one.  A column
with a smaller deviation keeps its unit, and is only moved (`standardises`).

In doubles nothing of that can be said of all rows, as values may be infinite or not numbers, and
sums of finite values may be too large.  What remains is that a scaler can be applied at all
(`isSafe_fit`): it has an entry for each feature, and what is divided by is a number above the
threshold.  The reason is the direction of the comparison.  A deviation has to be *above* the
threshold to be used, and one that is not a number is not.
-/

namespace FleetScore
namespace Scaler

/-! ## 1.  Columns of real numbers -/

section

variable {rows : List (FeatureRow (Exact ℝ))}

/-- **A standardised column** has the average taken off, and the scale divided by. -/
theorem column_standardised (hne : rows ≠ []) (i : Fin 6) :
    column (rows.map (fit rows).transform) i = (column rows i).map fun v =>
      (v - Exact.average (column rows i)) / scaleOf (Exact.deviation (column rows i)) := by
  have hmoments := columnMoments_eq (column rows i)
  rw [column, List.map_map, column, List.map_map]
  refine List.map_congr_left fun row _ => ?_
  have hget := transform_fit_get hne row i
  rw [hmoments] at hget
  exact hget

/-- What a scaler makes of a column of its own rows: the average is zero, and the mean square is
one if the deviation was above the threshold; otherwise the column is only moved. -/
structure Standardises (rows : List (FeatureRow (Exact ℝ))) (i : Fin 6) : Prop where
  average_eq : Exact.average (column (rows.map (fit rows).transform) i) = 0
  meanSquare_eq : threshold < Exact.deviation (column rows i) →
    Exact.meanSquare (column (rows.map (fit rows).transform) i) = 1
  centred : Exact.deviation (column rows i) ≤ threshold →
    column (rows.map (fit rows).transform) i =
      (column rows i).map fun v => v - Exact.average (column rows i)

/-- **A scaler standardises its own rows.** -/
theorem standardises (hne : rows ≠ []) (i : Fin 6) : Standardises rows i := by
  have hcolumn : column rows i ≠ [] := List.map_eq_nil_iff.not.2 hne
  refine ⟨?_, fun habove => ?_, fun hbelow => ?_⟩
  · rw [column_standardised hne, Exact.average_map_div, Exact.average_distances hcolumn, zero_div]
  · have hpositive : (0 : Exact ℝ) < threshold := by norm_num [threshold]
    have hdeviation : Exact.deviation (column rows i) ^ 2 ≠ 0 :=
      pow_ne_zero 2 (hpositive.trans habove).ne'
    rw [column_standardised hne, scaleOf_of_lt habove, Exact.meanSquare_map_div,
      ← Exact.deviation_sq, div_self hdeviation]
  · rw [column_standardised hne, scaleOf_of_le hbelow]
    simp only [div_one]

end

/-! ## 2.  Scales in doubles -/

/-- Whether a scaler can be applied to all rows: every feature has its mean taken off and is
divided by its scale, and every scale is above the threshold, and so above zero. -/
structure IsSafe (s : Scaler Float) : Prop where
  length_mean : s.mean.length = 6
  length_scale : s.scale.length = 6
  less_scale : ∀ scale ∈ s.scale, Scalar.less threshold scale = true
  transform_get : ∀ (row : FeatureRow Float) (i : Fin 6), ∃ mean scale,
    s.mean[i.val]? = some mean ∧ s.scale[i.val]? = some scale ∧
      (s.transform row).get i = (row.get i - mean) / scale ∧
      Scalar.isNaN scale = false ∧ Scalar.less 0.0 scale = true

/-- **A scale is above the threshold**, whatever the deviation is. -/
theorem less_threshold_scaleOf (deviation : Float) :
    Scalar.less threshold (scaleOf deviation) = true := by
  rw [scaleOf]
  split
  · assumption
  · decide +kernel

theorem less_zero_of_less_threshold {scale : Float} (h : Scalar.less threshold scale = true) :
    Scalar.isNaN scale = false ∧ Scalar.less 0.0 scale = true := by
  have hpositive : Scalar.less (0.0 : Float) threshold = true := by decide +kernel
  obtain ⟨hzero, -, hlevel⟩ := Binary64.less_iff.1 hpositive
  obtain ⟨-, hnumber, hlevel'⟩ := Binary64.less_iff.1 h
  exact ⟨hnumber, Binary64.less_iff.2 ⟨hzero, hnumber, hlevel.trans hlevel'⟩⟩

theorem less_threshold_of_mem {rows : List (FeatureRow Float)} :
    ∀ scale ∈ (fit rows).scale, Scalar.less threshold scale = true := by
  rw [fit]
  split
  · intro scale hscale
    obtain rfl := List.eq_of_mem_replicate hscale
    decide +kernel
  · intro scale hscale
    obtain ⟨moments, -, rfl⟩ := List.mem_map.1 hscale
    exact less_threshold_scaleOf moments.2

/-- **A fitted scaler can be applied to all rows.** -/
theorem isSafe_fit (rows : List (FeatureRow Float)) : IsSafe (fit rows) := by
  obtain ⟨hmean, hscale⟩ := isComplete_fit rows
  refine ⟨hmean, hscale, less_threshold_of_mem, fun row i => ?_⟩
  obtain ⟨mean, hmean_get⟩ : ∃ mean, (fit rows).mean[i.val]? = some mean :=
    ⟨_, List.getElem?_eq_getElem (by omega)⟩
  obtain ⟨scale, hscale_get⟩ : ∃ scale, (fit rows).scale[i.val]? = some scale :=
    ⟨_, List.getElem?_eq_getElem (by omega)⟩
  exact ⟨mean, scale, hmean_get, hscale_get, transform_get row hmean_get hscale_get,
    less_zero_of_less_threshold (less_threshold_of_mem scale (List.mem_of_getElem? hscale_get))⟩

/-! ## 3.  Both -/

/-- **A scaler standardises its own rows, and is safe to apply to any.**  In exact real arithmetic
every column of some rows has, after they are transformed by their own scaler, the average zero, and
the mean square one if its deviation was above the threshold; otherwise it is only moved by its
average.  In doubles, whatever the rows are, the scaler has six means and six scales, and never is
divided by zero, a negative number or what is not a number. -/
theorem fit_standardises :
    (∀ rows : List (FeatureRow (Exact ℝ)), rows ≠ [] → ∀ i, Standardises rows i) ∧
      ∀ rows : List (FeatureRow Float), IsSafe (fit rows) :=
  ⟨fun _ hne i => standardises hne i, isSafe_fit⟩

/-! ### A feature that varies beside one that does not -/

/-- Two servers of one capacity. -/
def twoServers {R : Type} [Scalar R] : List (FeatureRow R) :=
  [#v[1.0, 10.0, 0.0, 0.0, 0.0, 5.0], #v[3.0, 30.0, 0.0, 0.0, 0.0, 5.0]]

theorem deviation_twoServers :
    Exact.deviation (column twoServers 0) = 1 ∧ Exact.deviation (column twoServers 5) = 0 := by
  have hload : column twoServers 0 = [(1 : Exact ℝ), 3] := by
    change [(1.0 : Exact ℝ), 3.0] = [1, 3]
    norm_num
  have hcapacity : column twoServers 5 = [(5 : Exact ℝ), 5] := by
    change [(5.0 : Exact ℝ), 5.0] = [5, 5]
    norm_num
  have hsquare : Exact.deviation [1, 3] ^ 2 = 1 := by
    rw [Exact.deviation_sq]
    norm_num [Exact.meanSquare, Exact.average]
  have hsquare' : Exact.deviation [5, 5] ^ 2 = 0 := by
    rw [Exact.deviation_sq]
    norm_num [Exact.meanSquare, Exact.average]
  rw [hload, hcapacity]
  exact ⟨(pow_eq_one_iff_of_nonneg (Real.sqrt_nonneg _) two_ne_zero).1 hsquare,
    pow_eq_zero_iff two_ne_zero |>.1 hsquare'⟩

/-- The load of the two becomes a feature of average zero and mean square one, and their capacity is
only moved.  In doubles a row with infinities and what is not a number, and no rows at all, have
scalers that can be applied. -/
theorem fit_standardises_twoServers :
    twoServers (R := Exact ℝ) ≠ [] ∧
      Exact.average (column (twoServers.map (fit twoServers).transform) 0) = 0 ∧
      Exact.meanSquare (column (twoServers.map (fit twoServers).transform) 0) = 1 ∧
      column (twoServers.map (fit twoServers).transform) 5 = (column twoServers 5).map (fun v =>
        v - Exact.average (column twoServers 5)) ∧
      IsSafe (fit [#v[0.0 / 0.0, 1.0 / 0.0, -1.0 / 0.0, 0.0, 1e308, 5e-324]]) ∧
      IsSafe (fit []) := by
  obtain ⟨hload, hcapacity⟩ := deviation_twoServers
  have hne : twoServers (R := Exact ℝ) ≠ [] := List.cons_ne_nil _ _
  obtain ⟨hexact, hdoubles⟩ := fit_standardises
  refine ⟨hne, (hexact _ hne 0).average_eq, (hexact _ hne 0).meanSquare_eq ?_,
    (hexact _ hne 5).centred ?_, hdoubles _, hdoubles _⟩
  · rw [hload, threshold]
    norm_num
  · rw [hcapacity, threshold]
    norm_num

end Scaler
end FleetScore
