import FleetScore.Proofs.Numeric.Exact
import FleetScore.Proofs.Training.BestCheckpoint
import FleetScore.Proofs.Training.ReportedResults
import FleetScore.Proofs.Training.Standardised

/-!
# What never varied has no say

A feature that has one value in all examples that a model learns from cannot be learned from.  In
exact arithmetic nothing is learned from it: whatever value it has in a row that is validated on or
predicted, the prediction is the same (`train?_ignores`).

The weight of the feature is zero, and stays zero.

* Where a model learns, the standardised feature is zero, as the mean of equal numbers is that
  number, whatever they are divided by (`transform_constant`).
* So no row adds to the slope of its weight (`foldl_add_get`), and a decay leaves a zero where it is
  (`ignores_step`).
* So all models of a course ignore the feature (`course_ignores`), and the one that is remembered
  does (`fit_ignores`).

Elsewhere the standardised feature need not be zero, but it is multiplied by the weight
(`Ignores.predict_congr`).  In doubles the first of these steps may fail (`ConstantFeatures`).
-/

namespace FleetScore

variable {K : Type} [Field K] [LinearOrder K] [FloorSemiring K] [HasRoot K]

/-! ## 1.  Models -/

namespace Regressor

/-- Whether the weight of a feature is zero. -/
def Ignores (m : Regressor (Exact K)) (i : Fin 6) : Prop := m.weights[i.val]? = some 0

variable {m : Regressor (Exact K)} {i : Fin 6}

theorem ignores_zero (i : Fin 6) : (zero : Regressor (Exact K)).Ignores i := by
  rw [Ignores, zero, List.getElem?_replicate, if_pos i.isLt, Exact.literal_zero]

/-- **A model predicts the same for rows that differ in an ignored feature only.** -/
theorem Ignores.predict_congr (hm : m.Ignores i) {row row' : FeatureRow (Exact K)}
    (hrows : ∀ j, j ≠ i → row.get j = row'.get j) : m.predict row = m.predict row' := by
  have hproducts : List.zipWith (· * ·) m.weights row.toList =
      List.zipWith (· * ·) m.weights row'.toList := by
    refine List.ext_getElem? fun k => ?_
    rw [List.getElem?_zipWith, List.getElem?_zipWith]
    obtain hk | hk := Nat.lt_or_ge k 6
    · rw [getElem?_toList row ⟨k, hk⟩, getElem?_toList row' ⟨k, hk⟩]
      obtain rfl | hne := eq_or_ne i ⟨k, hk⟩
      · rw [show m.weights[k]? = some 0 from hm]
        simp
      · rw [hrows _ hne.symm]
    · have hnone : ∀ v : FeatureRow (Exact K), v.toList[k]? = none :=
        fun v => List.getElem?_eq_none (by simpa using hk)
      rw [hnone, hnone]
  rw [predict, predict, hproducts]

/-! ## 2.  Fitting -/

theorem foldl_add_get (n : Exact K) (data : List (FeatureRow (Exact K) × Exact K))
    (hdata : ∀ d ∈ data, d.1.get i = 0) (g : Gradient (Exact K)) :
    (data.foldl (fun g d => g.add m n d.1 d.2) g).weights.get i = g.weights.get i := by
  induction data generalizing g with
  | nil => rfl
  | cons d data ih =>
    obtain ⟨hd, hdata⟩ := List.forall_mem_cons.1 hdata
    rw [List.foldl_cons, ih hdata]
    rw [Vector.get_eq_getElem] at hd
    simp [Gradient.add, Vector.get_eq_getElem, hd]

theorem gradient_get {x : List (FeatureRow (Exact K))} (hx : ∀ row ∈ x, row.get i = 0)
    (y : List (Exact K)) : (m.gradient x y).weights.get i = 0 := by
  rw [gradient, foldl_add_get _ _ fun d hd => hx d.1 (List.of_mem_zip hd).1]
  simp [Gradient.zero, Vector.get_eq_getElem, Exact.literal_zero]

/-- **A step keeps a weight at zero**, if the feature is zero in all rows. -/
theorem ignores_step (p : Descent (Exact K)) {x : List (FeatureRow (Exact K))}
    (hx : ∀ row ∈ x, row.get i = 0) (y : List (Exact K)) (hm : m.Ignores i) :
    (m.step p x y).Ignores i := by
  have hslope : (m.gradient x y).weights.toList[i.val]? = some 0 := by
    rw [getElem?_toList, gradient_get hx]
  have hweight := getElem?_stepWeights p hm hslope
  rwa [mul_zero, add_zero, mul_zero, sub_zero] at hweight

/-- So all models of a course ignore the feature, if the first one does. -/
theorem course_ignores (p : Descent (Exact K)) {d : Data (Exact K)}
    (hx : ∀ row ∈ d.x, row.get i = 0) (hm : m.Ignores i) (k : ℕ) : (course p d m k).Ignores i := by
  induction k with
  | zero => exact hm
  | succ k ih => exact ignores_step p hx d.y ih

/-- **Fitting leaves a model that ignores the feature**, if it starts from one. -/
theorem fit_ignores {p : Descent (Exact K)} {d : Data (Exact K)}
    (hx : ∀ row ∈ d.x, row.get i = 0) (hm : m.Ignores i) {loss : Exact K}
    (h : (m.fit p d).result = .ok loss) : (m.fit p d).model.Ignores i := by
  have hwell := isWellShaped_of_fit_ok h
  rw [fit, if_pos hwell] at h ⊢
  exact descend_ok (Q := fun m => m.Ignores i) (P := fun c => c.model.Ignores i)
    (fun _ => ignores_step p hx d.y) (fun _ hm _ => hm) hm hm h

end Regressor

/-! ## 3.  Scalers -/

namespace Scaler

theorem columnMoments_replicate_fst [IsStrictOrderedRing K] {n : ℕ} (hn : n ≠ 0) (v : Exact K) :
    (columnMoments (List.replicate n v)).1 = v := by
  have hcast : (n : Exact K) ≠ 0 := Nat.cast_ne_zero.2 hn
  rw [columnMoments, Exact.sum_eq, Exact.ofNat_eq, List.sum_replicate, List.length_replicate,
    nsmul_eq_mul, mul_div_cancel_left₀ v hcast]

/-- **A feature that never varies is zero in every row**, however it is scaled. -/
theorem transform_constant [IsStrictOrderedRing K] {rows : List (FeatureRow (Exact K))} {i : Fin 6}
    {v : Exact K} (hconstant : ∀ row ∈ rows, row.get i = v) :
    ∀ row ∈ rows, ((fit rows).transform row).get i = 0 := by
  intro row hrow
  have hlength : rows.length ≠ 0 := List.length_pos_of_mem hrow |>.ne'
  rw [transform_fit_get (List.ne_nil_of_mem hrow), column_eq_replicate hconstant,
    columnMoments_replicate_fst hlength, hconstant row hrow, sub_self, zero_div]

theorem transform_congr {R : Type} [Scalar R] (s : Scaler R) {row row' : FeatureRow R} {i : Fin 6}
    (hrows : ∀ j, j ≠ i → row.get j = row'.get j) :
    ∀ j, j ≠ i → (s.transform row).get j = (s.transform row').get j := by
  intro j hj
  have hj := hrows j hj
  simp only [Vector.get_eq_getElem] at hj
  simp [transform, Vector.get_eq_getElem, hj]

end Scaler

/-! ## 4.  Training -/

namespace Training

/-- **A feature that is constant in training never influences a prediction.**  In exact arithmetic,
if a training succeeds and a feature has one value in all examples of the half that was learned
from, then the weight of the feature is zero after every epoch and in the model that is returned,
and the returned model predicts the same for any two rows that differ in this feature only. -/
theorem train?_ignores [IsStrictOrderedRing K] {s : TrainingSet (Exact K)}
    (haligned : s.IsAligned) (config : Config (Exact K)) :
    ∃ halves, s.split? config.validationEvery = some halves ∧
      ∀ t, train? config s = some (.ok t) →
      ∀ (i : Fin 6) (v : Exact K), (∀ row ∈ halves.train.x, row.get i = v) →
        (∀ k, (Regressor.course config.descent (standardised t.scaler halves) Regressor.zero
          k).weights[i.val]? = some 0) ∧
        t.model.weights[i.val]? = some 0 ∧
        ∀ row row' : FeatureRow (Exact K), (∀ j, j ≠ i → row.get j = row'.get j) →
          t.predictRaw row = t.predictRaw row' := by
  obtain ⟨halves, hsplit⟩ := TrainingSet.exists_split? haligned config.validationEvery
  refine ⟨halves, hsplit, fun t ht i v hconstant => ?_⟩
  rw [train?, hsplit] at ht
  obtain ⟨hscaler, hmodel, hresult⟩ := fit_of_trainHalves (Option.some.inj ht)
  have hx : ∀ row ∈ (standardised t.scaler halves).x, row.get i = 0 := by
    intro row hrow
    obtain ⟨raw, hraw, rfl⟩ := List.mem_map.1 hrow
    rw [hscaler]
    exact Scaler.transform_constant hconstant raw hraw
  have hignores : t.model.Ignores i :=
    hmodel ▸ Regressor.fit_ignores hx (Regressor.ignores_zero i) hresult
  refine ⟨Regressor.course_ignores config.descent hx (Regressor.ignores_zero i), hignores,
    fun row row' hrows => ?_⟩
  exact hignores.predict_congr (t.scaler.transform_congr hrows)

/-! ### A feature that changes later -/

/-- Three servers, of which the last one is held back.  The first feature tells the other two apart,
and the second one is new in the last. -/
def changedSet : TrainingSet (Exact ℚ) where
  serverIds := [1, 2, 3]
  x := [#v[0.0, 20.0, 1.0, 0.0, 100.0, 5.0], #v[2.0, 20.0, 1.0, 0.0, 100.0, 5.0],
    #v[1.0, 99.0, 1.0, 0.0, 100.0, 5.0]]
  y := [10.0, 30.0, 20.0]

/-- Two epochs with every third example held back. -/
def changedConfig : Config (Exact ℚ) := ⟨⟨2, 0.1, 0.01⟩, 3⟩

/-- The first feature gets a weight, and the second one has no say, new as it may be. -/
theorem train?_ignores_changedSet :
    changedSet.IsAligned ∧ ∃ halves, changedSet.split? 3 = some halves ∧
      (∀ row ∈ halves.train.x, row.get 1 = 20) ∧
      ∃ t, train? changedConfig changedSet = some (.ok t) ∧ t.model.weights[0]? ≠ some 0 ∧
        t.model.weights[1]? = some 0 ∧
        t.predictRaw #v[1, 99, 1, 0, 100, 5] = t.predictRaw #v[1, 20, 1, 0, 100, 5] := by
  have haligned : changedSet.IsAligned := ⟨rfl, rfl⟩
  obtain ⟨halves, hsplit, hignores⟩ := train?_ignores haligned changedConfig
  obtain ⟨t, ht, hweight⟩ := exists_of_any changedConfig changedSet
    (fun t => t.model.weights[0]? ≠ some 0) (by decide +kernel)
  have hhalves : (changedSet.split? 3).map (·.train.x) = some (changedSet.x.take 2) := rfl
  change changedSet.split? 3 = some halves at hsplit
  rw [hsplit] at hhalves
  have hlearned : halves.train.x = changedSet.x.take 2 := Option.some.inj hhalves
  have hconstant : ∀ row ∈ halves.train.x, row.get 1 = 20 := by
    rw [hlearned]
    decide +kernel
  have hrows : ∀ j : Fin 6, j ≠ 1 → (#v[1, 99, 1, 0, 100, 5] : FeatureRow (Exact ℚ)).get j =
      (#v[1, 20, 1, 0, 100, 5] : FeatureRow (Exact ℚ)).get j := by decide +kernel
  obtain ⟨-, hzero, hsame⟩ := hignores t ht 1 20 hconstant
  exact ⟨haligned, halves, hsplit, hconstant, t, ht, hweight, hzero, hsame _ _ hrows⟩

end Training
end FleetScore
