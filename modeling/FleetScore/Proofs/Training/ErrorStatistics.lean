import FleetScore.Proofs.Numeric.Moments
import FleetScore.Training.Evaluation

/-!
# What the numbers of an evaluation say of each other

An evaluation sums some errors up in eight numbers, each with a pass of its own over the errors.  In
exact real arithmetic the passes have to agree (`IsConsistent`).  The root mean square is made up of
the mean and the deviation; the mean is not further from zero than the mean distance, which is not
above the root mean square, which is not above the larger of the two extremes; and all errors are
small exactly if the extremes are.

An evaluation is of a set of errors, so the order of the pairs does not matter
(`ofErrors_eq_of_perm`).  If what is predicted and what is true change places, every error changes
its sign: the distances stay, the mean changes its sign, and the extremes change places as well
(`ofErrors_map_neg`).
-/

namespace FleetScore
namespace Evaluation

variable {es es' : List (Exact ℝ)}

/-! ## 1.  The extremes -/

theorem least_cons (e : Exact ℝ) (es : List (Exact ℝ)) : least (e :: es) = es.foldl min e := by
  have hnumbers : (fun x : Exact ℝ => !Scalar.isNaN x) = fun _ => true := rfl
  have hsmaller : (Scalar.smaller : Exact ℝ → Exact ℝ → Exact ℝ) = min :=
    funext₂ Exact.smaller_eq
  rw [least, hnumbers, List.filter_true]
  dsimp only
  rw [hsmaller]

/-- **The least error** is one of the errors, and none is less. -/
theorem isLeast_least (hne : es ≠ []) : IsLeast {e | e ∈ es} (least es) := by
  obtain ⟨e, rest, rfl⟩ := List.exists_cons_of_ne_nil hne
  have hmin : (e :: rest).min? = some (least (e :: rest)) := by
    rw [least_cons, List.min?_cons']
  exact List.min?_eq_some_iff.1 hmin

theorem greatest_cons (e : Exact ℝ) (es : List (Exact ℝ)) :
    greatest (e :: es) = es.foldl max e := by
  have hnumbers : (fun x : Exact ℝ => !Scalar.isNaN x) = fun _ => true := rfl
  have hlarger : (Scalar.larger : Exact ℝ → Exact ℝ → Exact ℝ) = max := funext₂ Exact.larger_eq
  rw [greatest, hnumbers, List.filter_true]
  dsimp only
  rw [hlarger]

/-- **The greatest error** is one of the errors, and none is greater. -/
theorem isGreatest_greatest (hne : es ≠ []) : IsGreatest {e | e ∈ es} (greatest es) := by
  obtain ⟨e, rest, rfl⟩ := List.exists_cons_of_ne_nil hne
  have hmax : (e :: rest).max? = some (greatest (e :: rest)) := by
    rw [greatest_cons, List.max?_cons']
  exact List.max?_eq_some_iff.1 hmax

theorem greatest_map_neg (hne : es ≠ []) : greatest (es.map fun e => -e) = -least es := by
  obtain ⟨hmem, hle⟩ := isLeast_least hne
  refine (isGreatest_greatest (List.map_eq_nil_iff.not.2 hne)).unique ⟨List.mem_map_of_mem hmem, ?_⟩
  rintro x hx
  obtain ⟨e, he, rfl⟩ := List.mem_map.1 hx
  exact neg_le_neg (hle he)

theorem least_map_neg (hne : es ≠ []) : least (es.map fun e => -e) = -greatest es := by
  have htwice : (es.map fun e => -e).map (fun e => -e) = es := by simp
  have hgreatest := greatest_map_neg (List.map_eq_nil_iff.not.2 hne : es.map (fun e => -e) ≠ [])
  rw [htwice] at hgreatest
  rw [hgreatest, neg_neg]

/-! ## 2.  The numbers -/

/-- An average of an evaluation is an average. -/
theorem average_eq (f : Exact ℝ → Exact ℝ) (es : List (Exact ℝ)) :
    average f es = Exact.average (es.map f) := by
  rw [average, Exact.sum_eq, Exact.ofNat_eq, Exact.average, List.length_map]

theorem atMost_accuracyThreshold (e : Exact ℝ) :
    Scalar.atMost (Scalar.abs e) accuracyThreshold = decide (|e| ≤ 5) := by
  have hthreshold : (accuracyThreshold : Exact ℝ) = 5 := by norm_num [accuracyThreshold]
  have hless : Scalar.less accuracyThreshold (Scalar.abs e) = decide (5 < |e|) := by
    rw [hthreshold]
    rfl
  rw [Scalar.atMost, hless]
  change (!decide (5 < |e|)) = decide (|e| ≤ 5)
  rw [← decide_not, decide_eq_decide, not_lt]

/-- **The summary of some errors** in exact real arithmetic. -/
theorem ofErrors_eq (hne : es ≠ []) : ofErrors es = {
    samples := es.length
    mae := Exact.average (es.map fun e => |e|)
    rmse := Scalar.sqrt (Exact.meanSquare es)
    accuracy := (es.countP fun e => decide (|e| ≤ 5) : ℕ) / (es.length : ℕ)
    minError := least es
    maxError := greatest es
    meanError := Exact.average es
    stdError := Exact.deviation es } := by
  have hsmall : (es.countP fun e => Scalar.atMost (Scalar.abs e) accuracyThreshold) =
      es.countP fun e => decide (|e| ≤ 5) :=
    List.countP_congr fun e _ => by rw [atMost_accuracyThreshold]
  have hmean : average (fun e => e) es = Exact.average es := by rw [average_eq, List.map_id']
  have hrmse : average (fun e => e * e) es = Exact.meanSquare es := by
    simp only [average_eq, Exact.meanSquare, sq]
  have hstd : Scalar.sqrt (average (fun e => Scalar.square (e - Exact.average es)) es) =
      Exact.deviation es := by
    rw [Exact.deviation_eq, Exact.meanSquare, List.map_map, average_eq]
    simp only [Scalar.square, sq]
    rfl
  rw [ofErrors, if_neg (by simpa using hne)]
  dsimp only
  rw [hmean, hrmse, hsmall, hstd, average_eq]
  rfl

/-! ## 3.  How they belong together -/

/-- Whether the numbers of an evaluation agree with each other.  The mean and the deviation make
up the root mean square, which lies between the mean distance and the distances of both
extremes; the mean lies between the extremes; and the accuracy is a part of the errors, and all
of them exactly if the extremes are small. -/
structure IsConsistent (e : Evaluation (Exact ℝ)) : Prop where
  rmse_sq : e.rmse ^ 2 = e.meanError ^ 2 + e.stdError ^ 2
  abs_meanError_le : |e.meanError| ≤ e.mae
  mae_le_rmse : e.mae ≤ e.rmse
  rmse_le : e.rmse ≤ max |e.minError| |e.maxError|
  minError_le : e.minError ≤ e.meanError
  meanError_le : e.meanError ≤ e.maxError
  accuracy_mem : 0 ≤ e.accuracy ∧ e.accuracy ≤ 1
  accuracy_eq_one_iff : e.accuracy = 1 ↔ -5 ≤ e.minError ∧ e.maxError ≤ 5

theorem forall_abs_le_iff (hne : es ≠ []) :
    (∀ e ∈ es, |e| ≤ 5) ↔ -5 ≤ least es ∧ greatest es ≤ 5 := by
  obtain ⟨hleast, hleast_le⟩ := isLeast_least hne
  obtain ⟨hgreatest, hle_greatest⟩ := isGreatest_greatest hne
  constructor
  · intro hsmall
    exact ⟨(abs_le.1 (hsmall _ hleast)).1, (abs_le.1 (hsmall _ hgreatest)).2⟩
  · rintro ⟨hlow, hhigh⟩ e he
    exact abs_le.2 ⟨hlow.trans (hleast_le he), (hle_greatest he).trans hhigh⟩

/-- **The part of the errors that are small** is one exactly if the extremes are. -/
theorem accuracy_spec (hne : es ≠ []) :
    (0 ≤ (ofErrors es).accuracy ∧ (ofErrors es).accuracy ≤ 1) ∧
      ((ofErrors es).accuracy = 1 ↔ -5 ≤ least es ∧ greatest es ≤ 5) := by
  have hlength := Exact.length_pos_of_ne_nil hne
  have hcount : ((es.countP fun e => decide (|e| ≤ 5) : ℕ) : Exact ℝ) ≤ es.length :=
    Nat.cast_le.2 List.countP_le_length
  rw [ofErrors_eq hne]
  dsimp only
  refine ⟨⟨div_nonneg (Nat.cast_nonneg _) hlength.le, (div_le_one hlength).2 hcount⟩, ?_⟩
  rw [div_eq_one_iff_eq hlength.ne', Nat.cast_inj, List.countP_eq_length, ← forall_abs_le_iff hne]
  simp only [decide_eq_true_eq]

/-- **The mean distance is not above the root mean square.** -/
theorem average_abs_le_sqrt (hne : es ≠ []) :
    Exact.average (es.map fun e => |e|) ≤ Scalar.sqrt (Exact.meanSquare es) := by
  have hsquares : Exact.meanSquare (es.map fun e => |e|) = Exact.meanSquare es := by
    rw [Exact.meanSquare, Exact.meanSquare, List.map_map]
    exact congrArg Exact.average (List.map_congr_left fun e _ => sq_abs e)
  refine Exact.le_sqrt ?_
  rw [← hsquares]
  exact Exact.sq_average_le_meanSquare (List.map_eq_nil_iff.not.2 hne)

/-- **The root mean square is not above the distances of both extremes.** -/
theorem sqrt_meanSquare_le (hne : es ≠ []) :
    Scalar.sqrt (Exact.meanSquare es) ≤ max |least es| |greatest es| := by
  have hdistance : (0 : Exact ℝ) ≤ max |least es| |greatest es| :=
    (abs_nonneg _).trans (le_max_left _ _)
  refine Exact.sqrt_le hdistance (Exact.average_le (List.map_eq_nil_iff.not.2 hne) ?_)
  intro x hx
  obtain ⟨e, he, rfl⟩ := List.mem_map.1 hx
  exact sq_le_sq.2 ((abs_le_max_abs_abs ((isLeast_least hne).2 he)
    ((isGreatest_greatest hne).2 he)).trans_eq (abs_of_nonneg hdistance).symm)

/-- **The numbers of an evaluation agree with each other.** -/
theorem isConsistent_ofErrors (hne : es ≠ []) : IsConsistent (ofErrors es) := by
  obtain ⟨haccuracy, hone⟩ := accuracy_spec hne
  have hleast : ∀ e ∈ es, least es ≤ e := fun _ he => (isLeast_least hne).2 he
  have hgreatest : ∀ e ∈ es, e ≤ greatest es := fun _ he => (isGreatest_greatest hne).2 he
  rw [ofErrors_eq hne] at haccuracy hone ⊢
  exact {
    rmse_sq := (Exact.sq_sqrt (Exact.meanSquare_nonneg es)).trans (Exact.meanSquare_eq hne)
    abs_meanError_le := Exact.abs_average_le es
    mae_le_rmse := average_abs_le_sqrt hne
    rmse_le := sqrt_meanSquare_le hne
    minError_le := Exact.le_average hne hleast
    meanError_le := Exact.average_le hne hgreatest
    accuracy_mem := haccuracy
    accuracy_eq_one_iff := hone }

/-! ## 4.  Other errors -/

/-- **The order of the errors does not matter.** -/
theorem ofErrors_eq_of_perm (hne : es ≠ []) (hperm : es'.Perm es) : ofErrors es' = ofErrors es := by
  have hne' : es' ≠ [] := by
    rintro rfl
    exact hne hperm.nil_eq.symm
  have hsame : {e | e ∈ es'} = {e | e ∈ es} := Set.ext fun _ => hperm.mem_iff
  have hleast : least es' = least es :=
    (hsame ▸ isLeast_least hne').unique (isLeast_least hne)
  have hgreatest : greatest es' = greatest es :=
    (hsame ▸ isGreatest_greatest hne').unique (isGreatest_greatest hne)
  rw [ofErrors_eq hne, ofErrors_eq hne', hperm.length_eq, hperm.countP_eq, hleast, hgreatest,
    Exact.average_eq_of_perm hperm, Exact.average_eq_of_perm (hperm.map _),
    Exact.meanSquare_eq_of_perm hperm, Exact.deviation_eq_of_perm hperm]

/-- The summary of errors that all have the other sign. -/
noncomputable def mirrored (e : Evaluation (Exact ℝ)) : Evaluation (Exact ℝ) :=
  { e with meanError := -e.meanError, minError := -e.maxError, maxError := -e.minError }

/-- **Errors of the other sign** have the other mean and the other extremes. -/
theorem ofErrors_map_neg (hne : es ≠ []) :
    ofErrors (es.map fun e => -e) = (ofErrors es).mirrored := by
  have hdistances : ((es.map fun e => -e).map fun e => |e|) = es.map fun e => |e| := by
    rw [List.map_map]
    exact List.map_congr_left fun e _ => abs_neg e
  have hsmall : (es.map fun e => -e).countP (fun e => decide (|e| ≤ 5)) =
      es.countP fun e => decide (|e| ≤ 5) := by
    rw [List.countP_map]
    refine List.countP_congr fun e _ => ?_
    rw [Function.comp_apply, abs_neg]
  rw [ofErrors_eq (List.map_eq_nil_iff.not.2 hne), ofErrors_eq hne, hdistances, hsmall,
    List.length_map, Exact.meanSquare_neg, Exact.average_neg, Exact.deviation_neg, least_map_neg hne,
    greatest_map_neg hne]
  rfl

/-! ## 5.  Predictions and the truth -/

theorem errors_eq_map (predictions truth : List (Exact ℝ)) :
    errors predictions truth = (predictions.zip truth).map fun p => p.1 - p.2 :=
  List.map_uncurry_zip_eq_zipWith.symm

theorem errors_ne_nil {predictions truth : List (Exact ℝ)} (hpredictions : predictions ≠ [])
    (htruth : truth ≠ []) : errors predictions truth ≠ [] := by
  obtain ⟨p, predictions, rfl⟩ := List.exists_cons_of_ne_nil hpredictions
  obtain ⟨t, truth, rfl⟩ := List.exists_cons_of_ne_nil htruth
  exact List.cons_ne_nil _ _

/-- **If predictions and the truth change places, every error changes its sign.** -/
theorem errors_swap (predictions truth : List (Exact ℝ)) :
    errors truth predictions = (errors predictions truth).map fun e => -e := by
  rw [errors, errors, List.zipWith_comm, List.map_zipWith]
  simp only [neg_sub]

/-- **The numbers of an evaluation belong together.**  In exact real arithmetic, if there is at
least one pair, the samples are as many as the shorter list has, and the numbers agree with each
other; the order of the pairs does not matter; and if predictions and the truth change places, the
distances and the accuracy stay, the mean error changes its sign, and the extremes change places and
signs. -/
theorem compute_agrees {predictions truth : List (Exact ℝ)} (hpredictions : predictions ≠ [])
    (htruth : truth ≠ []) :
    (compute predictions truth).samples = min predictions.length truth.length ∧
      (compute predictions truth).IsConsistent ∧
      (∀ predictions' truth' : List (Exact ℝ),
        (predictions'.zip truth').Perm (predictions.zip truth) →
          compute predictions' truth' = compute predictions truth) ∧
      compute truth predictions = (compute predictions truth).mirrored := by
  have hne := errors_ne_nil hpredictions htruth
  refine ⟨?_, isConsistent_ofErrors hne, fun predictions' truth' hperm => ?_, ?_⟩
  · rw [compute, ofErrors_eq hne]
    exact List.length_zipWith
  · refine ofErrors_eq_of_perm hne ?_
    rw [errors_eq_map, errors_eq_map]
    exact hperm.map _
  · rw [compute, errors_swap, ofErrors_map_neg hne]
    rfl

/-- Three predictions against four truths: the errors are ten, zero and minus two. -/
theorem compute_agrees_threeErrors :
    ([12, 0, 3] : List (Exact ℝ)) ≠ [] ∧ ([2, 0, 5, 9] : List (Exact ℝ)) ≠ [] ∧
      (compute [12, 0, 3] [2, 0, 5, 9] : Evaluation (Exact ℝ)).samples = 3 ∧
      (compute [12, 0, 3] [2, 0, 5, 9] : Evaluation (Exact ℝ)).IsConsistent ∧
      compute [3, 12, 0] [5, 2, 0] = (compute [12, 0, 3] [2, 0, 5, 9] : Evaluation (Exact ℝ)) ∧
      compute [2, 0, 5, 9] [12, 0, 3] =
        (compute [12, 0, 3] [2, 0, 5, 9] : Evaluation (Exact ℝ)).mirrored := by
  have hpredictions : ([12, 0, 3] : List (Exact ℝ)) ≠ [] := List.cons_ne_nil _ _
  have htruth : ([2, 0, 5, 9] : List (Exact ℝ)) ≠ [] := List.cons_ne_nil _ _
  obtain ⟨hsamples, hconsistent, horder, hswap⟩ := compute_agrees hpredictions htruth
  -- The last pair comes first.
  have hpairs : (([3, 12, 0] : List (Exact ℝ)).zip ([5, 2, 0] : List (Exact ℝ))).Perm
      (([12, 0, 3] : List (Exact ℝ)).zip ([2, 0, 5, 9] : List (Exact ℝ))) :=
    (List.perm_append_singleton (3, 5) [(12, 2), (0, 0)]).symm
  exact ⟨hpredictions, htruth, hsamples, hconsistent, horder _ _ hpairs, hswap⟩

end Evaluation
end FleetScore
