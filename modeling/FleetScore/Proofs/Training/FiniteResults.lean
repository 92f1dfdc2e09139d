import FleetScore.Proofs.Training.Halves
import FleetScore.Proofs.Training.Losses
import FleetScore.Proofs.Training.Standardised

/-!
# What training puts into the files

Training reports success if the loss of the model it leaves behind is finite.  This file follows
that loss into everything else training returns.

* The *model* is finite, and so are the standardised validation rows (`Losses`).
* The *means* of the scaler are finite: a mean that is not would make every standardised row
  infinite or not a number.
* The *evaluation* is finite in all fields but one.  Its errors have finite squares, so none is
  larger than `2 ^ 512`, and their sums are far from overflowing.  Their root mean square is the
  root of the loss.

Two kinds of numbers are not vouched for.  A *scale* may be infinite: whatever is divided by it is
zero, and a feature of zeros does not show in the loss.  And the *deviation of the errors* is
computed from squares of its own, around the mean of the errors; these squares may overflow by a
rounding where those of the errors do not.
-/

namespace FleetScore

open Binary64

/-! ## 1.  Evaluations -/

namespace Evaluation

theorem isFinite_smaller {a b : Float} (ha : Scalar.isFinite a = true)
    (hb : Scalar.isFinite b = true) : Scalar.isFinite (Scalar.smaller a b) = true := by
  unfold Scalar.smaller
  split_ifs <;> assumption

theorem isFinite_larger {a b : Float} (ha : Scalar.isFinite a = true)
    (hb : Scalar.isFinite b = true) : Scalar.isFinite (Scalar.larger a b) = true := by
  unfold Scalar.larger
  split_ifs <;> assumption

theorem isFinite_foldl {f : Float → Float → Float}
    (hf : ∀ {a b}, Scalar.isFinite a = true → Scalar.isFinite b = true →
      Scalar.isFinite (f a b) = true)
    {xs : List Float} (h : ∀ x ∈ xs, Scalar.isFinite x = true) {a : Float}
    (ha : Scalar.isFinite a = true) : Scalar.isFinite (xs.foldl f a) = true := by
  induction xs generalizing a with
  | nil => exact ha
  | cons x xs ih =>
    obtain ⟨hx, hxs⟩ := List.forall_mem_cons.1 h
    exact ih hxs (hf ha hx)

theorem filter_isNaN {xs : List Float} (h : ∀ x ∈ xs, Scalar.isFinite x = true) :
    (xs.filter fun x => !Scalar.isNaN x) = xs :=
  List.filter_eq_self.2 fun x hx => by rw [isNaN_of_isFinite (h x hx)]; rfl

theorem isFinite_extrema {xs : List Float} (hne : xs ≠ [])
    (h : ∀ x ∈ xs, Scalar.isFinite x = true) :
    Scalar.isFinite (least xs) = true ∧ Scalar.isFinite (greatest xs) = true := by
  cases xs with
  | nil => exact absurd rfl hne
  | cons x xs =>
    obtain ⟨hx, hxs⟩ := List.forall_mem_cons.1 h
    rw [least, greatest, filter_isNaN h]
    exact ⟨isFinite_foldl isFinite_smaller hxs hx, isFinite_foldl isFinite_larger hxs hx⟩

/-- **An average of bounded numbers is bounded.** -/
theorem isWithin_average {f : Float → Float} {es : List Float} (hne : es ≠ [])
    (hsize : es.length ≤ 2 ^ 64) {p : ℤ} (hp : -1076 ≤ p) (hp' : p ≤ 969)
    (h : ∀ e ∈ es, IsWithin p (f e)) : IsWithin (p + 54) (average f es) := by
  have hlength : es.length ≠ 0 := List.length_eq_zero_iff.not.2 hne
  have hcount : (es.length : ℚ) ≤ 2 ^ (64 : ℤ) := by exact_mod_cast hsize
  have hterms : ∀ x ∈ es.map f, IsWithin p x := by
    intro x hx
    obtain ⟨e, he, rfl⟩ := List.mem_map.1 hx
    exact h e he
  exact (IsWithin.sum hterms hp hp').div
    (neighbours_ofNat hlength hcount (by norm_num) (by norm_num)).1.isFinite
    (one_le_ofNat hlength hcount (by norm_num) (by norm_num)) (by omega) (by omega)

/-- **A part of a count is at most about one.** -/
theorem isFinite_part {k n : ℕ} (hn : n ≠ 0) (hkn : k ≤ n) (hsize : n ≤ 2 ^ 64) :
    Scalar.isFinite (Scalar.ofNat k / Scalar.ofNat n : Float) = true := by
  have hcount : (n : ℚ) ≤ 2 ^ (64 : ℤ) := by exact_mod_cast hsize
  have hpart : IsWithin 64 (Scalar.ofNat k : Float) := by
    by_cases hk : k = 0
    · subst hk
      have hzero : (Scalar.ofNat 0 : Float) = 0.0 := by rfl
      rw [hzero]
      exact isWithin_zero _
    · have hcount' : (k : ℚ) ≤ 2 ^ (64 : ℤ) :=
        le_trans (by exact_mod_cast hkn) hcount
      exact (neighbours_ofNat hk hcount' (by norm_num) (by norm_num)).1
  exact (hpart.div (neighbours_ofNat hn hcount (by norm_num) (by norm_num)).1.isFinite
    (one_le_ofNat hn hcount (by norm_num) (by norm_num)) (by norm_num) (by norm_num)).isFinite

/-- Whether an evaluation is finite, its deviation of errors aside. -/
structure HasFiniteErrors (e : Evaluation Float) : Prop where
  mae : Scalar.isFinite e.mae = true
  rmse : Scalar.isFinite e.rmse = true
  accuracy : Scalar.isFinite e.accuracy = true
  minError : Scalar.isFinite e.minError = true
  maxError : Scalar.isFinite e.maxError = true
  meanError : Scalar.isFinite e.meanError = true

/-- **Errors with a finite mean square have a finite evaluation.** -/
theorem hasFiniteErrors_ofErrors {es : List Float} (hne : es ≠ []) (hsize : es.length ≤ 2 ^ 64)
    (h : ∀ e ∈ es, Scalar.isFinite (e * e) = true)
    (hmean : Scalar.isFinite (average (fun e => e * e) es) = true)
    (hsign : HasNoSign (average (fun e => e * e) es)) : (ofErrors es).HasFiniteErrors := by
  have hbounded : ∀ e ∈ es, IsWithin 512 e := fun e he => isWithin_of_square (h e he)
  have hextrema := isFinite_extrema hne fun e he => (hbounded e he).isFinite
  rw [ofErrors, if_neg (by simpa using hne)]
  exact {
    mae := (isWithin_average hne hsize (by norm_num) (by norm_num)
      fun e he => (hbounded e he).abs).isFinite
    rmse := isFinite_sqrt hmean hsign
    accuracy := isFinite_part (List.length_eq_zero_iff.not.2 hne) List.countP_le_length hsize
    minError := hextrema.1
    maxError := hextrema.2
    meanError := (isWithin_average hne hsize (by norm_num) (by norm_num) hbounded).isFinite }

end Evaluation

namespace Regressor

variable {m : Regressor Float} {x : List (FeatureRow Float)} {y : List Float}

/-- **A model with a finite loss has a finite evaluation**, the deviation of its errors aside. -/
theorem hasFiniteErrors_compute (hx : x ≠ []) (hshape : x.length = y.length)
    (hsize : x.length ≤ 2 ^ 64)
    (h : Scalar.isFinite (m.meanSquaredError x y) = true) :
    (Evaluation.compute (x.map m.predict) y).HasFiniteErrors := by
  have hsquares := isFinite_squares hx h
  have hcount := length_errors m hshape
  have hmean := average_square_errors m hx hshape
  have hnonnegative := isNonnegative_loss hx hshape hsize fun d hd =>
    isNaN_of_isFinite (isFinite_mul (hsquares d hd)).1
  rw [Evaluation.compute]
  refine Evaluation.hasFiniteErrors_ofErrors ?_ (by rwa [hcount]) ?_ (by rwa [hmean]) ?_
  · rw [← List.length_pos_iff, hcount]
    exact List.length_pos_iff.2 hx
  · intro e he
    rw [errors_eq] at he
    obtain ⟨d, hd, rfl⟩ := List.mem_map.1 he
    exact hsquares d hd
  · rw [hmean]
    exact hnonnegative.hasNoSign

end Regressor

/-! ## 2.  Scalers -/

namespace Scaler

/-- **A finite standardised row vouches for the means.** -/
theorem isFinite_mean {s : Scaler Float} (hlength : s.mean.length = 6) {row : FeatureRow Float}
    (h : ∀ v ∈ (s.transform row).toList, Scalar.isFinite v = true) :
    ∀ x ∈ s.mean, Scalar.isFinite x = true := by
  intro x hx
  obtain ⟨i, hi, rfl⟩ := List.getElem_of_mem hx
  have hi' : i < 6 := by omega
  have hmem : (s.transform row)[i] ∈ (s.transform row).toList :=
    Vector.mem_toList_iff.2 (Vector.getElem_mem hi')
  have hentry := h _ hmem
  rw [transform, Vector.getElem_ofFn, List.getElem?_eq_getElem hi] at hentry
  exact (isFinite_sub (isFinite_div hentry)).2

end Scaler

/-! ## 3.  Training -/

namespace Training

/-- Whether all numbers of a trained model are finite, except perhaps scales and the deviation of
the errors. -/
structure Trained.IsVouched (t : Trained Float) : Prop where
  model : t.model.IsFinite
  means : ∀ x ∈ t.scaler.mean, Scalar.isFinite x = true
  evaluation : t.evaluation.HasFiniteErrors

/-- **What training returns is vouched for by its loss**, after at least one epoch. -/
theorem isVouched_trainHalves {config : Config Float} {h : TrainingSet.Halves Float}
    (hepochs : config.descent.epochs ≠ 0) (hx : h.validation.x ≠ [])
    (hsize : h.validation.x.length ≤ 2 ^ 64) {t : Trained Float}
    (ht : trainHalves config h = .ok t) : t.IsVouched := by
  rw [trainHalves] at ht
  split at ht
  · cases ht
  · rename_i loss hfit
    obtain rfl := Except.ok.inj ht
    have hx' : (standardised (Scaler.fit h.train.x) h).xValidation ≠ [] := by
      simpa [standardised] using hx
    have hsize' : (standardised (Scaler.fit h.train.x) h).xValidation.length ≤ 2 ^ 64 := by
      simpa [standardised] using hsize
    have hshape := (Regressor.shape_of_fit_ok hfit).2
    obtain ⟨hlength, hloss, hfinite⟩ := Regressor.fit_ok hepochs hx' hsize' hfit
    rw [hloss] at hfinite
    have hvouched := Regressor.isFinite_of_loss hlength hx' hshape hfinite
    obtain ⟨row, hrow⟩ := List.exists_mem_of_ne_nil _ hx
    exact {
      model := hvouched.model
      means := Scaler.isFinite_mean (Scaler.isComplete_fit _).1
        (hvouched.rows _ (List.mem_map_of_mem hrow))
      evaluation := Regressor.hasFiniteErrors_compute hx' hshape hsize' hfinite }

theorem length_pick_le (examples : List (Example Float)) (p : Nat → Bool) :
    (TrainingSet.pick examples p).length ≤ examples.length :=
  calc (TrainingSet.pick examples p).length
      ≤ ((List.range examples.length).filter p).length := List.length_filterMap_le _ _
    _ ≤ (List.range examples.length).length := List.length_filter_le _ _
    _ = examples.length := List.length_range

/-- **There is something to validate on**, and not more than there are examples. -/
theorem validation_of_split? {examples : List (Example Float)} (hne : examples ≠ []) {every : Nat}
    {h : TrainingSet.Halves Float}
    (hsplit : (TrainingSet.ofExamples examples).split? every = some h) :
    h.validation.x ≠ [] ∧ h.validation.x.length ≤ examples.length := by
  have hset : ∀ es : List (Example Float), es ≠ [] → es.length ≤ examples.length →
      (TrainingSet.ofExamples es).x ≠ [] ∧ (TrainingSet.ofExamples es).x.length ≤ examples.length := by
    intro es hes hlength
    simpa [TrainingSet.ofExamples] using ⟨hes, hlength⟩
  have hsize : (TrainingSet.ofExamples examples).size = examples.length := List.length_map _
  rw [TrainingSet.split?, hsize] at hsplit
  by_cases hsmall : examples.length < 2 ∨ every < 2
  · rw [if_pos hsmall] at hsplit
    obtain rfl := Option.some.inj hsplit
    exact hset examples hne le_rfl
  · rw [if_neg hsmall] at hsplit
    dsimp only at hsplit
    rw [TrainingSet.at?_pick, TrainingSet.at?_pick] at hsplit
    obtain rfl := Option.some.inj hsplit
    dsimp only
    split
    · exact hset _ (TrainingSet.pick_not_isHeldBack_ne_nil hne (by omega)) (length_pick_le _ _)
    · rename_i hvalidation
      refine hset _ ?_ (length_pick_le _ _)
      rintro hnil
      rw [hnil] at hvalidation
      exact hvalidation rfl

/-- **Training on paired examples** returns what its loss vouches for. -/
theorem isVouched_train? {config : Config Float} {examples : List (Example Float)}
    (hepochs : config.descent.epochs ≠ 0) (hne : examples ≠ [])
    (hsize : examples.length ≤ 2 ^ 64) {t : Trained Float}
    (h : train? config (.ofExamples examples) = some (.ok t)) : t.IsVouched := by
  rw [train?] at h
  obtain ⟨halves, hsplit, htrained⟩ := Option.map_eq_some_iff.1 h
  obtain ⟨hx, hle⟩ := validation_of_split? hne hsplit
  exact isVouched_trainHalves hepochs hx (hle.trans hsize) htrained

end Training
end FleetScore
