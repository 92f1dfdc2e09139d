import FleetScore.Proofs.Numeric.Nonnegative
import FleetScore.Proofs.Training.Fitting

/-!
# What a finite loss vouches for

Fitting looks at one number only: whether the loss on the validation data is finite.  The loss is a
mean of squared errors, an error is a prediction less a target, and a prediction is a sum of
products and a bias.  What is not finite in any of these stays so up to the loss.  So of a model
with a finite loss all weights and the bias are finite, and so is all of the validation data
(`isFinite_of_loss`).

## The model that fitting leaves behind

The remembered model is the one that fitting started from until a better one was seen.  The first
epoch may end with a finite loss that is not less than that of the start, and one wants to conclude
that the loss of the start is finite too.  It is: the finite loss of the epoch vouches for the data,
on finite data the zero model predicts finite numbers, so its loss is a number and not negative, and
such a loss is finite if it is not above a finite one.  Hence every model that fitting leaves behind
after at least one epoch has a finite loss (`fit_ok`).
-/

namespace FleetScore
namespace Regressor

open Binary64

/-! ## 1.  Predictions -/

theorem isFinite_factors {xs ys : List Float} (hlength : xs.length = ys.length)
    (h : ∀ z ∈ List.zipWith (· * ·) xs ys, Scalar.isFinite z = true) :
    (∀ x ∈ xs, Scalar.isFinite x = true) ∧ ∀ y ∈ ys, Scalar.isFinite y = true := by
  induction xs generalizing ys with
  | nil =>
    obtain rfl : ys = [] := List.length_eq_zero_iff.1 hlength.symm
    simp
  | cons x xs ih =>
    cases ys with
    | nil => cases hlength
    | cons y ys =>
      rw [List.zipWith_cons_cons, List.forall_mem_cons] at h
      obtain ⟨hx, hy⟩ := isFinite_mul h.1
      obtain ⟨hxs, hys⟩ := ih (Nat.succ.inj hlength) h.2
      exact ⟨List.forall_mem_cons.2 ⟨hx, hxs⟩, List.forall_mem_cons.2 ⟨hy, hys⟩⟩

/-- Whether a model has a weight for each feature, and only finite parameters. -/
structure IsFinite (m : Regressor Float) : Prop where
  length : m.weights.length = 6
  weights : ∀ w ∈ m.weights, Scalar.isFinite w = true
  bias : Scalar.isFinite m.bias = true

/-- **A finite prediction vouches for the model and for the row.** -/
theorem isFinite_of_predict {m : Regressor Float} (hlength : m.weights.length = 6)
    {row : FeatureRow Float} (h : Scalar.isFinite (m.predict row) = true) :
    m.IsFinite ∧ ∀ v ∈ row.toList, Scalar.isFinite v = true := by
  obtain ⟨hsum, hbias⟩ := isFinite_add h
  obtain ⟨hweights, hrow⟩ := isFinite_factors (by rw [hlength, Vector.length_toList])
    (isFinite_sum hsum)
  exact ⟨⟨hlength, hweights, hbias⟩, hrow⟩

theorem isFinite_predict_zero {row : FeatureRow Float}
    (h : ∀ v ∈ row.toList, Scalar.isFinite v = true) :
    Scalar.isFinite ((zero : Regressor Float).predict row) = true := by
  have hproducts : ∀ z ∈ List.zipWith (· * ·) (zero : Regressor Float).weights row.toList,
      IsWithin 0 z := by
    intro z hz
    have hzip : List.zipWith (· * ·) (zero : Regressor Float).weights row.toList =
        ((zero : Regressor Float).weights.zip row.toList).map fun d => d.1 * d.2 :=
      (List.map_zip_eq_zipWith (f := fun d => d.1 * d.2)).symm
    rw [hzip] at hz
    obtain ⟨⟨w, v⟩, hd, rfl⟩ := List.mem_map.1 hz
    obtain ⟨hw, hv⟩ := List.of_mem_zip hd
    obtain rfl : w = 0.0 := List.eq_of_mem_replicate hw
    exact (isWithin_zero (-1024)).mul (isWithin_of_isFinite (h v hv)) (by norm_num) (by norm_num)
  have hsum := IsWithin.sum hproducts (by norm_num) (by norm_num)
  exact (hsum.add (isWithin_zero 0) (by norm_num) (by norm_num)).isFinite

/-! ## 2.  Losses -/

section

variable {m : Regressor Float} {x : List (FeatureRow Float)} {y : List Float}

/-- **A finite loss vouches for every squared error.** -/
theorem isFinite_squares (hx : x ≠ []) (h : Scalar.isFinite (m.meanSquaredError x y) = true) :
    ∀ d ∈ x.zip y, Scalar.isFinite (Scalar.square (m.predict d.1 - d.2)) = true := by
  rw [meanSquaredError_eq m hx] at h
  intro d hd
  exact isFinite_sum (isFinite_div h) _ (List.mem_map_of_mem hd)

/-- What the errors of a model over some data vouch for. -/
structure Vouched (m : Regressor Float) (x : List (FeatureRow Float)) (y : List Float) : Prop where
  model : m.IsFinite
  rows : ∀ row ∈ x, ∀ v ∈ row.toList, Scalar.isFinite v = true
  targets : ∀ target ∈ y, Scalar.isFinite target = true

/-- **A finite loss vouches for the model and for the data.** -/
theorem isFinite_of_loss (hlength : m.weights.length = 6) (hx : x ≠ [])
    (hshape : x.length = y.length) (h : Scalar.isFinite (m.meanSquaredError x y) = true) :
    m.Vouched x y := by
  have herrors : ∀ d ∈ x.zip y, Scalar.isFinite (m.predict d.1) = true ∧
      Scalar.isFinite d.2 = true :=
    fun d hd => isFinite_sub (isFinite_mul (isFinite_squares hx h d hd)).1
  have hrows : ∀ row ∈ x, m.IsFinite ∧ ∀ v ∈ row.toList, Scalar.isFinite v = true := by
    intro row hrow
    rw [← List.map_fst_zip hshape.le] at hrow
    obtain ⟨d, hd, rfl⟩ := List.mem_map.1 hrow
    exact isFinite_of_predict hlength (herrors d hd).1
  obtain ⟨row, hrow⟩ := List.exists_mem_of_ne_nil x hx
  refine ⟨(hrows row hrow).1, fun row hrow => (hrows row hrow).2, fun target htarget => ?_⟩
  rw [← List.map_snd_zip hshape.ge] at htarget
  obtain ⟨d, hd, rfl⟩ := List.mem_map.1 htarget
  exact (herrors d hd).2

/-- **A loss is not negative**, if all errors are numbers. -/
theorem isNonnegative_loss (hx : x ≠ []) (hshape : x.length = y.length)
    (hsize : x.length ≤ 2 ^ 64)
    (h : ∀ d ∈ x.zip y, Scalar.isNaN (m.predict d.1 - d.2) = false) :
    IsNonnegative (m.meanSquaredError x y) := by
  rw [meanSquaredError_eq m hx]
  have hlength : x.length ≠ 0 := List.length_eq_zero_iff.not.2 hx
  have hcount : (x.length : ℚ) ≤ 2 ^ (64 : ℤ) := by exact_mod_cast hsize
  have hne : m.squares x y ≠ [] := by
    rw [squares, Ne, List.map_eq_nil_iff, List.zip_eq_nil_iff, ← List.length_eq_zero_iff,
      ← List.length_eq_zero_iff]
    omega
  have hsquares : ∀ s ∈ m.squares x y, IsNonnegative s := by
    intro s hs
    obtain ⟨d, hd, rfl⟩ := List.mem_map.1 hs
    exact isNonnegative_square (h d hd)
  exact (isNonnegative_sum hne hsquares).div (hasNoSign_ofNat _)
    (neighbours_ofNat hlength hcount (by norm_num) (by norm_num)).1.isFinite
    (one_le_ofNat hlength hcount (by norm_num) (by norm_num))

theorem isNonnegative_loss_zero (hx : x ≠ []) (hshape : x.length = y.length)
    (hsize : x.length ≤ 2 ^ 64) (h : m.Vouched x y) :
    IsNonnegative ((zero : Regressor Float).meanSquaredError x y) := by
  refine isNonnegative_loss hx hshape hsize fun d hd => ?_
  obtain ⟨hrow, htarget⟩ := List.of_mem_zip hd
  exact isNaN_sub (isFinite_predict_zero (h.rows d.1 hrow)) (h.targets d.2 htarget)

end

/-! ## 3.  Fitting -/

/-- Whether a model is a candidate to be left behind: its loss is what is recorded, and finite. -/
structure IsCandidate (d : Data Float) (c : Checkpoint Float) : Prop where
  length : c.model.weights.length = 6
  loss_eq : c.loss = d.loss c.model
  isFinite : Scalar.isFinite c.loss = true

/-- **After at least one epoch, a model with a finite loss is left behind.** -/
theorem fit_ok {p : Descent Float} {d : Data Float} (hepochs : p.epochs ≠ 0)
    (hx : d.xValidation ≠ []) (hsize : d.xValidation.length ≤ 2 ^ 64) {loss : Float}
    (h : ((zero : Regressor Float).fit p d).result = .ok loss) :
    IsCandidate d ⟨((zero : Regressor Float).fit p d).model, loss⟩ := by
  have hshape := (shape_of_fit_ok h).2
  have hwell := isWellShaped_of_fit_ok h
  rw [fit, if_pos hwell] at h ⊢
  obtain ⟨epochs, hsucc⟩ := Nat.exists_eq_succ_of_ne_zero hepochs
  rw [hsucc, descend] at h ⊢
  dsimp only at h ⊢
  split at h
  · rename_i hfinite
    rw [if_pos hfinite]
    have hnext : (zero.step p d.x d.y).weights.length = 6 := length_step p d.x d.y rfl
    refine descend_ok (Q := fun m => m.weights.length = 6) (fun _ => length_step p d.x d.y)
      (fun m hm hloss => ⟨hm, rfl, hloss⟩) hnext ?_ h
    split
    · exact ⟨hnext, rfl, hfinite⟩
    · rename_i hless
      have hvouched := isFinite_of_loss hnext hx hshape hfinite
      have hzero := isNonnegative_loss_zero hx hshape hsize hvouched
      exact ⟨rfl, rfl, hzero.isFinite_of_not_less hfinite (Bool.not_eq_true _ ▸ hless)⟩
  · cases h

end Regressor
end FleetScore
