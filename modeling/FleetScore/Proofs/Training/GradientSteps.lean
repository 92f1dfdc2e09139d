import FleetScore.Proofs.Numeric.Exact
import FleetScore.Proofs.Training.BestCheckpoint
import FleetScore.Proofs.Training.Fitting

/-!
# Each epoch is a step down the gradient

The gradient is added up row by row, with factors and divisors that are easily mistaken, and nothing
in the program says what it is the gradient of.  Here it is held against the loss, in exact
arithmetic and without limits: the loss is a polynomial of degree two, so if a model is moved by
`h` in its weights and by `c` in its bias, the loss changes by a linear part and a mean of squares,

    loss (w + h, b + c) = loss (w, b) + g · h + g₀ * c + mean of (row · h + c) ²,

and this determines `g` and `g₀` (`gradient_unique`).

* One row adds the part `2 * error * (row · h + c) / n` to what a direction sees of a gradient
  (`along_add`), whatever was added before; so all rows add their sum (`along_gradient`).
* The same part is the linear one of the square of a moved error, so the loss splits row by row
  (`meanSquaredError_moved`).
* A step moves each weight by its own slope and its own old value, and the bias by its slope alone
  (`step_ofRow`).

The main result is `step_isGradientStep`, for any six weights, any bias and any data.  As a step
leads to six weights again, it is about every epoch of a course (`exists_course_eq_ofRow`).
-/

namespace FleetScore
namespace Regressor

/-! ## 1.  Steps -/

section

variable {R : Type}

/-- The model of six weights and a bias. -/
def ofRow (w : FeatureRow R) (b : R) : Regressor R := ⟨w.toList, b⟩

variable [Scalar R]

theorem stepWeights_toList (p : Descent R) (w g : FeatureRow R) :
    stepWeights p w.toList g.toList = (Vector.ofFn fun i =>
      w.get i - p.learningRate * (g.get i + p.weightDecay * w.get i)).toList := by
  refine List.ext_getElem (by simp [length_stepWeights]) fun i hi hi' => ?_
  have hsix : i < 6 := by simpa using hi'
  have hmoved := getElem?_stepWeights p (getElem?_toList w ⟨i, hsix⟩) (getElem?_toList g ⟨i, hsix⟩)
  rw [Vector.getElem_toList, Vector.getElem_ofFn]
  exact (List.getElem?_eq_some_iff.1 hmoved).2

/-- **A step moves every parameter by its own slope**, and weights also by their decay. -/
theorem step_ofRow (p : Descent R) (x : List (FeatureRow R)) (y : List R) (w : FeatureRow R)
    (b : R) :
    (ofRow w b).step p x y =
      ofRow (Vector.ofFn fun i => w.get i - p.learningRate *
          (((ofRow w b).gradient x y).weights.get i + p.weightDecay * w.get i))
        (b - p.learningRate * ((ofRow w b).gradient x y).bias) :=
  congrArg (Regressor.mk · _) (stepWeights_toList p w _)

theorem exists_course_eq_ofRow (p : Descent R) (d : Data R) (w : FeatureRow R) (b : R) (k : ℕ) :
    ∃ w' b', course p d (ofRow w b) k = ofRow w' b' := by
  induction k with
  | zero => exact ⟨w, b, rfl⟩
  | succ k ih =>
    obtain ⟨w', b', hcourse⟩ := ih
    exact ⟨_, _, (congrArg (step p d.x d.y) hcourse).trans (step_ofRow p d.x d.y w' b')⟩

end

/-! ## 2.  Inner products -/

section

variable {K : Type} [Field K]

/-- The inner product of two rows. -/
def dot (u v : FeatureRow (Exact K)) : Exact K := ∑ i : Fin 6, u.get i * v.get i

theorem dot_add (u v h : FeatureRow (Exact K)) : dot u (v + h) = dot u v + dot u h := by
  simp only [dot, Vector.get_eq_getElem, Vector.getElem_add, mul_add, Finset.sum_add_distrib]

theorem sum_toList (v : FeatureRow (Exact K)) : v.toList.sum = ∑ i : Fin 6, v.get i := by
  have hv : v = Vector.ofFn v.get := by
    ext i hi
    rw [Vector.getElem_ofFn, Vector.get_eq_getElem]
  conv_lhs => rw [hv, Vector.toList_ofFn, List.sum_ofFn]

variable [LinearOrder K] [FloorSemiring K] [HasRoot K]

/-- **A prediction is an inner product and a bias.** -/
theorem predict_ofRow (w : FeatureRow (Exact K)) (b : Exact K) (row : FeatureRow (Exact K)) :
    (ofRow w b).predict row = dot row w + b := by
  have hproducts : List.zipWith (· * ·) w.toList row.toList =
      (Vector.zipWith (· * ·) w row).toList := Vector.toList_zipWith.symm
  rw [predict, Exact.sum_eq, ofRow, hproducts, sum_toList, dot]
  congr 1
  refine Finset.sum_congr rfl fun i _ => ?_
  rw [Vector.get_eq_getElem, Vector.getElem_zipWith, Vector.get_eq_getElem, Vector.get_eq_getElem]
  exact mul_comm _ _

end

/-! ## 3.  What a direction sees of a gradient -/

variable {K : Type} [Field K] [LinearOrder K] [FloorSemiring K] [HasRoot K]

section

/-- The linear change in a direction. -/
def Gradient.along (g : Gradient (Exact K)) (h : FeatureRow (Exact K)) (c : Exact K) : Exact K :=
  dot g.weights h + g.bias * c

variable (m : Regressor (Exact K)) (h : FeatureRow (Exact K)) (c : Exact K)

theorem along_zero : Gradient.zero.along h c = 0 := by
  simp [Gradient.along, Gradient.zero, dot, Vector.get_eq_getElem, Exact.literal_zero]

/-- **What one row adds.** -/
theorem along_add (n : Exact K) (g : Gradient (Exact K)) (row : FeatureRow (Exact K))
    (target : Exact K) :
    (g.add m n row target).along h c =
      g.along h c + 2 * (m.predict row - target) * (dot row h + c) / n := by
  have hslope : ∀ i, (g.add m n row target).weights.get i * h.get i =
      g.weights.get i * h.get i + 2 * (m.predict row - target) / n * (row.get i * h.get i) := by
    intro i
    simp only [Gradient.add, Vector.get_eq_getElem, Vector.getElem_zipWith]
    norm_num
    ring
  have hbias : (g.add m n row target).bias = g.bias + 2 * (m.predict row - target) / n := by
    simp only [Gradient.add]
    norm_num
  rw [Gradient.along, Gradient.along, dot, Finset.sum_congr rfl fun i _ => hslope i,
    Finset.sum_add_distrib, ← Finset.mul_sum, hbias]
  simp only [dot]
  ring

theorem along_foldl (n : Exact K) (data : List (FeatureRow (Exact K) × Exact K))
    (g : Gradient (Exact K)) :
    (data.foldl (fun g d => g.add m n d.1 d.2) g).along h c =
      g.along h c +
        (data.map fun d => 2 * (m.predict d.1 - d.2) * (dot d.1 h + c) / n).sum := by
  induction data generalizing g with
  | nil => simp
  | cons d data ih => rw [List.foldl_cons, ih, along_add, List.map_cons, List.sum_cons, add_assoc]

/-- **What all rows add**, one after another. -/
theorem along_gradient (x : List (FeatureRow (Exact K))) (y : List (Exact K)) :
    (m.gradient x y).along h c =
      ((x.zip y).map fun d => 2 * (m.predict d.1 - d.2) * (dot d.1 h + c) / x.length).sum := by
  rw [gradient, along_foldl, along_zero, zero_add]
  rfl

/-- A gradient is determined by what the directions see of it. -/
theorem Gradient.eq_of_along {g g' : Gradient (Exact K)}
    (heq : ∀ h c, g.along h c = g'.along h c) : g = g' := by
  have hbias : g.bias = g'.bias := by
    have hdirection := heq (Vector.replicate 6 0) 1
    simpa [Gradient.along, dot, Vector.get_eq_getElem] using hdirection
  have hweights : ∀ i, g.weights.get i = g'.weights.get i := by
    intro i
    have hdirection := heq (Vector.ofFn fun j => if j = i then 1 else 0) 0
    simpa [Gradient.along, dot, Vector.get_eq_getElem] using hdirection
  obtain ⟨weights, bias⟩ := g
  obtain ⟨weights', bias'⟩ := g'
  obtain rfl : bias = bias' := hbias
  obtain rfl : weights = weights' := Vector.ext fun i hi => hweights ⟨i, hi⟩
  rfl

end

/-! ## 4.  Losses of moved models -/

section

variable {x : List (FeatureRow (Exact K))} {y : List (Exact K)}

theorem meanSquaredError_eq_sum (m : Regressor (Exact K)) (hx : x ≠ []) :
    m.meanSquaredError x y = ((x.zip y).map fun d => (m.predict d.1 - d.2) ^ 2 / x.length).sum := by
  rw [meanSquaredError_eq m hx, Exact.sum_eq, squares, Exact.ofNat_eq]
  simp only [div_eq_mul_inv, List.sum_map_mul_right, Scalar.square, sq]

/-- **A loss in every direction**: the linear change and a mean of squares. -/
theorem meanSquaredError_moved (hx : x ≠ []) (w h : FeatureRow (Exact K)) (b c : Exact K) :
    (ofRow (w + h) (b + c)).meanSquaredError x y =
      (ofRow w b).meanSquaredError x y + ((ofRow w b).gradient x y).along h c +
        ((x.zip y).map fun d => (dot d.1 h + c) ^ 2 / x.length).sum := by
  rw [meanSquaredError_eq_sum _ hx, meanSquaredError_eq_sum _ hx, along_gradient,
    ← List.sum_map_add, ← List.sum_map_add]
  refine congrArg List.sum (List.map_congr_left fun d _ => ?_)
  -- One row: the error moves by `dot d.1 h + c`, and its square is expanded.
  rw [predict_ofRow, predict_ofRow, dot_add]
  ring

theorem sum_zip_eq (hshape : x.length = y.length) (h : FeatureRow (Exact K)) (c : Exact K) :
    ((x.zip y).map fun d => (dot d.1 h + c) ^ 2 / x.length).sum =
      1 / x.length * (x.map fun row => (dot row h + c) ^ 2).sum := by
  have hrows : (x.zip y).map (fun d => (dot d.1 h + c) ^ 2) =
      x.map fun row => (dot row h + c) ^ 2 := by
    conv_rhs => rw [← List.map_fst_zip hshape.le, List.map_map]
    rfl
  rw [← hrows, one_div, ← List.sum_map_mul_left]
  simp only [div_eq_inv_mul]

/-- **The loss determines the gradient**: no other six slopes and slope of the bias would do. -/
theorem gradient_unique (hx : x ≠ []) (w : FeatureRow (Exact K)) (b : Exact K)
    {g : Gradient (Exact K)}
    (hg : ∀ h c, (ofRow (w + h) (b + c)).meanSquaredError x y =
      (ofRow w b).meanSquaredError x y + g.along h c +
        ((x.zip y).map fun d => (dot d.1 h + c) ^ 2 / x.length).sum) :
    g = (ofRow w b).gradient x y := by
  refine Gradient.eq_of_along fun h c => ?_
  have hsame := (hg h c).symm.trans (meanSquaredError_moved hx w h b c)
  exact add_left_cancel (add_right_cancel hsame)

/-- **Each epoch takes a gradient step.**  In exact arithmetic, for six weights, a bias and some
rows with their targets, the accumulated gradient is that of the loss: moved in any direction, the
loss changes by the gradient along the direction and by the mean of the squares of what the
direction adds to the predictions.  An epoch then moves every weight by its slope and its decay, and
the bias by its slope, all of them taken where the epoch starts.  What it leads to are six weights
and a bias again, so this is said of every epoch of a course. -/
theorem step_isGradientStep (hx : x ≠ []) (hshape : x.length = y.length)
    (w : FeatureRow (Exact K)) (b : Exact K) (p : Descent (Exact K)) :
    (∀ h c, (ofRow (w + h) (b + c)).meanSquaredError x y =
      (ofRow w b).meanSquaredError x y + dot ((ofRow w b).gradient x y).weights h +
        ((ofRow w b).gradient x y).bias * c +
        1 / x.length * (x.map fun row => (dot row h + c) ^ 2).sum) ∧
    (ofRow w b).step p x y =
      ofRow (Vector.ofFn fun i => w.get i - p.learningRate *
          (((ofRow w b).gradient x y).weights.get i + p.weightDecay * w.get i))
        (b - p.learningRate * ((ofRow w b).gradient x y).bias) ∧
    ∀ (d : Data (Exact K)) (k : ℕ), ∃ w' b', course p d (ofRow w b) k = ofRow w' b' := by
  refine ⟨fun h c => ?_, step_ofRow p x y w b, fun d => exists_course_eq_ofRow p d w b⟩
  rw [meanSquaredError_moved hx, sum_zip_eq hshape, Gradient.along, add_assoc _ (dot _ _)]

end

/-! ### One step -/

/-- Two rows of which the second one has two features. -/
def twoRows : List (FeatureRow (Exact ℚ)) :=
  [#v[1.0, 0.0, 0.0, 0.0, 0.0, 0.0], #v[3.0, 1.0, 0.0, 0.0, 0.0, 0.0]]

/-- Their targets. -/
def twoTargets : List (Exact ℚ) := [1.0, 2.0]

/-- A model that is off by one on both of them. -/
def offByOne : FeatureRow (Exact ℚ) := #v[1.0, -1.0, 0.0, 0.0, 0.0, 0.0]

/-- Around the model the loss is a polynomial with the slopes 4, 1 and 2, and a step of a tenth with
a decay of one half takes these and the decay off. -/
theorem step_isGradientStep_twoRows :
    (∀ h c, (ofRow (offByOne + h) (1 + c)).meanSquaredError twoRows twoTargets =
      1 + (4 * h.get 0 + h.get 1) + 2 * c +
        1 / 2 * ((h.get 0 + c) ^ 2 + (3 * h.get 0 + h.get 1 + c) ^ 2)) ∧
    (ofRow offByOne 1).step ⟨1, 1 / 10, 1 / 2⟩ twoRows twoTargets =
      ofRow #v[11 / 20, -21 / 20, 0, 0, 0, 0] (4 / 5) := by
  have hloss : (ofRow offByOne 1).meanSquaredError twoRows twoTargets = 1 := by decide +kernel
  have hweights : ((ofRow offByOne 1).gradient twoRows twoTargets).weights =
      #v[4, 1, 0, 0, 0, 0] := by decide +kernel
  have hbias : ((ofRow offByOne 1).gradient twoRows twoTargets).bias = 2 := by decide +kernel
  obtain ⟨hmoved, hstep, -⟩ := step_isGradientStep (x := twoRows) (y := twoTargets)
    (List.cons_ne_nil _ _) rfl offByOne 1 ⟨1, 1 / 10, 1 / 2⟩
  rw [hloss, hweights, hbias] at hmoved
  rw [hweights, hbias] at hstep
  refine ⟨fun h c => ?_, hstep.trans ?_⟩
  · rw [hmoved]
    norm_num [dot, twoRows, Fin.sum_univ_six, Vector.get_eq_getElem]
  · exact congrArg₂ ofRow (by decide +kernel) (by decide +kernel)

end Regressor
end FleetScore
