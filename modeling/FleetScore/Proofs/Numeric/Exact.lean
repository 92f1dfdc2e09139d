import Mathlib
import FleetScore.Numeric.Statistics

/-!
# Exact arithmetic

The rules of the library are written over any scalars, and the program runs them on doubles.  What
a rule is meant to compute is another reading of the same rule, over numbers that are not rounded.
`Exact K` are these numbers: the members of an ordered field `K`, with the field's own operations as
operations of scalars.

In this reading the operations have their laws again.  A literal is the fraction it spells, a sum
does not depend on where it starts or in which order it is taken (`sum_eq`), and a mean is the sum
by the number (`mean_eq`).  So it is not changed when everything in the list is repeated equally
often (`mean_flatMap_replicate`).

A type of its own is needed for it.  A field has its operations already, and if its members were
scalars as they stand there would be two additions to choose from wherever the field is used.
-/

namespace FleetScore

/-- The members of an ordered field, as scalars of which none is rounded. -/
def Exact (K : Type) : Type := K

/-- A field in which roots are taken. -/
class HasRoot (K : Type) where
  root : K → K

/-- Roots of rational numbers are taken of squares. -/
instance : HasRoot ℚ := ⟨Rat.sqrt⟩

/-- Roots of real numbers are the real ones. -/
noncomputable instance : HasRoot ℝ := ⟨Real.sqrt⟩

namespace Exact

variable {K : Type}

instance [Field K] : Field (Exact K) := inferInstanceAs (Field K)

instance [LinearOrder K] : LinearOrder (Exact K) := inferInstanceAs (LinearOrder K)

instance [Field K] [LinearOrder K] [IsStrictOrderedRing K] : IsStrictOrderedRing (Exact K) :=
  inferInstanceAs (IsStrictOrderedRing K)

instance [Field K] [LinearOrder K] [FloorSemiring K] : FloorSemiring (Exact K) :=
  inferInstanceAs (FloorSemiring K)

variable [Field K] [LinearOrder K] [FloorSemiring K] [HasRoot K]

/-- Every exact scalar is a finite number.  There is no infinity, and no rule asks for one where
there are numbers. -/
instance : Scalar (Exact K) where
  toAdd := inferInstance
  toSub := inferInstance
  toMul := inferInstance
  toDiv := inferInstance
  toNeg := inferInstance
  toOfScientific := inferInstance
  ofNat n := (n : Exact K)
  ofInt n := (n : Exact K)
  less a b := decide (a < b)
  isNaN _ := false
  isFinite _ := true
  sqrt a := HasRoot.root (K := K) a
  abs a := |a|
  infinity := 0
  totalLe a b := decide (a ≤ b)
  floorNat a := ⌊a⌋₊
  ceilNat a := ⌈a⌉₊

/-- A root of a real number is the real one. -/
theorem sqrt_eq (a : Exact ℝ) : Scalar.sqrt a = Real.sqrt a := rfl

theorem literal_zero : (0.0 : Exact K) = 0 := by
  norm_num

theorem ofNat_eq (n : ℕ) : (Scalar.ofNat n : Exact K) = n := rfl

theorem smaller_eq (a b : Exact K) : Scalar.smaller a b = min a b := by
  have hsmaller : Scalar.smaller a b = if b < a then b else a := by
    simp [Scalar.smaller, Scalar.isNaN, Scalar.less]
  rw [hsmaller]
  split
  · rename_i hlt
    exact (min_eq_right hlt.le).symm
  · rename_i hle
    exact (min_eq_left (not_lt.1 hle)).symm

theorem larger_eq (a b : Exact K) : Scalar.larger a b = max a b := by
  have hlarger : Scalar.larger a b = if a < b then b else a := by
    simp [Scalar.larger, Scalar.isNaN, Scalar.less]
  rw [hlarger]
  split
  · rename_i hlt
    exact (max_eq_right hlt.le).symm
  · rename_i hle
    exact (max_eq_left (not_lt.1 hle)).symm

/-- **A sum is the sum**, whatever it starts from. -/
theorem sum_eq (xs : List (Exact K)) : Scalar.sum xs = xs.sum := by
  rw [Scalar.sum, List.sum_eq_foldl]
  norm_num

/-- **A mean is the sum by the number.** -/
theorem mean_eq (xs : List (Exact K)) :
    Statistics.mean xs = if xs = [] then none else some (xs.sum / xs.length) := by
  rw [Statistics.mean, sum_eq, ofNat_eq]
  exact if_congr List.isEmpty_iff rfl rfl

theorem mean_eq_of_perm {xs ys : List (Exact K)} (hperm : ys.Perm xs) :
    Statistics.mean ys = Statistics.mean xs := by
  have hnil : ys = [] ↔ xs = [] := by
    rw [← List.length_eq_zero_iff, hperm.length_eq, List.length_eq_zero_iff]
  rw [mean_eq, mean_eq, hperm.sum_eq, hperm.length_eq]
  exact if_congr hnil rfl rfl

/-- **A mean is the same if everything is repeated equally often.** -/
theorem mean_flatMap_replicate [IsStrictOrderedRing K] {k : ℕ} (hk : k ≠ 0)
    (xs : List (Exact K)) :
    Statistics.mean (xs.flatMap fun x => List.replicate k x) = Statistics.mean xs := by
  have hsum : (xs.flatMap fun x => List.replicate k x).sum = k * xs.sum := by
    induction xs with
    | nil => simp
    | cons x xs ih =>
      rw [List.flatMap_cons, List.sum_append, ih, List.sum_replicate, nsmul_eq_mul, List.sum_cons,
        mul_add]
  have hlength : (xs.flatMap fun x => List.replicate k x).length = k * xs.length := by
    simp [mul_comm]
  have hnil : (xs.flatMap fun x => List.replicate k x) = [] ↔ xs = [] := by
    rw [← List.length_eq_zero_iff, hlength, mul_eq_zero, List.length_eq_zero_iff]
    exact or_iff_right hk
  have hcast : (k : Exact K) ≠ 0 := Nat.cast_ne_zero.mpr hk
  rw [mean_eq, mean_eq, hsum, hlength, Nat.cast_mul, mul_div_mul_left _ _ hcast]
  exact if_congr hnil rfl rfl

/-! ## Averages and deviations of real numbers -/

/-- The average of some numbers. -/
noncomputable def average (xs : List (Exact ℝ)) : Exact ℝ := xs.sum / xs.length

/-- The standard deviation of some numbers, as the whole of a population. -/
noncomputable def deviation (xs : List (Exact ℝ)) : Exact ℝ :=
  Real.sqrt ((xs.map fun v => (v - average xs) ^ 2).sum / xs.length : Exact ℝ)

theorem average_affine {xs : List (Exact ℝ)} (hne : xs ≠ []) (a c : Exact ℝ) :
    average (xs.map fun v => a * v + c) = a * average xs + c := by
  have hlength : (xs.length : Exact ℝ) ≠ 0 := Nat.cast_ne_zero.2 (List.length_pos_iff.2 hne).ne'
  rw [average, List.sum_map_add, List.sum_map_mul_left, List.map_const', List.sum_replicate,
    nsmul_eq_mul, List.map_id', List.length_map, add_div, mul_div_assoc,
    mul_div_cancel_left₀ c hlength]
  rfl

/-- **A deviation is measured in the unit of the numbers**, wherever they start. -/
theorem deviation_affine {xs : List (Exact ℝ)} (hne : xs ≠ []) {a : Exact ℝ} (ha : 0 < a)
    (c : Exact ℝ) : deviation (xs.map fun v => a * v + c) = a * deviation xs := by
  have hdistance : ∀ v ∈ xs,
      (a * v + c - (a * average xs + c)) ^ 2 = a ^ 2 * (v - average xs) ^ 2 := fun v _ => by ring
  have hsum : (xs.map ((fun v => (v - (a * average xs + c)) ^ 2) ∘ fun v => a * v + c)).sum =
      a ^ 2 * (xs.map fun v => (v - average xs) ^ 2).sum := by
    rw [← List.sum_map_mul_left]
    exact congrArg List.sum (List.map_congr_left hdistance)
  have hroot : ∀ y x : ℝ, 0 ≤ y → √(y ^ 2 * x) = y * √x := by
    intro y x hy
    rw [Real.sqrt_mul (sq_nonneg y), Real.sqrt_sq hy]
  rw [deviation, deviation, average_affine hne, List.map_map, List.length_map, hsum, mul_div_assoc]
  exact hroot a _ ha.le

end Exact
end FleetScore
