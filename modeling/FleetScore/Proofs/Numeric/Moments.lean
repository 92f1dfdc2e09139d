import FleetScore.Proofs.Numeric.Exact

/-!
# Averages and the distances from them

An average lies where the numbers lie.  It is not below a number that all of them are not below, and
not above one that all of them are not above; and numbers that are lifted have a lifted average.

The distances from the average cancel (`average_distances`).  So the squares of some numbers are on
average the square of their average and the square of their deviation together
(`meanSquare_eq`), and an average is never further from zero than the root of the mean square
(`sq_average_le_meanSquare`).
-/

namespace FleetScore
namespace Exact

/-- The average of the squares of some numbers. -/
noncomputable def meanSquare (xs : List (Exact ℝ)) : Exact ℝ := average (xs.map fun x => x ^ 2)

variable {xs ys : List (Exact ℝ)}

/-! ## 1.  Roots -/

section

variable {a b : Exact ℝ}

theorem sq_sqrt (h : 0 ≤ a) : Scalar.sqrt a ^ 2 = a := Real.sq_sqrt h

theorem le_sqrt (h : a ^ 2 ≤ b) : a ≤ Scalar.sqrt b := Real.le_sqrt_of_sq_le h

theorem sqrt_le (hb : 0 ≤ b) (h : a ≤ b ^ 2) : Scalar.sqrt a ≤ b := Real.sqrt_le_iff.2 ⟨hb, h⟩

end

/-! ## 2.  Averages -/

theorem length_pos_of_ne_nil (hne : xs ≠ []) : (0 : Exact ℝ) < xs.length :=
  Nat.cast_pos.2 (List.length_pos_iff.2 hne)

theorem average_eq_of_perm (hperm : xs.Perm ys) : average xs = average ys := by
  rw [average, average, hperm.sum_eq, hperm.length_eq]

theorem average_map_add (f g : Exact ℝ → Exact ℝ) (xs : List (Exact ℝ)) :
    average (xs.map fun x => f x + g x) = average (xs.map f) + average (xs.map g) := by
  simp only [average, List.length_map, List.sum_map_add, add_div]

/-- An average is measured in the unit of the numbers. -/
theorem average_map_div (f : Exact ℝ → Exact ℝ) (xs : List (Exact ℝ)) (c : Exact ℝ) :
    average (xs.map fun x => f x / c) = average (xs.map f) / c := by
  simp only [average, List.length_map, div_eq_mul_inv, List.sum_map_mul_right, mul_right_comm]

/-- **Numbers that are lifted have a lifted average.** -/
theorem average_map_le_average_map {f g : Exact ℝ → Exact ℝ} (h : ∀ x ∈ xs, f x ≤ g x) :
    average (xs.map f) ≤ average (xs.map g) := by
  rw [average, average, List.length_map, List.length_map]
  exact div_le_div_of_nonneg_right (List.sum_le_sum h) (Nat.cast_nonneg _)

theorem average_map_const (hne : xs ≠ []) (c : Exact ℝ) : average (xs.map fun _ => c) = c := by
  rw [average, List.map_const', List.sum_replicate, List.length_replicate, nsmul_eq_mul]
  exact mul_div_cancel_left₀ c (length_pos_of_ne_nil hne).ne'

theorem average_le (hne : xs ≠ []) {c : Exact ℝ} (h : ∀ x ∈ xs, x ≤ c) : average xs ≤ c := by
  have hlifted := average_map_le_average_map h
  rwa [List.map_id', average_map_const hne] at hlifted

theorem le_average (hne : xs ≠ []) {c : Exact ℝ} (h : ∀ x ∈ xs, c ≤ x) : c ≤ average xs := by
  have hlifted := average_map_le_average_map h
  rwa [List.map_id', average_map_const hne] at hlifted

theorem average_nonneg (h : ∀ x ∈ xs, 0 ≤ x) : 0 ≤ average xs :=
  div_nonneg (List.sum_nonneg h) (Nat.cast_nonneg _)

theorem average_neg (xs : List (Exact ℝ)) : average (xs.map fun x => -x) = -average xs := by
  rw [average, average, List.length_map, ← neg_div, List.sum_neg]

/-- **An average is not further from zero than the numbers are on average.** -/
theorem abs_average_le (xs : List (Exact ℝ)) : |average xs| ≤ average (xs.map fun x => |x|) := by
  have hlength : (0 : Exact ℝ) ≤ xs.length := Nat.cast_nonneg _
  rw [average, average, abs_div, abs_of_nonneg hlength, List.length_map]
  exact div_le_div_of_nonneg_right
    (List.le_sum_of_subadditive abs abs_zero.le abs_add_le xs) hlength

theorem meanSquare_nonneg (xs : List (Exact ℝ)) : 0 ≤ meanSquare xs :=
  average_nonneg fun y hy => by
    obtain ⟨x, -, rfl⟩ := List.mem_map.1 hy
    exact sq_nonneg x

theorem meanSquare_map_div (f : Exact ℝ → Exact ℝ) (xs : List (Exact ℝ)) (c : Exact ℝ) :
    meanSquare (xs.map fun x => f x / c) = meanSquare (xs.map f) / c ^ 2 := by
  rw [meanSquare, meanSquare, List.map_map, List.map_map, ← average_map_div]
  exact congrArg average (List.map_congr_left fun x _ => div_pow (f x) c 2)

theorem meanSquare_eq_of_perm (hperm : xs.Perm ys) : meanSquare xs = meanSquare ys :=
  average_eq_of_perm (hperm.map _)

theorem meanSquare_neg (xs : List (Exact ℝ)) : meanSquare (xs.map fun x => -x) = meanSquare xs := by
  rw [meanSquare, meanSquare, List.map_map]
  exact congrArg average (List.map_congr_left fun x _ => neg_sq x)

/-! ## 3.  Distances from the average -/

/-- **The distances from the average cancel.** -/
theorem average_distances (hne : xs ≠ []) : average (xs.map fun x => x - average xs) = 0 := by
  have hshifted := average_affine hne 1 (-average xs)
  simpa [sub_eq_add_neg] using hshifted

theorem deviation_eq (xs : List (Exact ℝ)) :
    deviation xs = Scalar.sqrt (meanSquare (xs.map fun x => x - average xs)) := by
  simp only [deviation, meanSquare, average, List.map_map, List.length_map]
  rfl

theorem deviation_sq (xs : List (Exact ℝ)) :
    deviation xs ^ 2 = meanSquare (xs.map fun x => x - average xs) := by
  rw [deviation_eq, sq_sqrt (meanSquare_nonneg _)]

theorem deviation_eq_of_perm (hperm : xs.Perm ys) : deviation xs = deviation ys := by
  rw [deviation_eq, deviation_eq, average_eq_of_perm hperm, meanSquare_eq_of_perm (hperm.map _)]

theorem deviation_neg (xs : List (Exact ℝ)) : deviation (xs.map fun x => -x) = deviation xs := by
  have hdistances : ((xs.map fun x => -x).map fun x => x - -average xs) =
      (xs.map fun x => x - average xs).map fun x => -x := by
    rw [List.map_map, List.map_map]
    refine List.map_congr_left fun x _ => ?_
    show -x - -average xs = -(x - average xs)
    ring
  rw [deviation_eq, deviation_eq, average_neg, hdistances, meanSquare_neg]

/-- **A mean square is the square of the average and the square of the deviation.** -/
theorem meanSquare_eq (hne : xs ≠ []) : meanSquare xs = average xs ^ 2 + deviation xs ^ 2 := by
  have hsquare : ∀ x : Exact ℝ, (x - average xs) ^ 2 =
      x ^ 2 + (-(2 * average xs) * x + average xs ^ 2) := fun x => by ring
  have hdistances : meanSquare (xs.map fun x => x - average xs) =
      meanSquare xs + (-(2 * average xs) * average xs + average xs ^ 2) := by
    rw [← average_affine hne, meanSquare, List.map_map, meanSquare, ← average_map_add]
    exact congrArg average (List.map_congr_left fun x _ => hsquare x)
  rw [deviation_sq, hdistances]
  ring

/-- **An average is not further from zero than the root of the mean square.** -/
theorem sq_average_le_meanSquare (hne : xs ≠ []) : average xs ^ 2 ≤ meanSquare xs := by
  rw [meanSquare_eq hne]
  exact le_add_of_nonneg_right (sq_nonneg _)

end Exact
end FleetScore
