import FleetScore.Decimal.Shortest
import FleetScore.Proofs.Numeric.Rounding

/-!
# How large the shortest decimal is

The shortest decimal of a double lies in the rounding interval of the double, so it is not above the
upper end of that interval.  It has seventeen digits, or is a one with seventeen zeros before these
are dropped: the grids on which it is looked for start at the double's first digit and end sixteen
places below it, and on none of them it is more than one point away from the double.

Both bounds are about the decimal as it is found; dropping the zeros at its end changes neither.
-/

namespace FleetScore
namespace Decimal

/-! ## 1.  Decimals as numbers -/

/-- The number that a decimal stands for. -/
def Digits.value (d : Digits) : ℚ := d.significand * 10 ^ d.exponent

/-- What is known of a decimal that was found: it has at most seventeen digits, unless it is the
next power of ten, is not above a bound, and is written as `0` if it is zero. -/
structure Digits.IsShort (bound : ℚ) (d : Digits) : Prop where
  significand_le : d.significand ≤ 10 ^ 17
  value_le : d.value ≤ bound
  exponent_of_zero : d.significand = 0 → d.exponent = 0

/-- **Dropping zeros keeps the number** and makes its significand no larger, but not zero. -/
theorem Digits.dropZeros_spec (fuel m : ℕ) (e : ℤ) :
    (dropZeros fuel m e).value = m * 10 ^ e ∧ (dropZeros fuel m e).significand ≤ m ∧
      (m ≠ 0 → (dropZeros fuel m e).significand ≠ 0) := by
  induction fuel generalizing m e with
  | zero => exact ⟨rfl, le_rfl, id⟩
  | succ fuel ih =>
    by_cases hm : m % 10 = 0
    · obtain ⟨n, rfl⟩ : ∃ n, m = 10 * n := ⟨m / 10, by omega⟩
      have hquotient : 10 * n / 10 = n := by omega
      obtain ⟨hvalue, hle, hne⟩ := ih n (e + 1)
      rw [dropZeros, if_pos hm, hquotient]
      refine ⟨?_, by omega, fun h => hne (by omega)⟩
      rw [hvalue, zpow_add₀ (by norm_num)]
      push_cast
      ring
    · rw [dropZeros, if_neg hm]
      exact ⟨rfl, le_rfl, id⟩

theorem Digits.isShort_normalised {bound : ℚ} {d : Digits} (hsignificand : d.significand ≤ 10 ^ 17)
    (hvalue : d.value ≤ bound) : d.normalised.IsShort bound := by
  unfold normalised
  split
  · rename_i hzero
    have hnumber : d.value = (⟨0, 0⟩ : Digits).value := by simp [value, hzero]
    exact ⟨Nat.zero_le _, hnumber ▸ hvalue, fun _ => rfl⟩
  · rename_i hzero
    obtain ⟨hequal, hle, hne⟩ := dropZeros_spec d.count d.significand d.exponent
    exact ⟨hle.trans hsignificand, hequal.trans_le hvalue, fun h => absurd h (hne hzero)⟩

/-! ## 2.  Intervals -/

/-- **The number of digits** lies between two powers of ten, as the number does. -/
theorem exists_length_digits {n : ℕ} (hn : n ≠ 0) :
    ∃ k, (digits n).length = k + 1 ∧ 10 ^ k ≤ n ∧ n < 10 ^ (k + 1) := by
  have hiff : ∀ {k}, 0 < k → ((digits n).length ≤ k ↔ n < 10 ^ k) :=
    Nat.length_toDigits_le_iff (by omega)
  obtain ⟨k, hk⟩ : ∃ k, (digits n).length = k + 1 :=
    Nat.exists_eq_succ_of_ne_zero (List.length_pos_iff.2 Nat.toDigits_ne_nil).ne'
  refine ⟨k, hk, ?_, (hiff (Nat.succ_pos k)).1 hk.le⟩
  obtain rfl | hpos := Nat.eq_zero_or_pos k
  · exact Nat.one_le_iff_ne_zero.2 hn
  · exact not_lt.1 fun hlt => absurd ((hiff hpos).2 hlt) (by omega)

namespace Interval

variable {i : Interval} {tie : Tie} {k : ℤ}

/-- A number over the denominator of an interval, on the grid of a power of ten. -/
theorem scaled_quotient (n den : ℕ) (k : ℤ) :
    ((n * tenTo (-k).toNat : ℕ) : ℚ) / ((den * tenTo k.toNat : ℕ) : ℚ) = n / den / 10 ^ k := by
  have hpow : (10 : ℚ) ^ k = 10 ^ k.toNat / 10 ^ (-k).toNat := by
    obtain ⟨j, rfl | rfl⟩ := k.eq_nat_or_neg
    · simp
    · simp
  rw [hpow]
  simp only [tenTo, Nat.pow_eq]
  push_cast
  rw [div_div_div_eq]

theorem den_scaled_pos (hden : 0 < i.den) : 0 < (i.scaled k).den :=
  Nat.mul_pos hden (Nat.pow_pos (by omega))

/-- **The first digit of the value stands at the leading power of ten.** -/
theorem leading_spec (hvalue : 0 < i.value) (hden : 0 < i.den) :
    (10 : ℚ) ^ i.leading ≤ i.value / i.den ∧ (i.value : ℚ) / i.den < 10 ^ (i.leading + 1) := by
  have hcast : (0 : ℚ) < i.den := by exact_mod_cast hden
  rw [le_div_iff₀ hcast, div_lt_iff₀ hcast]
  unfold leading
  split
  · rename_i hle
    obtain ⟨j, hj, hlow, hhigh⟩ := exists_length_digits (Nat.div_pos hle hden).ne'
    rw [Nat.le_div_iff_mul_le hden] at hlow
    rw [Nat.div_lt_iff_lt_mul hden] at hhigh
    rw [hj, show ((j + 1 : ℕ) : ℤ) - 1 = (j : ℕ) by omega,
      show ((j : ℕ) : ℤ) + 1 = ((j + 1 : ℕ) : ℤ) by omega, zpow_natCast, zpow_natCast]
    exact ⟨by exact_mod_cast hlow, by exact_mod_cast hhigh⟩
  · rename_i hlt
    have hinverse : (i.den - 1) / i.value ≠ 0 := (Nat.div_pos (by omega) hvalue).ne'
    obtain ⟨j, hj, hlow, hhigh⟩ := exists_length_digits hinverse
    rw [Nat.le_div_iff_mul_le hvalue] at hlow
    rw [Nat.div_lt_iff_lt_mul hvalue] at hhigh
    have hdenLe : i.den ≤ 10 ^ (j + 1) * i.value := by omega
    have hdenGt : 10 ^ j * i.value < i.den := by omega
    dsimp only
    rw [if_neg hinverse, hj, show -((j + 1 : ℕ) : ℤ) + 1 = -(j : ℕ) by omega, zpow_neg, zpow_neg,
      zpow_natCast, zpow_natCast, inv_mul_le_iff₀ (by positivity), lt_inv_mul_iff₀ (by positivity)]
    exact ⟨by exact_mod_cast hdenLe, by exact_mod_cast hdenGt⟩

/-- An integer of the interval is not above its upper end, and the nearest one is the floor of the
value or the integer after it. -/
theorem nearest?_spec {n : ℕ} (h : i.nearest? tie = some n) :
    n * i.den ≤ i.high ∧ n ≤ i.value / i.den + 1 := by
  have hholds : i.holds n = true ∧ n ≤ i.value / i.den + 1 := by
    unfold nearest? at h
    dsimp only at h
    split at h
    · rename_i hlow hhigh
      have hround : roundQuotient tie i.value i.den = i.value / i.den ∨
          roundQuotient tie i.value i.den = i.value / i.den + 1 := by
        unfold roundQuotient
        dsimp only
        split_ifs <;> simp
      obtain rfl := Option.some.inj h
      obtain hn | hn := hround
      · rw [hn]
        exact ⟨hlow, by omega⟩
      · rw [hn]
        exact ⟨hhigh, le_rfl⟩
    · rename_i hlow _
      obtain rfl := Option.some.inj h
      exact ⟨hlow, by omega⟩
    · rename_i _ hhigh
      obtain rfl := Option.some.inj h
      exact ⟨hhigh, le_rfl⟩
    · cases h
  refine ⟨?_, hholds.2⟩
  have hpoint := hholds.1
  unfold holds at hpoint
  split_ifs at hpoint
  · exact (of_decide_eq_true hpoint).2
  · exact (of_decide_eq_true hpoint).2.le

/-- On a grid at most sixteen places below the first digit, the floor of the value has at most
seventeen digits. -/
theorem scaled_value_lt (hvalue : 0 < i.value) (hden : 0 < i.den) (hk : i.leading - 16 ≤ k) :
    (i.scaled k).value / (i.scaled k).den < 10 ^ 17 := by
  have hcast : (0 : ℚ) < (i.scaled k).den := by exact_mod_cast den_scaled_pos hden
  rw [Nat.div_lt_iff_lt_mul (den_scaled_pos hden)]
  have hlt : ((i.scaled k).value : ℚ) / (i.scaled k).den < 10 ^ (17 : ℤ) := by
    show ((i.value * tenTo (-k).toNat : ℕ) : ℚ) / ((i.den * tenTo k.toNat : ℕ) : ℚ) < _
    rw [scaled_quotient, div_lt_iff₀ (by positivity), ← zpow_add₀ (by norm_num)]
    exact (leading_spec hvalue hden).2.trans_le (zpow_le_zpow_right₀ (by norm_num) (by omega))
  rw [div_lt_iff₀ hcast] at hlt
  exact_mod_cast hlt

theorem value_le_of_scaled {n : ℕ} (hden : 0 < i.den)
    (h : n * (i.scaled k).den ≤ (i.scaled k).high) :
    (⟨n, k⟩ : Digits).value ≤ (i.high : ℚ) / i.den := by
  have hscaledDen : (0 : ℚ) < (i.scaled k).den := by exact_mod_cast den_scaled_pos hden
  have hcast : (n : ℚ) * (i.scaled k).den ≤ (i.scaled k).high := by exact_mod_cast h
  rw [← le_div_iff₀ hscaledDen] at hcast
  rw [Digits.value, ← le_div_iff₀ (by positivity), ← scaled_quotient]
  exact hcast

theorem scaled_value_ne_zero (hvalue : 0 < i.value) (hden : 0 < i.den) (hk : k ≤ i.leading) :
    (i.scaled k).value / (i.scaled k).den ≠ 0 := by
  have hcast : (0 : ℚ) < (i.scaled k).den := by exact_mod_cast den_scaled_pos hden
  have hone : (1 : ℚ) ≤ ((i.scaled k).value : ℚ) / (i.scaled k).den := by
    show _ ≤ ((i.value * tenTo (-k).toNat : ℕ) : ℚ) / ((i.den * tenTo k.toNat : ℕ) : ℚ)
    rw [scaled_quotient, le_div_iff₀ (by positivity), one_mul]
    exact (zpow_le_zpow_right₀ (by norm_num) hk).trans (leading_spec hvalue hden).1
  rw [one_le_div hcast] at hone
  exact (Nat.div_pos (by exact_mod_cast hone) (den_scaled_pos hden)).ne'

/-- **The shortest decimal of an interval is not above its upper end.** -/
theorem isShort_shortest (tie : Tie) (hvalue : 0 < i.value) (hden : 0 < i.den)
    (hhigh : i.value ≤ i.high) : (i.shortest tie).IsShort ((i.high : ℚ) / i.den) := by
  unfold shortest
  dsimp only
  split
  · rename_i d hfound
    obtain ⟨n, hn, hgrid⟩ := List.exists_of_findSome?_eq_some hfound
    obtain ⟨s, hs, rfl⟩ := Option.map_eq_some_iff.1 hgrid
    obtain ⟨hend, hfloor⟩ := nearest?_spec hs
    have hrange : n < 17 := List.mem_range.1 hn
    have hlt := scaled_value_lt (k := i.leading - n) hvalue hden (by omega)
    exact Digits.isShort_normalised (by show s ≤ _; omega) (value_le_of_scaled hden hend)
  · have hlt := scaled_value_lt (k := i.leading - 16) hvalue hden le_rfl
    have hne := scaled_value_ne_zero (k := i.leading - 16) hvalue hden (by omega)
    have hscaled : (i.scaled (i.leading - 16)).value ≤ (i.scaled (i.leading - 16)).high :=
      Nat.mul_le_mul_right _ hhigh
    exact ⟨hlt.le, value_le_of_scaled hden ((Nat.div_mul_le_self _ _).trans hscaled),
      fun h => absurd h hne⟩

end Interval

/-! ## 3.  Doubles -/

theorem high_ofParts (m : ℕ) (q : ℤ) :
    ((Interval.ofParts m q).high : ℚ) / (Interval.ofParts m q).den =
      Binary64.scaled (2 * m + 1) (q - 1) := by
  have hpow : (2 : ℚ) ^ (q - 1) = 2 ^ q.toNat / 2 ^ (-q).toNat / 2 := by
    rw [zpow_sub_one₀ (by norm_num), ← div_eq_mul_inv]
    congr 1
    obtain ⟨j, rfl | rfl⟩ := q.eq_nat_or_neg
    · simp
    · simp
  rw [Binary64.scaled, hpow]
  simp only [Interval.ofParts, twoTo, Nat.pow_eq]
  push_cast
  field_simp
  ring

/-- **The shortest decimal of a double is short** and at most halfway to the next double. -/
theorem isShort_shortest (tie : Tie) (m : ℕ) (q : ℤ) :
    (shortest tie m q).IsShort (Binary64.scaled (2 * m + 1) (q - 1)) := by
  unfold shortest
  split
  · exact ⟨Nat.zero_le _, by simpa [Digits.value] using Binary64.scaled_nonneg _ _, fun _ => rfl⟩
  · rename_i hm
    have hpow : 0 < twoTo q.toNat := Nat.pow_pos (by omega)
    rw [← high_ofParts]
    refine Interval.isShort_shortest tie ?_ ?_ ?_
    · exact Nat.mul_pos (by omega) hpow
    · exact Nat.mul_pos (by omega) (Nat.pow_pos (by omega))
    · exact Nat.mul_le_mul_right _ (by omega)

end Decimal
end FleetScore
