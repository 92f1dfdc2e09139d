import FleetScore.Proofs.Numeric.Nonnegative
import FleetScore.Proofs.Numeric.Signs

/-!
# Counts, and quotients of counts

A rate is a quotient of two counts, and each of the three steps may round: both counts when they
become doubles, and the quotient.  A rate is capped at one.  Is it one whenever the upper count is
not below the lower one, or may the rounding of the counts turn the quotient around?

It may not (`clamp_quotient_eq_one`).  *No double lies between* is not enough for this: two counts
of more than 53 bits may be rounded to two neighbouring doubles, each to one that is a neighbour of
both.  What is needed is that rounding to the nearest double keeps the order.  It does since the
bits that are shifted out are read as the digits of one number, the *weight*, and shifting keeps the
order of the weights (`rounded_le_rounded`).

The other way round nothing can be said: a count that is larger by less than a rounding is the same
double.
-/

namespace FleetScore
namespace Binary64

open Float.Model Float.Model.UnpackedFloat

/-! ## 1.  Rounding keeps the order -/

/-- A significand with the two bits that stand for what was shifted out, as one number. -/
def weight (em : ExtendedMantissa) : ℕ :=
  4 * em.mantissa + 2 * em.roundBit.toNat + em.stickyBit.toNat

section

variable {a b : ExtendedMantissa}

theorem weight_shiftRightOne (a : ExtendedMantissa) :
    weight a.shiftRightOne = 2 * a.mantissa + (a.roundBit || a.stickyBit).toNat := by
  have hparity : (a.mantissa % 2 != 0).toNat = a.mantissa % 2 := by
    obtain h | h := Nat.mod_two_eq_zero_or_one a.mantissa <;> rw [h] <;> rfl
  have hdivision := Nat.div_add_mod a.mantissa 2
  simp only [weight, ExtendedMantissa.shiftRightOne, hparity]
  omega

theorem weight_shiftRightOne_le (h : weight a ≤ weight b) :
    weight a.shiftRightOne ≤ weight b.shiftRightOne := by
  rw [weight_shiftRightOne, weight_shiftRightOne]
  obtain ⟨m, roundBit, stickyBit⟩ := a
  obtain ⟨n, roundBit', stickyBit'⟩ := b
  simp only [weight] at h ⊢
  cases roundBit <;> cases stickyBit <;> cases roundBit' <;> cases stickyBit' <;>
    simp only [Bool.or_true, Bool.or_false, Bool.toNat_true, Bool.toNat_false] at h ⊢ <;> omega

theorem weight_shift_le (h : weight a ≤ weight b) (k : ℕ) : weight (a >>> k) ≤ weight (b >>> k) := by
  induction k with
  | zero => exact h
  | succ k ih => exact weight_shiftRightOne_le ih

theorem roundedMantissa_le_roundedMantissa (h : weight a ≤ weight b) :
    a.roundedMantissa ≤ b.roundedMantissa := by
  obtain ⟨m, roundBit, stickyBit⟩ := a
  obtain ⟨n, roundBit', stickyBit'⟩ := b
  cases roundBit <;> cases stickyBit <;> cases roundBit' <;> cases stickyBit' <;>
    simp only [weight, ExtendedMantissa.roundedMantissa, ExtendedMantissa.accuracy,
      Accuracy.roundToNearestEven, Bool.toNat_true, Bool.toNat_false] at h ⊢ <;> omega

end

/-- **Rounding by one number of places keeps the order.** -/
theorem rounded_le_rounded {m n : ℕ} (h : m ≤ n) (k : ℕ) :
    rounded m .exact k ≤ rounded n .exact k := by
  refine roundedMantissa_le_roundedMantissa (weight_shift_le ?_ k)
  simp only [weight, ExtendedMantissa.ofMantissaAndAccuracy]
  omega

/-! ## 2.  Counts -/

section

variable {m n : ℕ}

/-- What is packed for a count of more bits than a significand has. -/
theorem ofScientific_spec (hle : 2 ^ 53 ≤ n) :
    IsRounded (UnpackedFloat.ofScientific Format.binary64 n (0 : ℕ)) ∧
      size (UnpackedFloat.ofScientific Format.binary64 n (0 : ℕ)) =
        scaled (rounded (n * 2 ^ 53) .exact (n.log2 + 1)) (n.log2 - 52) := by
  have hn : n ≠ 0 := by omega
  have htarget : target (n * 2 ^ 53) (-53) = -53 + (n.log2 + 1 : ℕ) := by
    rw [target_mul_two_pow hn]
    push_cast
    ring
  have hround := round_spec .positive .exact htarget (.inl (by positivity))
  rw [ofScientific_eq_round hn (Nat.zero_le _), pow_zero, mul_one]
  rwa [show (-53 + (n.log2 + 1 : ℕ) : ℤ) = n.log2 - 52 by push_cast; ring] at hround

/-- Counts with a power of two between them are rounded to its two sides. -/
theorem size_le_of_log2_lt {u w : UnpackedFloat} (hu : Neighbours u m) (hw : Neighbours w n)
    (hlog : m.log2 < n.log2) : size u ≤ size w := by
  have hbelow : m ≤ 2 ^ n.log2 :=
    Nat.lt_log2_self.le.trans (Nat.pow_le_pow_right (by norm_num) hlog)
  have habove : 2 ^ n.log2 ≤ n := Nat.log2_self_le (by rintro rfl; simp at hlog)
  have hcanonical : IsCanonical (2 ^ 52) ((n.log2 : ℤ) - 52) := isCanonical_two_pow (by omega)
  have hpower : scaled (2 ^ 52) ((n.log2 : ℤ) - 52) = 2 ^ n.log2 := by
    rw [scaled_two_pow_sub, zpow_natCast]
  calc size u ≤ scaled (2 ^ 52) ((n.log2 : ℤ) - 52) :=
        hu.size_le hcanonical (by rw [hpower]; exact_mod_cast hbelow)
    _ ≤ size w := hw.le_size hcanonical (by rw [hpower]; exact_mod_cast habove)

/-- **Counts are rounded in their order.**  A count of at most 53 bits is not rounded, counts with
different numbers of bits have a power of two between them, and the others lose the same number of
places. -/
theorem exists_size_le (hm : m ≠ 0) (h : m ≤ n) :
    ∃ u w, (Scalar.ofNat m : Float) = Float.ofModel (.pack u) ∧
      (Scalar.ofNat n : Float) = Float.ofModel (.pack w) ∧ IsRounded u ∧ IsRounded w ∧
      size u ≤ size w := by
  obtain ⟨u, hu, hnear⟩ := exists_neighbours_ofNat hm
  obtain ⟨w, hw, hnear'⟩ := exists_neighbours_ofNat (n := n) (by omega)
  obtain hsmall | hlarge := Nat.lt_or_ge m (2 ^ 53)
  · obtain ⟨M, E, hcanonical, hexact⟩ := exists_isCanonical hsmall
    have hcast : scaled M E ≤ n := hexact.trans_le (by exact_mod_cast h)
    exact ⟨u, w, hu, hw, hnear.isRounded, hnear'.isRounded,
      (hnear.size_le hcanonical hexact.ge).trans (hnear'.le_size hcanonical hcast)⟩
  · have hbits : m.log2 ≤ n.log2 :=
      (Nat.le_log2 (by omega)).2 ((Nat.log2_self_le hm).trans h)
    obtain hlog | hlog := Nat.lt_or_eq_of_le hbits
    · exact ⟨u, w, hu, hw, hnear.isRounded, hnear'.isRounded, size_le_of_log2_lt hnear hnear' hlog⟩
    · obtain ⟨hrounded, hsize⟩ := ofScientific_spec hlarge
      obtain ⟨hrounded', hsize'⟩ := ofScientific_spec (hlarge.trans h)
      refine ⟨_, _, ofNat_eq_ofScientific hlarge, ofNat_eq_ofScientific (hlarge.trans h), hrounded,
        hrounded', ?_⟩
      rw [hsize, hsize', hlog]
      exact scaled_le_scaled (rounded_le_rounded (Nat.mul_le_mul_right _ h) _) _

/-- **Counts keep their order** as far as they are finite doubles. -/
theorem magnitude_ofNat_le (h : m ≤ n) (hfinite : Scalar.isFinite (Scalar.ofNat n : Float) = true) :
    magnitude (Scalar.ofNat m : Float) ≤ magnitude (Scalar.ofNat n : Float) := by
  by_cases hzero : m = 0
  · rw [hzero]
    exact size_nonneg _
  obtain ⟨u, w, hu, hw, hrounded, hrounded', hle⟩ := exists_size_le hzero h
  rw [hw] at hfinite
  obtain ⟨hgreatest, hsize⟩ := magnitude_pack hrounded' hfinite
  rw [hu, hw, (isFinite_pack hrounded (hle.trans hgreatest)).2, hsize]
  exact hle

theorem isNonnegative_ofNat (n : ℕ) : IsNonnegative (Scalar.ofNat n) := by
  refine ⟨hasNoSign_ofNat n, ?_⟩
  by_cases hzero : n = 0
  · rw [hzero]
    decide
  · obtain ⟨u, hcount, hu⟩ := exists_neighbours_ofNat hzero
    rw [hcount]
    exact isNaN_pack hu.isRounded

end

/-! ## 3.  Quotients of counts -/

theorem isNumber_one : IsNumber .positive 1 1.0 := by
  have hunpack : (1.0 : Float).toModel.unpack = .finite .positive (2 ^ 52) (-52) (by decide) := by
    rfl
  refine ⟨by decide, by rw [hunpack]; rfl, ?_⟩
  rw [magnitude, hunpack]
  norm_num [size, scaled]

theorem IsNumber.level_eq {q : ℚ} {x : Float} (h : IsNumber .positive q x) :
    level x = ((q : WithTop ℚ) : WithBot (WithTop ℚ)) := by
  rw [level, place_of_isFinite h.isFinite, h.hasSign.value_eq]
  exact congrArg _ (congrArg _ h.magnitude_eq)

theorem IsNumber.le_of_not_less {q r : ℚ} {x y : Float} (hx : IsNumber .positive q x)
    (hy : IsNumber .positive r y) (h : Scalar.less x y = false) : r ≤ q := by
  by_contra hlt
  have hlevels : level x < level y := by
    rw [hx.level_eq, hy.level_eq]
    exact WithBot.coe_lt_coe.2 (WithTop.coe_lt_coe.2 (not_le.1 hlt))
  exact Bool.eq_false_iff.1 h
    (less_iff.2 ⟨isNaN_of_isFinite hx.isFinite, isNaN_of_isFinite hy.isFinite, hlevels⟩)

section

variable {m n : ℕ} (hn : n ≠ 0) (hword : n < 2 ^ 64)

include hn hword

/-- A divisor that is a word and not zero is finite and at least one. -/
theorem divisor_spec :
    Scalar.isFinite (Scalar.ofNat n : Float) = true ∧ 1 ≤ magnitude (Scalar.ofNat n : Float) := by
  have hle : (n : ℚ) ≤ 2 ^ (64 : ℤ) := by exact_mod_cast hword.le
  exact ⟨(neighbours_ofNat hn hle (by norm_num) (by norm_num)).1.isFinite,
    one_le_ofNat hn hle (by norm_num) (by norm_num)⟩

theorem isNonnegative_quotient (m : ℕ) :
    IsNonnegative (Scalar.ofNat m / Scalar.ofNat n : Float) := by
  obtain ⟨hfinite, hone⟩ := divisor_spec hn hword
  exact (isNonnegative_ofNat m).div (hasNoSign_ofNat n) hfinite hone

/-- **A quotient of a count by one that is not larger is not below one.** -/
theorem one_le_magnitude_quotient (h : n ≤ m)
    (hfinite : Scalar.isFinite (Scalar.ofNat m / Scalar.ofNat n : Float) = true) :
    1 ≤ magnitude (Scalar.ofNat m / Scalar.ofNat n : Float) := by
  obtain ⟨hdivisor, hone⟩ := divisor_spec hn hword
  have hpos := zero_lt_one.trans_le hone
  have hdivided := isFinite_div hfinite
  have hnear := neighbours_div (isRounded_unpack hdivided) (isRounded_unpack hdivisor) hpos.ne'
  have hexact : 1 ≤ magnitude (Scalar.ofNat m : Float) / magnitude (Scalar.ofNat n : Float) :=
    (one_le_div hpos).2 (magnitude_ofNat_le h hdivided)
  have hscaled : scaled (2 ^ 52) (0 - 52) = 1 := by rw [scaled_two_pow_sub, zpow_zero]
  calc (1 : ℚ) ≤ size (UnpackedFloat.div Format.binary64 (Scalar.ofNat m : Float).toModel.unpack
        (Scalar.ofNat n : Float).toModel.unpack) :=
      hscaled ▸ hnear.le_size (isCanonical_two_pow (by norm_num)) (hscaled.trans_le hexact)
    _ = magnitude (Scalar.ofNat m / Scalar.ofNat n : Float) :=
      (magnitude_pack hnear.isRounded hfinite).2.symm

/-- **A rate of counts is one as soon as the upper count is not below the lower one.** -/
theorem clamp_quotient_eq_one (h : n ≤ m) :
    Scalar.clamp (Scalar.ofNat m / Scalar.ofNat n : Float) 0.0 1.0 = 1.0 := by
  have hquotient := isNonnegative_quotient hn hword m
  rw [clamp_quotient]
  cases hless : Scalar.less (1.0 : Float) (Scalar.ofNat m / Scalar.ofNat n)
  · -- The quotient is not above one, so it is finite, and then it is not below one either.
    have hfinite := hquotient.isFinite_of_not_less (by decide) hless
    have hnumber : IsNumber .positive (magnitude (Scalar.ofNat m / Scalar.ofNat n : Float))
        (Scalar.ofNat m / Scalar.ofNat n) := ⟨hfinite, hquotient.hasNoSign.hasSign, rfl⟩
    have hone : magnitude (Scalar.ofNat m / Scalar.ofNat n : Float) = 1 :=
      le_antisymm (isNumber_one.le_of_not_less hnumber hless)
        (one_le_magnitude_quotient hn hword h hfinite)
    exact (hone ▸ hnumber).eq isNumber_one
  · rfl

end

end Binary64
end FleetScore
