import FleetScore.Proofs.Numeric.Doubles
import Mathlib.Algebra.Order.Field.Power
import Mathlib.Tactic.Linarith
import Mathlib.Tactic.NormNum
import Mathlib.Tactic.Positivity
import Mathlib.Tactic.Ring

/-!
# Rounding never crosses a double

The result of an operation on doubles is an exact number, rounded.  Of rounding one fact is needed
again and again, and it is stated here twice: a double that is not below the exact number is not
below the rounded one (`size_round_le`), and a double that is not above it is not above the rounded
one (`le_size_round`).  Neither needs to know which neighbour is nearer.  Where that matters --- a
small term added to a large sum disappears --- there is `size_round_le_of_half`.

## What a double is here

Signs take no part, so a number is its *size* `m · 2 ^ e`, a rational.  A pair of significand and
exponent is *canonical* if it is the one that doubles are written with: 53 bits, or fewer at the
least exponent.  There is no greatest exponent in this.  What becomes of a number that is too large
is decided by packing, after rounding, and stated with it: a canonical number is unpacked as it was
packed if its exponent is at most 971, and as an infinity otherwise.

## How a number is rounded

The significand is shifted by `k` places, up to the target exponent, and the bits that were lost say
whether one is added.  `rounded m a k` is what comes out.  The shift is by division, and a carry into
the 54th bit only changes how the number is written, so the size of the result is
`rounded m a k · 2 ^ (e + k)`.
-/

namespace FleetScore
namespace Binary64

open Float.Model Float.Model.UnpackedFloat

/-! ## 1.  Sizes -/

/-- The number `m · 2 ^ e`. -/
def scaled (m : ℕ) (e : ℤ) : ℚ := m * 2 ^ e

theorem scaled_nonneg (m : ℕ) (e : ℤ) : 0 ≤ scaled m e := by
  unfold scaled
  positivity

theorem scaled_le_scaled {m n : ℕ} (h : m ≤ n) (e : ℤ) : scaled m e ≤ scaled n e := by
  have hcast : (m : ℚ) ≤ n := by exact_mod_cast h
  exact mul_le_mul_of_nonneg_right hcast (by positivity)

theorem scaled_lt_scaled_iff {m n : ℕ} {e : ℤ} : scaled m e < scaled n e ↔ m < n := by
  have hpos : (0 : ℚ) < 2 ^ e := by positivity
  rw [scaled, scaled, mul_lt_mul_iff_left₀ hpos]
  exact Nat.cast_lt

theorem scaled_le_scaled_iff {m n : ℕ} {e : ℤ} : scaled m e ≤ scaled n e ↔ m ≤ n := by
  rw [← not_lt, scaled_lt_scaled_iff, not_lt]

theorem scaled_add (m : ℕ) (e : ℤ) (k : ℕ) : scaled m (e + k) = scaled (m * 2 ^ k) e := by
  rw [scaled, scaled, zpow_add₀ (by norm_num), zpow_natCast]
  push_cast
  ring

theorem scaled_two_pow (k : ℕ) (e : ℤ) : scaled (2 ^ k) e = 2 ^ (k + e) := by
  rw [scaled, zpow_add₀ (by norm_num), zpow_natCast]
  push_cast
  rfl

/-- The distance of a number from zero; zero for what is no number. -/
def size : UnpackedFloat → ℚ
  | .finite _ m e _ => scaled m e
  | _ => 0

theorem size_nonneg (u : UnpackedFloat) : 0 ≤ size u := by
  cases u
  case finite => exact scaled_nonneg _ _
  all_goals exact le_refl _

/-- A significand and an exponent that a double is written with, if the exponent is not too
large: a significand of fewer than 53 bits stands at the least exponent. -/
structure IsCanonical (m : ℕ) (e : ℤ) : Prop where
  lt : m < 2 ^ 53
  le : -1074 ≤ e
  full : 2 ^ 52 ≤ m ∨ e = -1074

/-! ## 2.  Shifting -/

theorem mantissa_shift (em : ExtendedMantissa) (k : ℕ) :
    (em >>> k).mantissa = em.mantissa / 2 ^ k := by
  induction k with
  | zero => exact (Nat.div_one _).symm
  | succ k ih =>
    show (em >>> k).mantissa / 2 = _
    rw [ih, Nat.div_div_eq_div_mul, Nat.pow_succ]

/-- The round bit is the last bit that was lost. -/
theorem roundBit_shift_succ (em : ExtendedMantissa) (k : ℕ) :
    (em >>> (k + 1)).roundBit = (em.mantissa / 2 ^ k % 2 != 0) := by
  show ((em >>> k).mantissa % 2 != 0) = _
  rw [mantissa_shift]

theorem shift_multiple (n k : ℕ) :
    (⟨n * 2 ^ k, false, false⟩ : ExtendedMantissa) >>> k = ⟨n, false, false⟩ := by
  induction k generalizing n with
  | zero => simp [HShiftRight.hShiftRight, Nat.repeat]
  | succ k ih =>
    have hmul : n * 2 ^ (k + 1) = n * 2 * 2 ^ k := by rw [Nat.pow_succ]; ring
    show ExtendedMantissa.shiftRightOne (ExtendedMantissa.mk (n * 2 ^ (k + 1)) false false >>> k) = _
    rw [hmul, ih (n * 2)]
    simp [ExtendedMantissa.shiftRightOne]

theorem roundedMantissa_bounds (em : ExtendedMantissa) :
    em.mantissa ≤ em.roundedMantissa ∧ em.roundedMantissa ≤ em.mantissa + 1 := by
  obtain ⟨m, roundBit, stickyBit⟩ := em
  cases roundBit <;> cases stickyBit <;>
    simp [ExtendedMantissa.roundedMantissa, ExtendedMantissa.accuracy,
      Accuracy.roundToNearestEven]
  omega

/-- Less than half a unit is dropped. -/
theorem roundedMantissa_of_roundBit {em : ExtendedMantissa} (h : em.roundBit = false) :
    em.roundedMantissa = em.mantissa := by
  obtain ⟨m, roundBit, stickyBit⟩ := em
  obtain rfl : roundBit = false := h
  cases stickyBit <;> rfl

/-! ## 3.  The rounded significand -/

/-- The significand `m`, of which the accuracy says what is missing, rounded `k` places further
left. -/
def rounded (m : ℕ) (a : Accuracy) (k : ℕ) : ℕ :=
  (ExtendedMantissa.ofMantissaAndAccuracy m a >>> k).roundedMantissa

theorem mantissa_ofMantissaAndAccuracy (m : ℕ) (a : Accuracy) :
    (ExtendedMantissa.ofMantissaAndAccuracy m a).mantissa = m := by
  rcases a with _ | _ | _ | _ <;> rfl

theorem le_rounded (m : ℕ) (a : Accuracy) (k : ℕ) : m / 2 ^ k ≤ rounded m a k := by
  have h := (roundedMantissa_bounds (ExtendedMantissa.ofMantissaAndAccuracy m a >>> k)).1
  rwa [mantissa_shift, mantissa_ofMantissaAndAccuracy] at h

theorem rounded_le_succ (m : ℕ) (a : Accuracy) (k : ℕ) : rounded m a k ≤ m / 2 ^ k + 1 := by
  have h := (roundedMantissa_bounds (ExtendedMantissa.ofMantissaAndAccuracy m a >>> k)).2
  rwa [mantissa_shift, mantissa_ofMantissaAndAccuracy] at h

/-- A number below an integer is not rounded above it. -/
theorem rounded_le_of_lt {m n k : ℕ} (a : Accuracy) (h : m < n * 2 ^ k) : rounded m a k ≤ n := by
  have hquotient : m / 2 ^ k < n := (Nat.div_lt_iff_lt_mul (by positivity)).2 h
  exact (rounded_le_succ m a k).trans hquotient

theorem rounded_multiple (n k : ℕ) : rounded (n * 2 ^ k) .exact k = n := by
  unfold rounded
  rw [ExtendedMantissa.ofMantissaAndAccuracy, shift_multiple]
  rfl

theorem rounded_le_of_half {m n k : ℕ} (h : 2 * m < (2 * n + 1) * 2 ^ k) :
    rounded m .exact k ≤ n := by
  obtain hbelow | habove := Nat.lt_or_ge m (n * 2 ^ k)
  · exact rounded_le_of_lt _ hbelow
  · cases k with
    | zero =>
      obtain rfl : m = n * 2 ^ 0 := by omega
      exact (rounded_multiple n 0).le
    | succ k =>
      have hpow : 2 ^ (k + 1) = 2 * 2 ^ k := Nat.pow_succ'
      have hpos : 0 < 2 ^ k := by positivity
      have hquotient : m / 2 ^ k = 2 * n := by
        apply Nat.div_eq_of_lt_le
        · calc 2 * n * 2 ^ k = n * 2 ^ (k + 1) := by rw [hpow]; ring
            _ ≤ m := habove
        · have hexpand : (2 * n + 1) * 2 ^ (k + 1) = 2 * ((2 * n + 1) * 2 ^ k) := by
            rw [hpow]; ring
          omega
      have hbit : (ExtendedMantissa.ofMantissaAndAccuracy m .exact >>> (k + 1)).roundBit = false := by
        rw [roundBit_shift_succ, mantissa_ofMantissaAndAccuracy, hquotient]
        simp
      rw [rounded, roundedMantissa_of_roundBit hbit, mantissa_shift,
        mantissa_ofMantissaAndAccuracy, Nat.pow_succ, ← Nat.div_div_eq_div_mul, hquotient]
      omega

/-! ## 4.  Rounding -/

/-- The exponent that a number is rounded to. -/
def target (m : ℕ) (e : ℤ) : ℤ := max (m.log2 + e - 52) (-1074)

theorem targetExponent_eq (m : ℕ) (e : ℤ) :
    Format.binary64.targetExponent (totalExponent m e) = target m e := by
  simp only [Format.targetExponent, totalExponent, Format.mantissaBits, Format.minExponent, target]
  norm_num
  omega

theorem lt_of_target {m : ℕ} {e : ℤ} {k : ℕ} (h : target m e ≤ e + k) : m / 2 ^ k < 2 ^ 53 := by
  unfold target at h
  have hlog : m < 2 ^ (m.log2 + 1) := Nat.lt_log2_self
  have hpow : 2 ^ (m.log2 + 1) ≤ 2 ^ (53 + k) := Nat.pow_le_pow_right (by omega) (by omega)
  rw [Nat.div_lt_iff_lt_mul (by positivity), ← Nat.pow_add]
  omega

/-- A target above the least exponent leaves 53 bits. -/
theorem le_of_target {m : ℕ} {e : ℤ} {k : ℕ} (h : target m e = e + k) (hm : m ≠ 0)
    (hleast : target m e ≠ -1074) : 2 ^ 52 ≤ m / 2 ^ k := by
  unfold target at h hleast
  have hlog : m.log2 = 52 + k := by omega
  rw [Nat.le_div_iff_mul_le (by positivity), ← Nat.pow_add, ← hlog]
  exact Nat.log2_self_le hm

theorem shiftToTargetExponent_of_lt {m : ℕ} {e : ℤ} (hm : m < 2 ^ 53) (he : -1074 ≤ e) :
    shiftToTargetExponent Format.binary64 m e .exact = (⟨m, false, false⟩, e) := by
  have hlog : m.log2 ≤ 52 := by
    by_cases h : m = 0
    · simp [h]
    · have := (Nat.log2_lt h).2 hm
      omega
  have htarget : (Format.binary64.targetExponent (totalExponent m e) - e).toNat = 0 := by
    rw [targetExponent_eq, target]
    omega
  simp [shiftToTargetExponent, shiftToExponent, htarget, HShiftRight.hShiftRight, Nat.repeat,
    ExtendedMantissa.ofMantissaAndAccuracy]

/-- A carry into the 54th bit is shifted out. -/
theorem shiftToTargetExponent_carry {e : ℤ} (he : -1074 ≤ e) :
    shiftToTargetExponent Format.binary64 (2 ^ 53) e .exact = (⟨2 ^ 52, false, false⟩, e + 1) := by
  have htarget : Format.binary64.targetExponent (totalExponent (2 ^ 53) e) = e + 1 := by
    rw [targetExponent_eq, target, Nat.log2_two_pow]
    omega
  unfold shiftToTargetExponent
  rw [htarget]
  simp [shiftToExponent, HShiftRight.hShiftRight, Nat.repeat,
    ExtendedMantissa.ofMantissaAndAccuracy, ExtendedMantissa.shiftRightOne]

/-- Whether an unpacked number is a number, and written canonically. -/
def IsRounded : UnpackedFloat → Prop
  | .zero _ => True
  | .finite _ m e _ => IsCanonical m e
  | _ => False

/-- **What rounding makes of a number**: a canonical number of the rounded significand. -/
theorem round_spec (s : Sign) {m : ℕ} {e : ℤ} {k : ℕ} (a : Accuracy) (hk : target m e = e + k)
    (hm : m ≠ 0 ∨ target m e = -1074) :
    IsRounded (roundWithAccuracy Format.binary64 s m e a) ∧
      size (roundWithAccuracy Format.binary64 s m e a) = scaled (rounded m a k) (e + k) := by
  have hshift : shiftToTargetExponent Format.binary64 m e a =
      (ExtendedMantissa.ofMantissaAndAccuracy m a >>> k, e + k) := by
    have hdifference : (Format.binary64.targetExponent (totalExponent m e) - e).toNat = k := by
      rw [targetExponent_eq]
      omega
    rw [shiftToTargetExponent, shiftToExponent, hdifference]
  have hleast : -1074 ≤ e + k := by
    rw [← hk]
    exact le_max_right _ _
  have hbelow : rounded m a k ≤ 2 ^ 53 :=
    (rounded_le_succ m a k).trans (lt_of_target hk.le)
  have hfull : 2 ^ 52 ≤ rounded m a k ∨ e + k = -1074 := by
    by_cases h : target m e = -1074
    · exact .inr (by omega)
    · exact .inl ((le_of_target hk (hm.resolve_right h) h).trans (le_rounded m a k))
  have hround : roundWithAccuracy Format.binary64 s m e a =
      let second := shiftToTargetExponent Format.binary64 (rounded m a k) (e + k) .exact
      if h : second.1.mantissa = 0 then .zero s
      else .finite s second.1.mantissa second.2 (Nat.pos_of_ne_zero h) := by
    rw [roundWithAccuracy, hshift]
    rfl
  rw [hround]
  obtain hlt | hcarry := Nat.lt_or_eq_of_le hbelow
  · rw [shiftToTargetExponent_of_lt hlt hleast]
    dsimp only
    split
    · rename_i hzero
      exact ⟨trivial, by simp [size, scaled, hzero]⟩
    · exact ⟨⟨hlt, hleast, hfull⟩, rfl⟩
  · rw [hcarry, shiftToTargetExponent_carry hleast]
    refine ⟨⟨by norm_num, by omega, .inl le_rfl⟩, ?_⟩
    show scaled (2 ^ 52) (e + k + (1 : ℕ)) = _
    rw [scaled_add]
    norm_num

/-! ## 5.  Doubles are not crossed -/

section

variable {m M k : ℕ} {e E : ℤ}

/-- A number is below a canonical one after rounding if it is so where both have the same
exponent.  At different exponents there is nothing to round over: a number with a smaller target has
at most 53 bits there, and one with a larger target would not be below to begin with. -/
theorem scaled_rounded_le {a : Accuracy} (hk : target m e = e + k) (hM : IsCanonical M E)
    (hbelow : scaled m e < scaled (2 ^ 53) E) (h : E = e + k → rounded m a k ≤ M) :
    scaled (rounded m a k) (e + k) ≤ scaled M E := by
  obtain hlt | heq | hgt := lt_trichotomy E (e + k)
  · exfalso
    have hm : m ≠ 0 := by
      rintro rfl
      have hzero : target 0 e = max (e - 52) (-1074) := by simp [target]
      have hle := hM.le
      omega
    have hleast : target m e ≠ -1074 := by
      have := hM.le
      omega
    obtain ⟨d, hd⟩ : ∃ d : ℕ, e + k = E + 1 + d := ⟨(e + k - E - 1).toNat, by omega⟩
    refine absurd hbelow (not_lt.2 ?_)
    calc scaled (2 ^ 53) E = scaled (2 ^ 52) (E + (1 : ℕ)) := by rw [scaled_add]; norm_num
      _ ≤ scaled (2 ^ 52 * 2 ^ d) (E + (1 : ℕ)) :=
        scaled_le_scaled (Nat.le_mul_of_pos_right _ (by positivity)) _
      _ = scaled (2 ^ 52) (e + k) := by rw [← scaled_add, hd]; rfl
      _ ≤ scaled (m / 2 ^ k) (e + k) := scaled_le_scaled (le_of_target hk hm hleast) _
      _ = scaled (m / 2 ^ k * 2 ^ k) e := scaled_add _ _ _
      _ ≤ scaled m e := scaled_le_scaled (Nat.div_mul_le_self _ _) _
  · rw [← heq]
    exact scaled_le_scaled (h heq) _
  · have hfull : 2 ^ 52 ≤ M := by
      refine hM.full.resolve_right fun hleast => ?_
      have := le_max_right (m.log2 + e - 52) (-1074)
      rw [target] at hk
      omega
    obtain ⟨d, rfl⟩ : ∃ d : ℕ, E = e + k + (1 + d : ℕ) := ⟨(E - e - k - 1).toNat, by omega⟩
    calc scaled (rounded m a k) (e + k) ≤ scaled (2 ^ 53) (e + k) :=
        scaled_le_scaled ((rounded_le_succ m a k).trans (lt_of_target hk.le)) _
      _ ≤ scaled (M * 2 ^ (1 + d)) (e + k) := by
        refine scaled_le_scaled ?_ _
        calc 2 ^ 53 = 2 ^ 52 * 2 ^ 1 := by norm_num
          _ ≤ M * 2 ^ (1 + d) := Nat.mul_le_mul hfull (Nat.pow_le_pow_right (by omega) (by omega))
      _ = scaled M (e + k + (1 + d : ℕ)) := (scaled_add _ _ _).symm

variable (s : Sign)

/-- **Rounding does not pass a double upwards.**  What the accuracy says of the number is not
needed: less than one is missing from the significand. -/
theorem size_round_le (a : Accuracy) (hk : target m e = e + k) (hm : m ≠ 0 ∨ target m e = -1074)
    (hM : IsCanonical M E) (h : scaled (m + 1) e ≤ scaled M E) :
    size (roundWithAccuracy Format.binary64 s m e a) ≤ scaled M E := by
  rw [(round_spec s a hk hm).2]
  refine scaled_rounded_le hk hM ?_ ?_
  · calc scaled m e < scaled (m + 1) e := scaled_lt_scaled_iff.2 (Nat.lt_succ_self m)
      _ ≤ scaled M E := h
      _ ≤ scaled (2 ^ 53) E := scaled_le_scaled hM.lt.le _
  · rintro rfl
    rw [scaled_add, scaled_le_scaled_iff] at h
    exact rounded_le_of_lt a h

/-- **Rounding to nearest**: an exact number that is less than half a unit above a double is not
rounded above it. -/
theorem size_round_le_of_half (hk : target m e = e + k) (hm : m ≠ 0 ∨ target m e = -1074)
    (hM : IsCanonical M E) (h : scaled (2 * m) e < scaled (2 * M + 1) E) :
    size (roundWithAccuracy Format.binary64 s m e .exact) ≤ scaled M E := by
  rw [(round_spec s .exact hk hm).2]
  refine scaled_rounded_le hk hM ?_ ?_
  · have hlt := hM.lt
    have hdouble : scaled (2 * m) e < scaled (2 * 2 ^ 53) E :=
      h.trans_le (scaled_le_scaled (by omega) _)
    simp only [scaled] at hdouble ⊢
    push_cast at hdouble ⊢
    linarith
  · rintro rfl
    rw [scaled_add, scaled_lt_scaled_iff] at h
    exact rounded_le_of_half h

/-- **Rounding does not pass a double downwards.** -/
theorem le_size_round (a : Accuracy) (hk : target m e = e + k) (hm : m ≠ 0 ∨ target m e = -1074)
    (hM : IsCanonical M E) (h : scaled M E ≤ scaled m e) :
    scaled M E ≤ size (roundWithAccuracy Format.binary64 s m e a) := by
  rw [(round_spec s a hk hm).2]
  obtain hle | hlt := le_or_gt (e + k) E
  · obtain ⟨d, rfl⟩ : ∃ d : ℕ, E = e + k + d := ⟨(E - e - k).toNat, by omega⟩
    rw [scaled_add, scaled_add, scaled_le_scaled_iff] at h
    rw [scaled_add]
    refine scaled_le_scaled (le_trans ?_ (le_rounded m a k)) _
    exact (Nat.le_div_iff_mul_le (by positivity)).2 h
  · have hleast : target m e ≠ -1074 := by
      have := hM.le
      omega
    obtain ⟨d, hd⟩ : ∃ d : ℕ, e + k = E + (1 + d : ℕ) := ⟨(e + k - E - 1).toNat, by omega⟩
    calc scaled M E ≤ scaled (2 ^ 53) E := scaled_le_scaled hM.lt.le _
      _ ≤ scaled (2 ^ 52 * 2 ^ (1 + d)) E := by
        refine scaled_le_scaled ?_ _
        calc 2 ^ 53 = 2 ^ 52 * 2 ^ 1 := by norm_num
          _ ≤ 2 ^ 52 * 2 ^ (1 + d) :=
            Nat.mul_le_mul_left _ (Nat.pow_le_pow_right (by omega) (by omega))
      _ = scaled (2 ^ 52) (e + k) := by rw [hd, scaled_add]
      _ ≤ scaled (rounded m a k) (e + k) :=
        scaled_le_scaled ((le_of_target hk (hm.resolve_right hleast) hleast).trans
          (le_rounded m a k)) _

end

/-! ## 6.  Packing -/

/-- The greatest double. -/
def greatest : ℚ := scaled (2 ^ 53 - 1) 971

/-- The exponent of a canonical number that is not above all doubles is that of a double. -/
theorem exponent_le_of_scaled_le {m : ℕ} {e : ℤ} (h : IsCanonical m e)
    (hle : scaled m e ≤ greatest) : e ≤ 971 := by
  by_contra hlt
  obtain ⟨d, rfl⟩ : ∃ d : ℕ, e = 971 + (1 + d : ℕ) := ⟨(e - 972).toNat, by omega⟩
  have hfull : 2 ^ 52 ≤ m := h.full.resolve_right (by omega)
  rw [greatest, scaled_add, scaled_le_scaled_iff] at hle
  have hbig : 2 ^ 52 * 2 ^ 1 ≤ m * 2 ^ (1 + d) :=
    Nat.mul_le_mul hfull (Nat.pow_le_pow_right (by omega) (by omega))
  omega

theorem ofBitVec_toBitVec (s : Sign) : Sign.ofBitVec s.toBitVec = s := by
  cases s <;> rfl

theorem toNat_one_append (f : BitVec 52) : (1#1 ++ f).toNat = 2 ^ 52 + f.toNat := by
  rw [BitVec.toNat_append, ← Nat.shiftLeft_add_eq_or_of_lt f.isLt]
  rfl

/-- A number with 53 bits is packed without the first of them. -/
theorem unpack_normal (s : Sign) {n f : ℕ} (hn : n ≠ 0) (hn' : n < 2047) (hf : f < 2 ^ 52) :
    UnpackedFloat.unpack Format.binary64
      (packComponents Format.binary64 s (BitVec.ofNat 11 n) (BitVec.ofNat 52 f)) =
      .finite s (2 ^ 52 + f) (n - 1075) (by omega) := by
  have hexponent : (BitVec.ofNat 11 n).toNat = n := by
    rw [BitVec.toNat_ofNat]
    exact Nat.mod_eq_of_lt (by omega)
  have hones : BitVec.ofNat 11 n ≠ -1#11 := by
    intro h
    have := congrArg BitVec.toNat h
    rw [hexponent] at this
    exact absurd this (by simp; omega)
  have hzero : BitVec.ofNat 11 n ≠ 0#11 := by
    intro h
    have := congrArg BitVec.toNat h
    rw [hexponent] at this
    exact absurd this (by simp; omega)
  have hmantissa : (BitVec.ofNat 52 f).toNat = f := by
    rw [BitVec.toNat_ofNat]
    exact Nat.mod_eq_of_lt hf
  unfold UnpackedFloat.unpack
  simp only [unpackExponent_packComponents, unpackMantissa_packComponents,
    unpackSign_packComponents, ofBitVec_toBitVec, hones, hzero, if_false, toNat_one_append,
    hmantissa, hexponent]
  congr 1

theorem unpack_subnormal (s : Sign) {f : ℕ} (hpos : 0 < f) (hf : f < 2 ^ 52) :
    UnpackedFloat.unpack Format.binary64
      (packComponents Format.binary64 s 0#11 (BitVec.ofNat 52 f)) =
      .finite s f (-1074) hpos := by
  have hmantissa : (BitVec.ofNat 52 f).toNat = f := by
    rw [BitVec.toNat_ofNat]
    exact Nat.mod_eq_of_lt hf
  have hzero : BitVec.ofNat 52 f ≠ 0#52 := by
    intro h
    have := congrArg BitVec.toNat h
    rw [hmantissa] at this
    exact absurd this (by simp; omega)
  have hones : (0#11 : BitVec 11) ≠ -1#11 := by decide
  unfold UnpackedFloat.unpack
  simp only [unpackExponent_packComponents, unpackMantissa_packComponents,
    unpackSign_packComponents, ofBitVec_toBitVec, hones, hzero, if_false, if_true, dite_false,
    hmantissa]
  rfl

/-- **A canonical number is unpacked as it was packed**, if its exponent is that of a double. -/
theorem unpack_pack {m : ℕ} {e : ℤ} (s : Sign) (hpos : 0 < m) (h : IsCanonical m e)
    (he : e ≤ 971) :
    (Float.Model.pack (.finite s m e hpos)).unpack = .finite s m e hpos := by
  show UnpackedFloat.unpack Format.binary64
    (UnpackedFloat.pack Format.binary64 (.finite s m e hpos)) = _
  have hbias : e + (Format.binary64.exponentBias : ℤ) + (52 : ℕ) = e + 1075 := by
    simp only [Format.exponentBias]
    norm_num
    omega
  obtain ⟨hlt, hle, hfull⟩ := h
  rw [UnpackedFloat.pack]
  simp only [hbias]
  rw [if_neg (by omega)]
  by_cases hnormal : 2 ^ 52 ≤ m
  · obtain ⟨f, rfl⟩ : ∃ f, m = 2 ^ 52 + f := ⟨m - 2 ^ 52, by omega⟩
    obtain ⟨n, rfl⟩ : ∃ n : ℕ, e = n - 1075 := ⟨(e + 1075).toNat, by omega⟩
    have hlog : (2 ^ 52 + f).log2 = 52 := (Nat.log2_eq_iff (by omega)).2 ⟨hnormal, hlt⟩
    have hn : ((n : ℤ) - 1075 + 1075).toNat = n := by omega
    have hmantissa : BitVec.ofNat 52 (2 ^ 52 + f) = BitVec.ofNat 52 f := by
      apply BitVec.eq_of_toNat_eq
      rw [BitVec.toNat_ofNat, BitVec.toNat_ofNat, Nat.add_mod_left]
    rw [if_pos (by rw [hlog]; rfl), hn]
    exact (congrArg _ (congrArg _ hmantissa)).trans
      (unpack_normal s (by omega) (by omega) (by omega))
  · obtain rfl : e = -1074 := hfull.resolve_left hnormal
    have hlog : m.log2 < 52 := (Nat.log2_lt (by omega)).2 (by omega)
    rw [if_neg (by simp only [Format.mantissaBits]; omega)]
    exact unpack_subnormal s hpos (by omega)

theorem unpack_pack_overflow {m : ℕ} {e : ℤ} (s : Sign) (hpos : 0 < m) (he : 971 < e) :
    (Float.Model.pack (.finite s m e hpos)).unpack = .infinity s := by
  show UnpackedFloat.unpack Format.binary64
    (UnpackedFloat.pack Format.binary64 (.finite s m e hpos)) = _
  have hbias : e + (Format.binary64.exponentBias : ℤ) + (52 : ℕ) = e + 1075 := by
    simp only [Format.exponentBias]
    norm_num
    omega
  rw [UnpackedFloat.pack]
  simp only [hbias]
  rw [if_pos (by omega)]
  cases s <;> rfl

/-- The sign bit of a word. -/
def signField (x : Float.Model) : BitVec 1 := @unpackSign Format.binary64 x.toBits.toBitVec

/-- The exponent field of a word. -/
def exponentField (x : Float.Model) : BitVec 11 := @unpackExponent Format.binary64 x.toBits.toBitVec

/-- The fraction of a word. -/
def fractionField (x : Float.Model) : BitVec 52 := @unpackMantissa Format.binary64 x.toBits.toBitVec

/-- **The fields of a finite double** are its sign, and its significand and exponent: without the
first bit of the significand, or without an exponent. -/
theorem fields_of_unpack {x : Float.Model} {s : Sign} :
    (x.unpack = .zero s →
      Sign.ofBitVec (signField x) = s ∧ (exponentField x).toNat = 0 ∧
        (fractionField x).toNat = 0) ∧
    ∀ {m : ℕ} {e : ℤ} {hpos : 0 < m}, x.unpack = .finite s m e hpos →
      Sign.ofBitVec (signField x) = s ∧
      ((exponentField x).toNat = 0 ∧ (fractionField x).toNat = m ∧ e = -1074 ∨
        (exponentField x).toNat ≠ 0 ∧ (exponentField x).toNat ≠ 2047 ∧
          2 ^ 52 + (fractionField x).toNat = m ∧ e = (exponentField x).toNat - 1075) := by
  have hbias : (Format.binary64.exponentBias : ℤ) + (52 : ℕ) = 1075 := by rfl
  unfold Float.Model.unpack UnpackedFloat.unpack
  dsimp only
  rw [hbias]
  split
  · split <;> exact ⟨nofun, nofun⟩
  · rename_i hones
    split
    · rename_i hexponent
      have hfield : (exponentField x).toNat = 0 := congrArg BitVec.toNat hexponent
      split
      · rename_i hfraction
        refine ⟨fun h => ?_, nofun⟩
        cases h
        exact ⟨rfl, hfield, congrArg BitVec.toNat hfraction⟩
      · refine ⟨nofun, fun h => ?_⟩
        cases h
        refine ⟨rfl, .inl ⟨hfield, rfl, ?_⟩⟩
        show ((exponentField x).toNat : ℤ) - 1075 + 1 = -1074
        omega
    · rename_i hexponent
      refine ⟨nofun, fun h => ?_⟩
      cases h
      exact ⟨rfl, .inr ⟨fun h => hexponent (BitVec.eq_of_toNat_eq h),
        fun h => hones (BitVec.eq_of_toNat_eq h), (toNat_one_append _).symm, rfl⟩⟩

/-- **A double is canonical.** -/
theorem isCanonical_of_unpack {x : Float.Model} {s : Sign} {m : ℕ} {e : ℤ} {hpos : 0 < m}
    (h : x.unpack = .finite s m e hpos) : IsCanonical m e ∧ e ≤ 971 := by
  have hfraction := (fractionField x).isLt
  have hexponent := (exponentField x).isLt
  obtain ⟨-, ⟨-, rfl, rfl⟩ | ⟨hzero, hones, rfl, rfl⟩⟩ := fields_of_unpack.2 h
  · exact ⟨⟨by omega, by omega, .inr rfl⟩, by omega⟩
  · exact ⟨⟨by omega, by omega, .inl (by omega)⟩, by omega⟩

end Binary64
end FleetScore
