import FleetScore.Numeric.Statistics
import FleetScore.Proofs.Json.Measurements
import FleetScore.Proofs.Numeric.Finiteness

/-!
# The ranks of a percentile

A percentile reads a list at two positions that are computed in doubles from the length of the list.
Doubles are rounded, and a position that is rounded up past the last one would read nothing.

This does not happen as long as the length is a double.  A fraction of a count is not above the
count, and rounding does not lift it above a double (`magnitude_mul_ofNat_le`); a number that is not
above a natural number has an integer part that is not above it either, and neither is the next
integer (`ceilNat_le`).  The bound on the length is that of the significands, `2 ^ 53`.
-/

namespace FleetScore
namespace Binary64

open Float.Model Float.Model.UnpackedFloat

/-! ## 1.  Integers beside a double -/

theorem unpackMantissa_toNat (x : Float) :
    (@unpackMantissa Format.binary64 x.toModel.toBits.toBitVec).toNat =
      x.toBits.toNat % hiddenBit := by
  unfold unpackMantissa
  rw [BitVec.toNat_cast, BitVec.extractLsb_toNat, Nat.shiftRight_zero]
  rfl

/-- **The size of a double is that of the number it stands for.** -/
theorem magnitude_of_shape {x : Float} {negative : Bool} {m : ℕ} {q : ℤ}
    (h : shape x = .finite negative m q) : magnitude x = scaled m q := by
  have hbias : (Format.binary64.exponentBias : ℤ) + (52 : ℕ) = 1075 := by rfl
  have hmantissa := unpackMantissa_toNat x
  have hexponent := unpackExponent_toNat x
  show size (UnpackedFloat.unpack Format.binary64 x.toModel.toBits.toBitVec) = scaled m q
  unfold UnpackedFloat.unpack
  unfold shape shapeOfWord at h
  dsimp only at h ⊢
  rw [hbias]
  rw [← hmantissa, ← hexponent] at h
  split at h
  · split at h <;> cases h
  · rename_i hones
    rw [if_neg fun heq => hones (by rw [heq]; rfl)]
    split at h
    · rename_i hzero
      cases h
      rw [if_pos (BitVec.eq_of_toNat_eq hzero)]
      split
      · rename_i hnone
        rw [hnone]
        simp [size, scaled]
      · rw [hzero]
        rfl
    · rename_i hzero
      cases h
      rw [if_neg fun heq => hzero (by rw [heq]; rfl), size, toNat_one_append]
      congr 1
      simp only [leastExponent]
      omega

theorem floorScaled_le_ceilScaled (m : ℕ) (q : ℤ) : floorScaled m q ≤ ceilScaled m q := by
  unfold floorScaled ceilScaled
  split
  · exact le_rfl
  · exact Nat.div_le_div_right (Nat.le_add_right _ _)

/-- **A number that is not above an integer is rounded up to an integer that is not, either.** -/
theorem ceilScaled_le {m k : ℕ} {q : ℤ} (h : scaled m q ≤ k) : ceilScaled m q ≤ k := by
  unfold ceilScaled twoTo
  split
  · rename_i hq
    obtain ⟨d, rfl⟩ : ∃ d : ℕ, q = d := ⟨q.toNat, by omega⟩
    have hsize : ((m * 2 ^ d : ℕ) : ℚ) ≤ k := by
      rw [scaled, zpow_natCast] at h
      push_cast
      exact h
    rw [Int.toNat_natCast]
    exact_mod_cast hsize
  · rename_i hq
    obtain ⟨d, rfl⟩ : ∃ d : ℕ, q = -d := ⟨(-q).toNat, by omega⟩
    have hsize : (m : ℚ) ≤ (k * 2 ^ d : ℕ) := by
      rw [scaled, zpow_neg, zpow_natCast, ← div_eq_mul_inv, div_le_iff₀ (by positivity)] at h
      push_cast
      exact h
    have hle : m ≤ k * 2 ^ d := by exact_mod_cast hsize
    rw [neg_neg, Int.toNat_natCast]
    have hpos : 0 < 2 ^ d := by positivity
    show (m + (2 ^ d - 1)) / 2 ^ d ≤ k
    rw [← Nat.lt_succ_iff, Nat.div_lt_iff_lt_mul hpos, Nat.succ_mul]
    omega

theorem floorNat_le_ceilNat (x : Float) : floorNat x ≤ ceilNat x := by
  unfold floorNat ceilNat
  split
  · exact floorScaled_le_ceilScaled _ _
  · exact le_rfl

theorem ceilNat_le {x : Float} {k : ℕ} (h : magnitude x ≤ k) : ceilNat x ≤ k := by
  unfold ceilNat
  split
  · rename_i m q hshape
    rw [magnitude_of_shape hshape] at h
    exact ceilScaled_le h
  · exact Nat.zero_le k

/-! ## 2.  Fractions of a count -/

theorem exists_isCanonical {k : ℕ} (hlt : k < 2 ^ 53) :
    ∃ m e, IsCanonical m e ∧ scaled m e = k := by
  by_cases hzero : k = 0
  · refine ⟨0, -1074, ⟨by norm_num, le_rfl, .inr rfl⟩, ?_⟩
    rw [hzero, scaled, Nat.cast_zero, zero_mul]
  have hlog : k.log2 ≤ 52 := Nat.le_of_lt_succ ((Nat.log2_lt hzero).2 hlt)
  obtain ⟨d, hd⟩ : ∃ d, k.log2 + d = 52 := ⟨52 - k.log2, by omega⟩
  refine ⟨k * 2 ^ d, -d, ⟨?_, by omega, .inl ?_⟩, ?_⟩
  · calc k * 2 ^ d < 2 ^ (k.log2 + 1) * 2 ^ d :=
          Nat.mul_lt_mul_of_pos_right Nat.lt_log2_self (by positivity)
      _ = 2 ^ 53 := by rw [← Nat.pow_add, Nat.add_right_comm, hd]
  · calc 2 ^ 52 = 2 ^ k.log2 * 2 ^ d := by rw [← Nat.pow_add, hd]
      _ ≤ k * 2 ^ d := Nat.mul_le_mul_right _ (Nat.log2_self_le hzero)
  · rw [← scaled_add, neg_add_cancel, scaled, zpow_zero, mul_one]

/-- **A count below `2 ^ 53` is not rounded.** -/
theorem magnitude_ofNat {k : ℕ} (hlt : k < 2 ^ 53) :
    Scalar.isFinite (Scalar.ofNat k : Float) = true ∧ magnitude (Scalar.ofNat k : Float) = k := by
  by_cases hzero : k = 0
  · have hunpack : (Scalar.ofNat 0 : Float).toModel.unpack = .zero .positive := by rfl
    rw [hzero, magnitude, hunpack, Nat.cast_zero]
    exact ⟨by decide, rfl⟩
  · have hbound : (k : ℚ) ≤ 2 ^ (53 : ℤ) := by exact_mod_cast hlt.le
    obtain ⟨m, e, hcanonical, hexact⟩ := exists_isCanonical hlt
    obtain ⟨hwithin, hcount⟩ := neighbours_ofNat hzero hbound (by norm_num) (by norm_num)
    refine ⟨hwithin.isFinite, ?_⟩
    rw [magnitude, ← hexact]
    exact le_antisymm (hcount.size_le hcanonical hexact.ge) (hcount.le_size hcanonical hexact.le)

/-- **A fraction of a count is not above the count.** -/
theorem magnitude_mul_ofNat_le {c : Float} (hfinite : Scalar.isFinite c = true)
    (hone : magnitude c ≤ 1) {k : ℕ} (hlt : k < 2 ^ 53) :
    Scalar.isFinite (c * Scalar.ofNat k) = true ∧ magnitude (c * Scalar.ofNat k) ≤ k := by
  have hbound : (k : ℚ) ≤ 2 ^ (53 : ℤ) := by exact_mod_cast hlt.le
  obtain ⟨m, e, hcanonical, hexact⟩ := exists_isCanonical hlt
  obtain ⟨hcount, hsize⟩ := magnitude_ofNat hlt
  have hfraction : magnitude c * magnitude (Scalar.ofNat k : Float) ≤ k := by
    rw [hsize]
    exact mul_le_of_le_one_left (Nat.cast_nonneg k) hone
  have hproduct : Neighbours (UnpackedFloat.mul Format.binary64 c.toModel.unpack
      (Scalar.ofNat k : Float).toModel.unpack) (magnitude c * magnitude (Scalar.ofNat k : Float)) :=
    neighbours_mul (isRounded_unpack hfinite) (isRounded_unpack hcount)
  obtain ⟨hpacked, hunpack⟩ :=
    hproduct.pack (hfraction.trans hbound) (by norm_num) (by norm_num)
  refine ⟨hpacked.isFinite, ?_⟩
  show size (Float.Model.pack _).unpack ≤ k
  rw [hunpack, ← hexact]
  exact hproduct.size_le hcanonical (hfraction.trans_eq hexact.symm)

/-! ## 3.  The ranks -/

/-- **The ranks of the 95th percentile are positions of the list**, if the list has fewer than
`2 ^ 53` values. -/
theorem rank_spec {n : ℕ} (hpos : 0 < n) (hlt : n < 2 ^ 53) :
    Scalar.isFinite (Statistics.rank n 95.0 : Float) = true ∧
      floorNat (Statistics.rank n 95.0) < n ∧ ceilNat (Statistics.rank n 95.0) < n := by
  have hfactor : Scalar.isFinite (Scalar.clamp (95.0 : Float) 0.0 100.0 / 100.0) = true := by
    decide +kernel
  have hunpack : (Scalar.clamp (95.0 : Float) 0.0 100.0 / 100.0).toModel.unpack =
      .finite .positive 0x1E666666666666 (-53) (by decide) := by rfl
  have hone : magnitude (Scalar.clamp (95.0 : Float) 0.0 100.0 / 100.0) ≤ 1 := by
    rw [magnitude, hunpack]
    norm_num [size, scaled]
  obtain ⟨hfinite, hle⟩ := magnitude_mul_ofNat_le hfactor hone (k := n - 1) (by omega)
  have hceil := ceilNat_le hle
  have hfloor := floorNat_le_ceilNat (Statistics.rank n 95.0)
  refine ⟨hfinite, ?_, ?_⟩
  · exact (hfloor.trans hceil).trans_lt (by omega)
  · exact hceil.trans_lt (by omega)

end Binary64
end FleetScore
