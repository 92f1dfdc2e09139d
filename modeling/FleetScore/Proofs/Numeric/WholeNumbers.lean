import FleetScore.Proofs.Numeric.Counts

/-!
# Integers that pass through doubles

A count becomes a double by rounding, and a double becomes a count again by taking the nearest one
and cutting off what does not fit the word.  A large count does not come back.  But the count that
comes back is the same double (`ofNat_nearestUInt64`, `ofInt_nearestInt64`), so a rule that reads
doubles does not see the difference.

* A rounded count is an integer still: a double that is too large to hold every integer has no
  fraction (`exists_isNumber_ofNat`).
* An integer that a count was rounded to is not rounded again (`ofNat_rounded`).
* The bound of a word is a power of two, and so a double.  A count below it is not rounded above it,
  and if it is rounded to it, then so is the last count below it, to which the bound is cut off
  (`ofNat_capped`).

Up to `2 ^ 53` no count is rounded, and all come back (`nearestUInt64_ofNat`, `nearestInt64_ofInt`).
-/

namespace FleetScore
namespace Binary64

open Float.Model Float.Model.UnpackedFloat

/-! ## 1.  Doubles that are integers -/

section

variable {s : Sign} {q : ℚ} {x : Float} {n : ℕ}

/-- Whether numbers with a sign are below zero. -/
def isBelow : Sign → Bool
  | .negative => true
  | .positive => false

theorem negative_of_shape {negative : Bool} {m : ℕ} {e : ℤ} (h : shape x = .finite negative m e) :
    negative = isBelow (.ofBitVec (signField x.toModel)) := by
  have hbit : negative = (x.toBits.toNat / Word.signedBound % 2 == 1) := by
    unfold shape shapeOfWord at h
    dsimp only at h
    split at h
    · split at h <;> cases h
    · split at h <;> cases h <;> rfl
  have hfield : x.toBits.toNat / Word.signedBound % 2 = (signField x.toModel).toNat := by
    have hsign := (signField x.toModel).isLt
    have hexponent := (exponentField x.toModel).isLt
    have hfraction := (fractionField x.toModel).isLt
    rw [toNat_eq_fields, Word.signedBound]
    omega
  rw [hbit, hfield]
  obtain hzero | hone := BitVec.eq_zero_or_eq_one (signField x.toModel)
  · rw [hzero]
    rfl
  · rw [hone]
    rfl

theorem IsNumber.signField_eq (h : IsNumber s q x) : .ofBitVec (signField x.toModel) = s := by
  have hrounded := isRounded_unpack h.isFinite
  have hsign := h.hasSign
  cases hu : x.toModel.unpack with
  | zero s' =>
    rw [hu] at hsign
    exact (fields_of_unpack.1 hu).1.trans hsign
  | finite s' m e hpos =>
    rw [hu] at hsign
    exact (fields_of_unpack.2 hu).1.trans hsign
  | _ =>
    rw [hu] at hrounded
    cases hrounded

/-- **What a number stands for** has its sign and its distance from zero. -/
theorem IsNumber.exists_shape (h : IsNumber s q x) :
    ∃ m e, shape x = .finite (isBelow s) m e ∧ scaled m e = q := by
  obtain ⟨negative, m, e, hshape, -, -⟩ := shape_of_isFinite h.isFinite
  have hnegative : negative = isBelow s := by
    rw [negative_of_shape hshape, h.signField_eq]
  exact ⟨m, e, hnegative ▸ hshape, (magnitude_of_shape hshape).symm.trans h.magnitude_eq⟩

/-- A number that is an integer is the nearest one. -/
theorem nearestScaled_eq {m : ℕ} {e : ℤ} (h : scaled m e = n) : nearestScaled m e = n := by
  unfold nearestScaled twoTo
  split
  · obtain ⟨d, rfl⟩ : ∃ d : ℕ, e = d := ⟨e.toNat, by omega⟩
    rw [scaled, zpow_natCast] at h
    rw [Int.toNat_natCast]
    exact_mod_cast h
  · obtain ⟨d, rfl⟩ : ∃ d : ℕ, e = -d := ⟨(-e).toNat, by omega⟩
    rw [scaled, zpow_neg, zpow_natCast, ← div_eq_mul_inv, div_eq_iff (by positivity)] at h
    have hm : m = n * 2 ^ d := by exact_mod_cast h
    have hpos : 0 < 2 ^ d := by positivity
    rw [neg_neg, Int.toNat_natCast, hm]
    show (2 * (n * 2 ^ d) + 2 ^ d) / (2 * 2 ^ d) = n
    refine Nat.div_eq_of_lt_le ?_ ?_ <;> nlinarith

/-- **A number that is a count is read as it**, if it fits a word. -/
theorem IsNumber.nearestUInt64_eq (h : IsNumber .positive n x) :
    nearestUInt64 x = UInt64.ofNat (min n (Word.bound - 1)) := by
  obtain ⟨m, e, hshape, hsize⟩ := h.exists_shape
  rw [nearestUInt64, hshape, ← nearestScaled_eq hsize]
  rfl

theorem IsNumber.nearestInt64_eq (h : IsNumber .positive n x) :
    nearestInt64 x = Int64.ofNat (min n (Word.signedBound - 1)) := by
  obtain ⟨m, e, hshape, hsize⟩ := h.exists_shape
  rw [nearestInt64, hshape, ← nearestScaled_eq hsize]
  rfl

theorem IsNumber.nearestInt64_eq_neg (h : IsNumber .negative n x) :
    nearestInt64 x = Int64.ofInt (-(min n Word.signedBound : ℕ)) := by
  obtain ⟨m, e, hshape, hsize⟩ := h.exists_shape
  rw [nearestInt64, hshape, ← nearestScaled_eq hsize]
  rfl

theorem IsNumber.neg (h : IsNumber s q x) : IsNumber (-s) q (-x) := by
  have hrounded := isRounded_unpack h.isFinite
  have hsign := h.hasSign
  have hsize : size x.toModel.unpack = q := h.magnitude_eq
  have hneg : IsRounded x.toModel.unpack.neg ∧ HasSign (-s) x.toModel.unpack.neg ∧
      size x.toModel.unpack.neg = size x.toModel.unpack := by
    revert hrounded hsign
    cases x.toModel.unpack with
    | zero s' => rintro - rfl; exact ⟨trivial, rfl, rfl⟩
    | finite s' m e hpos => rintro hcanonical rfl; exact ⟨hcanonical, rfl, rfl⟩
    | _ => exact fun h => nomatch h
  obtain ⟨hrounded', hsign', hsize'⟩ := hneg
  have hle : size x.toModel.unpack.neg ≤ greatest := hsize'.trans_le (magnitude_le_greatest x)
  obtain ⟨hfinite, hmagnitude⟩ := isFinite_pack hrounded' hle
  refine ⟨hfinite, ?_, hmagnitude.trans (hsize'.trans hsize)⟩
  show HasSign (-s) (Float.Model.pack x.toModel.unpack.neg).unpack
  rwa [unpack_pack_of_size_le hrounded' hle]

end

/-! ## 2.  Rounded counts -/

section

variable {n k p : ℕ} (hp : p ≤ 1023)

include hp

theorem isNumber_magnitude_ofNat (hle : n ≤ 2 ^ p) :
    IsNumber .positive (magnitude (Scalar.ofNat n)) (Scalar.ofNat n) := by
  refine ⟨?_, (hasNoSign_ofNat n).hasSign, rfl⟩
  by_cases hzero : n = 0
  · rw [hzero]
    decide
  · have hbound : (n : ℚ) ≤ 2 ^ (p : ℤ) := by exact_mod_cast hle
    exact (neighbours_ofNat hzero hbound (by omega) (by omega)).1.isFinite

/-- **A rounded count is an integer still.** -/
theorem exists_isNumber_ofNat (hle : n ≤ 2 ^ p) :
    ∃ k : ℕ, IsNumber .positive k (Scalar.ofNat n) := by
  obtain hsmall | hlarge := Nat.lt_or_ge n (2 ^ 53)
  · exact ⟨n, isNumber_ofNat hsmall⟩
  · have hnumber := isNumber_magnitude_ofNat hp hle
    obtain ⟨hrounded, hsize⟩ := ofScientific_spec hlarge
    obtain ⟨d, hd⟩ : ∃ d : ℕ, (n.log2 : ℤ) - 52 = d := by
      have hlog : 53 ≤ n.log2 := (Nat.le_log2 (by omega)).2 hlarge
      exact ⟨n.log2 - 52, by omega⟩
    have hfinite := hnumber.isFinite
    rw [ofNat_eq_ofScientific hlarge] at hfinite hnumber ⊢
    rw [(magnitude_pack hrounded hfinite).2, hsize, hd, scaled, zpow_natCast] at hnumber
    exact ⟨rounded (n * 2 ^ 53) .exact (n.log2 + 1) * 2 ^ d, by exact_mod_cast hnumber⟩

/-- **A count that is a double is not rounded.** -/
theorem isNumber_ofNat_of_isExact (hexact : IsExact k) (hle : k ≤ 2 ^ p) :
    IsNumber .positive k (Scalar.ofNat k) := by
  by_cases hzero : k = 0
  · rw [hzero]
    exact isNumber_ofNat (by norm_num)
  · have hbound : (k : ℚ) ≤ 2 ^ (p : ℤ) := by exact_mod_cast hle
    have hnear := (neighbours_ofNat hzero hbound (by omega) (by omega)).2
    have hnumber := isNumber_magnitude_ofNat hp hle
    rwa [magnitude, hnear.size_eq hexact] at hnumber

/-- **What a count was rounded to is not rounded again.** -/
theorem ofNat_rounded (h : IsNumber .positive k (Scalar.ofNat n)) (hle : k ≤ 2 ^ p) :
    (Scalar.ofNat k : Float) = Scalar.ofNat n := by
  have hexact : IsExact k := h.magnitude_eq ▸ isExact_size (isRounded_unpack h.isFinite)
  exact (isNumber_ofNat_of_isExact hp hexact hle).eq h

theorem isNumber_two_pow : IsNumber .positive (2 ^ p : ℕ) (Scalar.ofNat (2 ^ p)) := by
  refine isNumber_ofNat_of_isExact hp ⟨2 ^ 52, p - 52, isCanonical_two_pow (by omega), ?_⟩ le_rfl
  rw [scaled_two_pow_sub, zpow_natCast, Nat.cast_pow, Nat.cast_ofNat]

omit hp in
theorem IsNumber.le_of_le {m j : ℕ} (hj : IsNumber .positive j (Scalar.ofNat m))
    (hk : IsNumber .positive k (Scalar.ofNat n)) (h : m ≤ n) : j ≤ k := by
  have hle := magnitude_ofNat_le h hk.isFinite
  rw [hj.magnitude_eq, hk.magnitude_eq] at hle
  exact_mod_cast hle

/-- **What is cut off at the bound of a word is the same double.** -/
theorem ofNat_capped (hn : n < 2 ^ p) (h : IsNumber .positive k (Scalar.ofNat n)) :
    k ≤ 2 ^ p ∧ (Scalar.ofNat (min k (2 ^ p - 1)) : Float) = Scalar.ofNat n := by
  have hle : k ≤ 2 ^ p := h.le_of_le (isNumber_two_pow hp) hn.le
  refine ⟨hle, ?_⟩
  obtain hlt | hge := Nat.lt_or_ge k (2 ^ p)
  · rw [min_eq_left (by omega), ofNat_rounded hp h hle]
  · -- The count is rounded to the bound, and the last one below the bound is not rounded lower.
    obtain ⟨j, hj⟩ := exists_isNumber_ofNat hp (n := 2 ^ p - 1) (by omega)
    have hlower : k ≤ j := h.le_of_le hj (by omega)
    have hupper : j ≤ 2 ^ p := hj.le_of_le (isNumber_two_pow hp) (by omega)
    obtain rfl : j = k := by omega
    rw [min_eq_right (by omega), hj.eq h]

end

theorem isNumber_ofNat_of_le {k : ℕ} (hle : k ≤ 2 ^ 53) :
    IsNumber .positive k (Scalar.ofNat k) := by
  obtain hlt | heq := Nat.lt_or_eq_of_le hle
  · exact isNumber_ofNat hlt
  · rw [heq]
    exact isNumber_two_pow (by norm_num)

/-! ## 3.  Words -/

/-- **The count that comes back is the same double.** -/
theorem ofNat_nearestUInt64 (n : UInt64) :
    (Scalar.ofNat (nearestUInt64 (Scalar.ofNat n.toNat)).toNat : Float) =
      Scalar.ofNat n.toNat := by
  have hn : n.toNat < 2 ^ 64 := n.toNat_lt
  obtain ⟨k, hk⟩ := exists_isNumber_ofNat (p := 64) (by norm_num) hn.le
  have hcapped := (ofNat_capped (by norm_num) hn hk).2
  have hword : (UInt64.ofNat (min k (Word.bound - 1))).toNat = min k (2 ^ 64 - 1) := by
    rw [UInt64.toNat_ofNat', Word.bound]
    omega
  rw [hk.nearestUInt64_eq, hword, hcapped]

/-- **A count up to `2 ^ 53` comes back.** -/
theorem nearestUInt64_ofNat {n : UInt64} (hle : n.toNat ≤ 2 ^ 53) :
    nearestUInt64 (Scalar.ofNat n.toNat) = n := by
  have hmin : min n.toNat (Word.bound - 1) = n.toNat := by
    rw [Word.bound]
    omega
  rw [(isNumber_ofNat_of_le hle).nearestUInt64_eq, hmin, UInt64.ofNat_toNat]

theorem ofInt_neg {n : ℕ} (hn : n ≠ 0) : (Scalar.ofInt (-n : ℤ) : Float) = -Scalar.ofNat n := by
  obtain ⟨m, rfl⟩ := Nat.exists_eq_succ_of_ne_zero hn
  rfl

theorem toInt_cases (z : Int64) :
    (∃ n : ℕ, n < 2 ^ 63 ∧ z.toInt = n) ∨ ∃ n : ℕ, n ≠ 0 ∧ n ≤ 2 ^ 63 ∧ z.toInt = -n := by
  have hlow : -2 ^ 63 ≤ z.toInt := z.le_toInt
  have hhigh : z.toInt < 2 ^ 63 := z.toInt_lt
  obtain hnonneg | hneg := le_or_gt 0 z.toInt
  · exact .inl ⟨z.toInt.toNat, by omega, by omega⟩
  · exact .inr ⟨z.toInt.natAbs, by omega, by omega, by omega⟩

/-- **The integer that comes back is the same double.** -/
theorem ofInt_nearestInt64 (z : Int64) :
    (Scalar.ofInt (nearestInt64 (Scalar.ofInt z.toInt)).toInt : Float) =
      Scalar.ofInt z.toInt := by
  obtain ⟨n, hn, hz⟩ | ⟨n, hne, hn, hz⟩ := toInt_cases z
  · obtain ⟨k, hk⟩ := exists_isNumber_ofNat (p := 63) (by norm_num) hn.le
    have hcapped := (ofNat_capped (by norm_num) hn hk).2
    have hword : (Int64.ofNat (min k (Word.signedBound - 1))).toInt = (min k (2 ^ 63 - 1) : ℕ) := by
      rw [Word.signedBound, Int64.toInt_ofNat_of_lt (by omega)]
      rfl
    rw [hz]
    change (Scalar.ofInt (nearestInt64 (Scalar.ofNat n)).toInt : Float) = Scalar.ofNat n
    rw [hk.nearestInt64_eq, hword]
    exact hcapped
  · obtain ⟨k, hk⟩ := exists_isNumber_ofNat (p := 63) (by norm_num) hn
    have hle : k ≤ 2 ^ 63 := hk.le_of_le (isNumber_two_pow (by norm_num)) hn
    have hpos : 1 ≤ k :=
      (isNumber_ofNat (k := 1) (by norm_num)).le_of_le hk (Nat.one_le_iff_ne_zero.2 hne)
    have hword : (Int64.ofInt (-(min k Word.signedBound : ℕ))).toInt = -(k : ℤ) := by
      rw [Word.signedBound, Int64.toInt_ofInt_of_le (by omega) (by omega)]
      omega
    rw [hz, ofInt_neg hne, hk.neg.nearestInt64_eq_neg, hword, ofInt_neg (by omega),
      ofNat_rounded (by norm_num) hk hle]

/-- **An integer up to `2 ^ 53` comes back.** -/
theorem nearestInt64_ofInt {z : Int64} (hle : |z.toInt| ≤ 2 ^ 53) :
    nearestInt64 (Scalar.ofInt z.toInt) = z := by
  obtain ⟨hlow, hhigh⟩ := abs_le.1 hle
  obtain ⟨n, -, hz⟩ | ⟨n, hne, -, hz⟩ := toInt_cases z
  · have hnumber : IsNumber .positive n (Scalar.ofNat n) := isNumber_ofNat_of_le (by omega)
    have hmin : min n (Word.signedBound - 1) = n := by
      rw [Word.signedBound]
      omega
    rw [hz]
    change nearestInt64 (Scalar.ofNat n) = z
    rw [hnumber.nearestInt64_eq, hmin]
    exact (congrArg Int64.ofInt hz.symm).trans z.ofInt_toInt
  · have hnumber : IsNumber .positive n (Scalar.ofNat n) := isNumber_ofNat_of_le (by omega)
    have hmin : min n Word.signedBound = n := by
      rw [Word.signedBound]
      omega
    rw [hz, ofInt_neg hne, hnumber.neg.nearestInt64_eq_neg, hmin]
    exact (congrArg Int64.ofInt hz.symm).trans z.ofInt_toInt

end Binary64
end FleetScore
