import FleetScore.Proofs.Numeric.Sizes

/-!
# Which doubles are finite

Infinities and not-a-numbers do not go away again.  A sum, a difference or a product is finite only
if both its sides are, and a quotient only if what is divided is.  So a finite result at the end of
a long computation vouches for nearly everything that went into it; only a divisor may have been
infinite, and then the quotient is zero.

The other way round, bounded numbers give finite results.  Here are the bounds for what an
evaluation is made of: squares, sums of any number of terms, counts, averages and roots.

## Sums of any length

A long sum of bounded terms is not bounded by their number times the bound, as rounding may add to
each step.  But a term of at most `2 ^ 513` is less than half a unit of a sum of `2 ^ 600`.  A sum
that has come that far does not move any more, so no sum of such terms is larger, however many there
are (`IsWithin.sum`).
-/

namespace FleetScore
namespace Binary64

open Float.Model Float.Model.UnpackedFloat

/-! ## 1.  What is not finite stays so -/

theorem isFinite_of_pack {u : UnpackedFloat}
    (h : Scalar.isFinite (Float.ofModel (.pack u)) = true) : u.isFinite = true := by
  have hunpack : (Float.Model.pack u).unpack.isFinite = true := h
  cases u with
  | notANumber => exact absurd hunpack (by decide)
  | infinity s => cases s <;> exact absurd hunpack (by decide)
  | zero s => rfl
  | finite s m e hpos => rfl

section

variable {x y : Float}

/-- **Both sides of a finite sum are finite.** -/
theorem isFinite_add (h : Scalar.isFinite (x + y) = true) :
    Scalar.isFinite x = true ∧ Scalar.isFinite y = true := by
  have hsum := isFinite_of_pack (u := UnpackedFloat.add _ x.toModel.unpack y.toModel.unpack) h
  show x.toModel.unpack.isFinite = true ∧ y.toModel.unpack.isFinite = true
  revert hsum
  cases x.toModel.unpack <;> cases y.toModel.unpack
  case infinity.infinity s s' => cases s <;> cases s' <;> exact fun h => nomatch h
  all_goals
    first
    | exact fun _ => ⟨rfl, rfl⟩
    | exact fun h => nomatch h

/-- **Both sides of a finite difference are finite.** -/
theorem isFinite_sub (h : Scalar.isFinite (x - y) = true) :
    Scalar.isFinite x = true ∧ Scalar.isFinite y = true := by
  have hsub := isFinite_of_pack (u := UnpackedFloat.sub _ x.toModel.unpack y.toModel.unpack) h
  show x.toModel.unpack.isFinite = true ∧ y.toModel.unpack.isFinite = true
  revert hsub
  cases x.toModel.unpack <;> cases y.toModel.unpack
  case infinity.infinity s s' => cases s <;> cases s' <;> exact fun h => nomatch h
  all_goals
    first
    | exact fun _ => ⟨rfl, rfl⟩
    | exact fun h => nomatch h

/-- **Both sides of a finite product are finite**, for zero times an infinity is not a number. -/
theorem isFinite_mul (h : Scalar.isFinite (x * y) = true) :
    Scalar.isFinite x = true ∧ Scalar.isFinite y = true := by
  have hproduct := isFinite_of_pack (u := UnpackedFloat.mul _ x.toModel.unpack y.toModel.unpack) h
  show x.toModel.unpack.isFinite = true ∧ y.toModel.unpack.isFinite = true
  revert hproduct
  cases x.toModel.unpack <;> cases y.toModel.unpack <;>
    first
    | exact fun _ => ⟨rfl, rfl⟩
    | exact fun h => nomatch h

/-- **What is divided to a finite quotient is finite.** -/
theorem isFinite_div (h : Scalar.isFinite (x / y) = true) : Scalar.isFinite x = true := by
  have hquotient := isFinite_of_pack (u := UnpackedFloat.div _ x.toModel.unpack y.toModel.unpack) h
  show x.toModel.unpack.isFinite = true
  revert hquotient
  cases x.toModel.unpack <;> cases y.toModel.unpack <;>
    first
    | exact fun _ => rfl
    | exact fun h => nomatch h

end

theorem isFinite_sum {xs : List Float} (h : Scalar.isFinite (Scalar.sum xs) = true) :
    ∀ x ∈ xs, Scalar.isFinite x = true := by
  have hfrom : ∀ a : Float, Scalar.isFinite (xs.foldl (· + ·) a) = true →
      Scalar.isFinite a = true ∧ ∀ x ∈ xs, Scalar.isFinite x = true := by
    clear h
    induction xs with
    | nil => exact fun a ha => ⟨ha, by simp⟩
    | cons x xs ih =>
      intro a ha
      obtain ⟨hsum, hxs⟩ := ih _ ha
      obtain ⟨ha, hx⟩ := isFinite_add hsum
      exact ⟨ha, List.forall_mem_cons.2 ⟨hx, hxs⟩⟩
  exact (hfrom _ h).2

/-! ## 2.  Bounded results are finite -/

/-- Whether a double is finite and at most `2 ^ p` away from zero. -/
structure IsWithin (p : ℤ) (x : Float) : Prop where
  isFinite : Scalar.isFinite x = true
  magnitude_le : magnitude x ≤ 2 ^ p

variable {p q : ℤ} {x y : Float}

theorem IsWithin.mono (h : IsWithin p x) (hpq : p ≤ q) : IsWithin q x :=
  ⟨h.isFinite, h.magnitude_le.trans (zpow_le_zpow_right₀ (by norm_num) hpq)⟩

theorem IsWithin.of_pack {u : UnpackedFloat} (h : IsRounded u) (hgreatest : size u ≤ greatest)
    (hle : size u ≤ 2 ^ p) : IsWithin p (Float.ofModel (.pack u)) := by
  obtain ⟨hfinite, hmagnitude⟩ := isFinite_pack h hgreatest
  exact ⟨hfinite, by rwa [hmagnitude]⟩

theorem two_pow_le_greatest (hp : -1022 ≤ p) (hp' : p ≤ 1023) : (2 : ℚ) ^ p ≤ greatest := by
  rw [← scaled_two_pow_sub]
  exact scaled_le_greatest (isCanonical_two_pow hp) (by omega)

/-- What is rounded to at most a power of two is a double, if the power is. -/
theorem isWithin_pack {u : UnpackedFloat} (h : IsRounded u) (hle : size u ≤ 2 ^ p)
    (hp : -1022 ≤ p) (hp' : p ≤ 1023) : IsWithin p (Float.ofModel (.pack u)) :=
  .of_pack h (hle.trans (two_pow_le_greatest hp hp')) hle

theorem Neighbours.pack {u : UnpackedFloat} {v : ℚ} (h : Neighbours u v) (hle : v ≤ 2 ^ p)
    (hp : -1022 ≤ p) (hp' : p ≤ 1023) :
    IsWithin p (Float.ofModel (.pack u)) ∧ (Float.Model.pack u).unpack = u := by
  have hsize : size u ≤ 2 ^ p := by
    rw [← scaled_two_pow_sub] at hle ⊢
    exact h.size_le (isCanonical_two_pow hp) hle
  exact ⟨isWithin_pack h.isRounded hsize hp hp',
    unpack_pack_of_size_le h.isRounded (hsize.trans (two_pow_le_greatest hp hp'))⟩

/-- **A term less than half a unit of a power of two does not carry a sum beyond it.** -/
theorem IsWithin.add (hx : IsWithin (p + 54) x) (hy : IsWithin p y) (hp : -1076 ≤ p)
    (hp' : p ≤ 969) : IsWithin (p + 54) (x + y) := by
  have hunit : (2 : ℚ) ^ (p + 2) = 4 * 2 ^ p := by
    rw [zpow_add₀ (by norm_num)]
    norm_num
    ring
  have hhalf : 2 * (size x.toModel.unpack + size y.toModel.unpack) <
      scaled (2 * 2 ^ 52 + 1) (p + 54 - 52) := by
    have hpos : (0 : ℚ) < 2 ^ p := by positivity
    have hxle := hx.magnitude_le
    have hyle := hy.magnitude_le
    rw [← scaled_two_pow_sub] at hxle
    simp only [magnitude, scaled, add_sub_assoc] at hxle hyle ⊢
    norm_num [hunit] at hxle ⊢
    linarith
  have hsum := size_add_le (isCanonical_two_pow (by omega))
    (by rw [scaled_two_pow_sub]; exact hx.magnitude_le)
    (by rw [scaled_two_pow_sub]; exact (hy.mono (by omega)).magnitude_le) hhalf
  rw [scaled_two_pow_sub] at hsum
  exact isWithin_pack (isRounded_add (isRounded_unpack hx.isFinite) (isRounded_unpack hy.isFinite))
    hsum (by omega) (by omega)

/-- **Sums of any length**: terms of at most `2 ^ p` have no sum above `2 ^ (p + 54)`. -/
theorem IsWithin.sum {xs : List Float} (h : ∀ x ∈ xs, IsWithin p x) (hp : -1076 ≤ p)
    (hp' : p ≤ 969) : IsWithin (p + 54) (Scalar.sum xs) := by
  have hfrom : ∀ a : Float, IsWithin (p + 54) a → IsWithin (p + 54) (xs.foldl (· + ·) a) := by
    induction xs with
    | nil => exact fun a ha => ha
    | cons x xs ih =>
      obtain ⟨hx, hxs⟩ := List.forall_mem_cons.1 h
      exact fun a ha => ih hxs _ (ha.add hx hp hp')
  refine hfrom _ ⟨by decide, ?_⟩
  have hzero : (-0.0 : Float).toModel.unpack = .zero .negative := by rfl
  show size (-0.0 : Float).toModel.unpack ≤ _
  rw [hzero]
  simp only [size]
  positivity

theorem IsWithin.abs (h : IsWithin p x) : IsWithin p (Scalar.abs x) := by
  have hrounded := isRounded_unpack h.isFinite
  have hle := h.magnitude_le
  unfold magnitude at hle
  show IsWithin p (Float.ofModel (.pack x.toModel.unpack.abs))
  cases hx : x.toModel.unpack with
  | notANumber => rw [hx] at hrounded; cases hrounded
  | infinity s => rw [hx] at hrounded; cases hrounded
  | zero s =>
    rw [hx] at hle
    exact .of_pack (u := .zero .positive) trivial (scaled_nonneg _ _) hle
  | finite s m e hpos =>
    rw [hx] at hle
    obtain ⟨hcanonical, he⟩ := isCanonical_of_unpack hx
    exact .of_pack (u := .finite .positive m e hpos) hcanonical (scaled_le_greatest hcanonical he)
      hle

theorem isWithin_zero (p : ℤ) : IsWithin p (0.0 : Float) := by
  have hzero : (0.0 : Float).toModel.unpack = .zero .positive := by rfl
  refine ⟨by decide, ?_⟩
  unfold magnitude
  rw [hzero]
  simp only [size]
  positivity

/-- **A product is bounded by the product of the bounds.** -/
theorem IsWithin.mul (hx : IsWithin p x) (hy : IsWithin q y) (hpq : -1022 ≤ p + q)
    (hpq' : p + q ≤ 1023) : IsWithin (p + q) (x * y) := by
  have hproduct := neighbours_mul (isRounded_unpack hx.isFinite) (isRounded_unpack hy.isFinite)
  have hexact : size x.toModel.unpack * size y.toModel.unpack ≤ 2 ^ (p + q) :=
    calc size x.toModel.unpack * size y.toModel.unpack ≤ 2 ^ p * 2 ^ q :=
          mul_le_mul hx.magnitude_le hy.magnitude_le (size_nonneg _) (by positivity)
      _ = 2 ^ (p + q) := (zpow_add₀ (by norm_num) p q).symm
  exact (hproduct.pack hexact hpq hpq').1

/-- **What has a finite square is not large.** -/
theorem isWithin_of_square (h : Scalar.isFinite (x * x) = true) : IsWithin 512 x := by
  have hx := (isFinite_mul h).1
  refine ⟨hx, ?_⟩
  by_contra hlt
  rw [not_le] at hlt
  have hrounded := isRounded_unpack hx
  have hproduct := neighbours_mul hrounded hrounded
  have hsquare : scaled (2 ^ 52) (1024 - 52) ≤ size x.toModel.unpack * size x.toModel.unpack :=
    calc scaled (2 ^ 52) (1024 - 52) = 2 ^ (512 : ℤ) * 2 ^ (512 : ℤ) := by
          rw [scaled_two_pow_sub, ← zpow_add₀ (by norm_num)]
          norm_num
      _ ≤ size x.toModel.unpack * size x.toModel.unpack :=
          mul_le_mul hlt.le hlt.le (by positivity) (size_nonneg _)
  have hlarge := hproduct.le_size (isCanonical_two_pow (by norm_num)) hsquare
  have hgreatest : greatest < scaled (2 ^ 52) (1024 - 52) := by
    rw [show (1024 - 52 : ℤ) = 971 + (1 : ℕ) by norm_num, scaled_add, greatest,
      scaled_lt_scaled_iff]
    norm_num
  have hnot := not_isFinite_pack hproduct.isRounded (hgreatest.trans_le hlarge)
  exact absurd h (by
    show Scalar.isFinite (Float.ofModel (.pack _)) ≠ true
    rw [hnot]
    exact Bool.false_ne_true)

/-! ## 3.  Counts -/

theorem unpack_one : (Float.ofBits 0x3FF0000000000000).toModel.unpack =
    .finite .positive (2 ^ 52) (-52) (by decide) := by
  rfl

/-- A count times a power of ten is rounded once, with 53 more places than it has. -/
theorem ofScientific_eq_round {n : ℕ} (hn : n ≠ 0) {k : ℕ} (hk : k ≤ 2 ^ 11) :
    UnpackedFloat.ofScientific Format.binary64 n k =
      roundWithAccuracy Format.binary64 .positive (n * 10 ^ k * 2 ^ 53) (-53) .exact := by
  have hshift : (n <<< 53) * 10 ^ (k : ℤ).toNat = n * 10 ^ k * 2 ^ 53 := by
    rw [Nat.shiftLeft_eq, Int.toNat_natCast]
    ring
  have hbits : (2 : ℤ) ^ Format.binary64.exponentBits = 2 ^ 11 := rfl
  have hrange : (k : ℤ) ≤ 2 ^ 11 := by exact_mod_cast hk
  rw [UnpackedFloat.ofScientific, dif_neg hn, if_neg (by rw [hbits]; omega),
    if_neg (by rw [hbits]; omega), if_pos (Int.natCast_nonneg k), ← hshift]
  rfl

theorem target_mul_two_pow {n : ℕ} (hn : n ≠ 0) : target (n * 2 ^ 53) (-53) = n.log2 - 52 := by
  rw [target, log2_mul_two_pow hn]
  push_cast
  omega

theorem neighbours_ofScientific {n : ℕ} (hn : n ≠ 0) {k : ℕ} (hk : k ≤ 2 ^ 11) :
    Neighbours (UnpackedFloat.ofScientific Format.binary64 n k) (n * 10 ^ k) := by
  have hnonzero : n * 10 ^ k ≠ 0 := by positivity
  have hexact : scaled (n * 10 ^ k * 2 ^ 53) (-53) = n * 10 ^ k := by
    rw [← scaled_add]
    simp [scaled]
  have hneighbour := neighbours_round .positive (m := n * 10 ^ k * 2 ^ 53) (e := -53)
    (by positivity) (by rw [target_mul_two_pow hnonzero]; omega)
  rwa [hexact, ← ofScientific_eq_round hn hk] at hneighbour

theorem ofNat_eq_ofScientific {n : ℕ} (hle : 2 ^ 53 ≤ n) :
    (Scalar.ofNat n : Float) =
      Float.ofModel (.pack (UnpackedFloat.ofScientific Format.binary64 n (0 : ℕ))) := by
  show Float.ofScientific n false 0 = _
  rw [Float.ofScientific, dif_neg (by omega)]
  rfl

/-- **A count becomes a double by rounding**: what is packed is a neighbour of the count, however large
it is. -/
theorem exists_neighbours_ofNat {n : ℕ} (hn : n ≠ 0) :
    ∃ u, (Scalar.ofNat n : Float) = Float.ofModel (.pack u) ∧ Neighbours u n := by
  obtain hlt | hle := Nat.lt_or_ge n (2 ^ 53)
  · -- The count is converted exactly as it is written, and then multiplied by one.
    have hcount : n.toUInt64.toNat = n := by
      rw [Nat.toUInt64, UInt64.toNat_ofNat']
      omega
    have hbound : (n : ℚ) ≤ 2 ^ (53 : ℤ) := by exact_mod_cast hlt.le
    have hnormalized := neighbours_normalize n 0 .positive
    rw [Int.natAbs_natCast, scaled, zpow_zero, mul_one] at hnormalized
    have hfactor : n.toUInt64.toFloat.toModel.unpack =
        UnpackedFloat.normalize Format.binary64 n 0 .positive := by
      show (Float.Model.pack (UnpackedFloat.normalize _ (n.toUInt64.toNat : ℕ) 0 _)).unpack = _
      rw [hcount]
      exact (hnormalized.pack hbound (by norm_num) (by norm_num)).2
    rw [← hfactor] at hnormalized
    have hone : IsRounded (Float.ofBits 0x3FF0000000000000).toModel.unpack := by
      rw [unpack_one]
      exact ⟨by norm_num, by norm_num, .inl le_rfl⟩
    have hproduct := neighbours_mul hnormalized.isRounded hone
    have hsize : size (Float.ofBits 0x3FF0000000000000).toModel.unpack = 1 := by
      rw [unpack_one]
      norm_num [size, scaled]
    rw [hsize, mul_one] at hproduct
    refine ⟨_, ?_, hnormalized.trans hproduct⟩
    show Float.ofScientific n false 0 = _
    rw [Float.ofScientific, dif_pos ⟨hlt, by norm_num⟩]
    rfl
  · have hneighbour := neighbours_ofScientific hn (Nat.zero_le (2 ^ 11))
    rw [pow_zero, mul_one] at hneighbour
    exact ⟨_, ofNat_eq_ofScientific hle, hneighbour⟩

/-- **A count is rounded to a neighbour**, and is finite if it is at most a power of two that is. -/
theorem neighbours_ofNat {n : ℕ} (hn : n ≠ 0) (hle : (n : ℚ) ≤ 2 ^ p) (hp : -1022 ≤ p)
    (hp' : p ≤ 1023) :
    IsWithin p (Scalar.ofNat n : Float) ∧
      Neighbours (Scalar.ofNat n : Float).toModel.unpack n := by
  obtain ⟨u, hcount, hu⟩ := exists_neighbours_ofNat hn
  obtain ⟨hwithin, hunpack⟩ := hu.pack hle hp hp'
  rw [hcount]
  exact ⟨hwithin, hunpack.symm ▸ hu⟩

theorem one_le_ofNat {n : ℕ} (hn : n ≠ 0) (hle : (n : ℚ) ≤ 2 ^ p) (hp : -1022 ≤ p)
    (hp' : p ≤ 1023) : 1 ≤ magnitude (Scalar.ofNat n : Float) := by
  have hone : (1 : ℚ) = scaled (2 ^ 52) (0 - 52) := by rw [scaled_two_pow_sub, zpow_zero]
  have hcast : (1 : ℚ) ≤ n := by exact_mod_cast Nat.one_le_iff_ne_zero.2 hn
  rw [hone] at hcast ⊢
  exact (neighbours_ofNat hn hle hp hp').2.le_size (isCanonical_two_pow (by norm_num)) hcast

/-! ## 4.  Quotients and roots -/

/-- **A bounded number divided by one or more is bounded.** -/
theorem IsWithin.div (hx : IsWithin p x) (hy : Scalar.isFinite y = true)
    (hone : 1 ≤ magnitude y) (hp : -1022 ≤ p) (hp' : p ≤ 1023) : IsWithin p (x / y) := by
  have hquotient := neighbours_div (isRounded_unpack hx.isFinite) (isRounded_unpack hy)
    (zero_lt_one.trans_le hone).ne'
  exact (hquotient.pack ((div_le_self (size_nonneg _) hone).trans hx.magnitude_le) hp hp').1

/-- **The root of a bounded number without a sign is bounded.** -/
theorem IsWithin.sqrt (hx : IsWithin (2 * p) x) (hsign : HasNoSign x) (hp : -1023 ≤ p)
    (hp' : p ≤ 1022) : IsWithin (p + 1) (Scalar.sqrt x) := by
  have hroot := sqrt_spec (isRounded_unpack hx.isFinite) hsign hp hx.magnitude_le
  exact isWithin_pack hroot.1 hroot.2 (by omega) (by omega)

theorem isWithin_of_isFinite (h : Scalar.isFinite x = true) : IsWithin 1024 x where
  isFinite := h
  magnitude_le :=
    calc magnitude x ≤ greatest := magnitude_le_greatest x
      _ ≤ scaled (2 ^ 53) 971 := scaled_le_scaled (by norm_num) _
      _ = 2 ^ (1024 : ℤ) := by rw [scaled_two_pow]; norm_num

/-- **The root of a finite double without a sign is finite.** -/
theorem isFinite_sqrt (h : Scalar.isFinite x = true) (hsign : HasNoSign x) :
    Scalar.isFinite (Scalar.sqrt x) = true := by
  exact ((isWithin_of_isFinite h).sqrt (p := 512) hsign (by norm_num) (by norm_num)).isFinite

end Binary64
end FleetScore
