import FleetScore.Proofs.Numeric.Rounding

/-!
# How large results are

Sums, products, quotients and roots of doubles are exact results, rounded.  Here the exact results
are bounded, and from `Rounding` the doubles are: a result that is bounded by a double is bounded by
it after rounding, and if there is such a double at all the result is finite.

Bounds are stated as sizes of doubles, `scaled M E` with `M` and `E` canonical.  Roots are only ever
bounded generously, so their bounds are powers of two.
-/

namespace FleetScore
namespace Binary64

open Float.Model Float.Model.UnpackedFloat

/-! ## 1.  Doubles -/

/-- The distance of a double from zero; zero for what is no number. -/
def magnitude (x : Float) : ℚ := size x.toModel.unpack

theorem isRounded_unpack {x : Float} (h : Scalar.isFinite x = true) :
    IsRounded x.toModel.unpack := by
  have hfinite : x.toModel.unpack.isFinite = true := h
  revert hfinite
  cases hx : x.toModel.unpack with
  | notANumber => exact fun h => by cases h
  | infinity s => exact fun h => by cases h
  | zero s => exact fun _ => trivial
  | finite s m e hpos => exact fun _ => (isCanonical_of_unpack hx).1

/-- **A rounded number that is not above all doubles is a double.** -/
theorem unpack_pack_of_size_le {u : UnpackedFloat} (h : IsRounded u) (hle : size u ≤ greatest) :
    (Float.Model.pack u).unpack = u := by
  cases u with
  | notANumber => cases h
  | infinity s => cases h
  | zero s => cases s <;> rfl
  | finite s m e hpos => exact unpack_pack s hpos h (exponent_le_of_scaled_le h hle)

theorem isFinite_pack {u : UnpackedFloat} (h : IsRounded u) (hle : size u ≤ greatest) :
    Scalar.isFinite (Float.ofModel (.pack u)) = true ∧
      magnitude (Float.ofModel (.pack u)) = size u := by
  have hunpack := unpack_pack_of_size_le h hle
  constructor
  · show (Float.Model.pack u).unpack.isFinite = true
    rw [hunpack]
    cases u <;> first | rfl | cases h
  · show size (Float.Model.pack u).unpack = size u
    rw [hunpack]

theorem scaled_le_greatest {m : ℕ} {e : ℤ} (h : IsCanonical m e) (he : e ≤ 971) :
    scaled m e ≤ greatest := by
  obtain ⟨d, hd⟩ : ∃ d : ℕ, 971 = e + d := ⟨(971 - e).toNat, by omega⟩
  have hm : m ≤ (2 ^ 53 - 1) * 2 ^ d :=
    calc m ≤ 2 ^ 53 - 1 := Nat.le_pred_of_lt h.lt
      _ ≤ (2 ^ 53 - 1) * 2 ^ d := Nat.le_mul_of_pos_right _ (by positivity)
  rw [greatest, hd, scaled_add]
  exact scaled_le_scaled hm _

theorem magnitude_le_greatest (x : Float) : magnitude x ≤ greatest := by
  rw [magnitude]
  cases hx : x.toModel.unpack with
  | finite s m e hpos =>
    obtain ⟨hcanonical, he⟩ := isCanonical_of_unpack hx
    exact scaled_le_greatest hcanonical he
  | _ => exact scaled_nonneg _ _

theorem isCanonical_two_pow {p : ℤ} (h : -1022 ≤ p) : IsCanonical (2 ^ 52) (p - 52) :=
  ⟨by norm_num, by omega, .inl le_rfl⟩

theorem scaled_two_pow_sub (p : ℤ) : scaled (2 ^ 52) (p - 52) = 2 ^ p := by
  rw [scaled_two_pow]
  congr 1
  omega

theorem not_isFinite_pack {u : UnpackedFloat} (h : IsRounded u) (hlt : greatest < size u) :
    Scalar.isFinite (Float.ofModel (.pack u)) = false := by
  cases u with
  | notANumber => cases h
  | infinity s => cases h
  | zero s => exact absurd hlt (not_lt.2 (scaled_nonneg _ _))
  | finite s m e hpos =>
    have he : 971 < e := by
      by_contra hle
      exact absurd hlt (not_lt.2 (scaled_le_greatest h (not_lt.1 hle)))
    show (Float.Model.pack (.finite s m e hpos)).unpack.isFinite = false
    rw [unpack_pack_overflow s hpos he]
    rfl

/-- **What is packed as a finite double has kept its size.** -/
theorem magnitude_pack {u : UnpackedFloat} (h : IsRounded u)
    (hfinite : Scalar.isFinite (Float.ofModel (.pack u)) = true) :
    size u ≤ greatest ∧ magnitude (Float.ofModel (.pack u)) = size u := by
  have hle : size u ≤ greatest := by
    by_contra hlt
    rw [not_isFinite_pack h (not_le.1 hlt)] at hfinite
    cases hfinite
  exact ⟨hle, (isFinite_pack h hle).2⟩

/-- Whether a number is rounded from a size: no double lies between the two. -/
structure Neighbours (u : UnpackedFloat) (v : ℚ) : Prop where
  isRounded : IsRounded u
  size_le : ∀ {M : ℕ} {E : ℤ}, IsCanonical M E → v ≤ scaled M E → size u ≤ scaled M E
  le_size : ∀ {M : ℕ} {E : ℤ}, IsCanonical M E → scaled M E ≤ v → scaled M E ≤ size u

/-- What is rounded twice is still a neighbour. -/
theorem Neighbours.trans {u w : UnpackedFloat} {v : ℚ} (h : Neighbours u v)
    (h' : Neighbours w (size u)) : Neighbours w v where
  isRounded := h'.isRounded
  size_le hM hle := h'.size_le hM (h.size_le hM hle)
  le_size hM hle := h'.le_size hM (h.le_size hM hle)

theorem neighbours_zero (s : Sign) {v : ℚ} (hv : v = 0) : Neighbours (.zero s) v where
  isRounded := trivial
  size_le _ _ := scaled_nonneg _ _
  le_size _ hle := hle.trans hv.le

/-! ## 2.  Rounding an exact number -/

theorem log2_mul_two_pow {m : ℕ} (hm : m ≠ 0) (d : ℕ) : (m * 2 ^ d).log2 = m.log2 + d := by
  rw [Nat.log2_eq_iff (Nat.mul_ne_zero hm (by positivity)), Nat.add_right_comm, Nat.pow_add,
    Nat.pow_add]
  exact ⟨Nat.mul_le_mul_right _ (Nat.log2_self_le hm),
    Nat.mul_lt_mul_of_pos_right Nat.lt_log2_self (by positivity)⟩

/-- Writing a number with a smaller exponent, where that is needed, leaves it to be rounded to the
same target. -/
theorem round_eq (s : Sign) {m : ℕ} (e : ℤ) (hm : m ≠ 0) :
    ∃ (n : ℕ) (f : ℤ) (k : ℕ), n ≠ 0 ∧ target n f = f + k ∧
      (∀ c : ℕ, scaled (c * n) f = scaled (c * m) e) ∧
      UnpackedFloat.round Format.binary64 s m e = roundWithAccuracy Format.binary64 s n f .exact := by
  obtain ⟨d, hd⟩ : ∃ d : ℕ, (e - target m e).toNat = d := ⟨_, rfl⟩
  have hlog := log2_mul_two_pow hm d
  have htarget : target (m * 2 ^ d) (e - d) = target m e := by
    rw [target, target, hlog]
    push_cast
    congr 1
    omega
  refine ⟨m * 2 ^ d, e - d, (target m e - (e - d)).toNat, by positivity, by omega, fun c => ?_, ?_⟩
  · rw [← mul_assoc, ← scaled_add, sub_add_cancel]
  · rw [UnpackedFloat.round, targetExponent_eq, decreaseExponent, hd, Nat.shiftLeft_eq]

/-- What is normalised is rounded, unless it is zero. -/
theorem normalize_eq (n : ℤ) (e : ℤ) (zero : Sign) :
    n = 0 ∧ UnpackedFloat.normalize Format.binary64 n e zero = .zero zero ∨
      n.natAbs ≠ 0 ∧ ∃ s, UnpackedFloat.normalize Format.binary64 n e zero =
        UnpackedFloat.round Format.binary64 s n.natAbs e := by
  unfold UnpackedFloat.normalize
  split
  · rename_i hcompare
    rw [Int.compare_eq_lt] at hcompare
    have hn : (-n).toNat = n.natAbs := by omega
    exact .inr ⟨by omega, .negative, by rw [hn]⟩
  · rename_i hcompare
    exact .inl ⟨Int.compare_eq_eq.1 hcompare, rfl⟩
  · rename_i hcompare
    rw [Int.compare_eq_gt] at hcompare
    have hn : n.toNat = n.natAbs := by omega
    exact .inr ⟨by omega, .positive, by rw [hn]⟩

theorem isRounded_normalize (n : ℤ) (e : ℤ) (zero : Sign) :
    IsRounded (UnpackedFloat.normalize Format.binary64 n e zero) := by
  obtain ⟨-, hzero⟩ | ⟨hn, s, hround⟩ := normalize_eq n e zero
  · rw [hzero]
    trivial
  · obtain ⟨m, f, k, hm, hk, -, heq⟩ := round_eq s e hn
    rw [hround, heq]
    exact (round_spec s .exact hk (.inl hm)).1

section

variable {M : ℕ} {E : ℤ}

/-- What is normalised is at most the double that its exact size does not exceed by half. -/
theorem size_normalize_le (n : ℤ) (e : ℤ) (zero : Sign) (hM : IsCanonical M E)
    (h : scaled (2 * n.natAbs) e < scaled (2 * M + 1) E) :
    size (UnpackedFloat.normalize Format.binary64 n e zero) ≤ scaled M E := by
  obtain ⟨-, hzero⟩ | ⟨hn, s, hround⟩ := normalize_eq n e zero
  · rw [hzero]
    exact scaled_nonneg _ _
  · obtain ⟨m, f, k, hm, hk, hsize, heq⟩ := round_eq s e hn
    rw [hround, heq]
    refine size_round_le_of_half s hk (.inl hm) hM ?_
    rwa [hsize]

theorem scaled_double_lt (m : ℕ) {e : ℤ} (h : scaled m e ≤ scaled M E) :
    scaled (2 * m) e < scaled (2 * M + 1) E := by
  have hpos : (0 : ℚ) < 2 ^ E := by positivity
  simp only [scaled] at h ⊢
  push_cast
  linarith

theorem neighbours_round (s : Sign) {m : ℕ} {e : ℤ} (hm : m ≠ 0) (hle : e ≤ target m e) :
    Neighbours (roundWithAccuracy Format.binary64 s m e .exact) (scaled m e) := by
  obtain ⟨k, hk⟩ : ∃ k : ℕ, target m e = e + k := ⟨(target m e - e).toNat, by omega⟩
  exact {
    isRounded := (round_spec s .exact hk (.inl hm)).1
    size_le := fun hM h => size_round_le_of_half s hk (.inl hm) hM (scaled_double_lt m h)
    le_size := fun hM h => le_size_round s .exact hk (.inl hm) hM h }

/-- An exponent that no double is written with, or a significand of at least 53 bits: nothing that
lies between the number and the next is a double. -/
theorem scaled_le_or_succ_le {m : ℕ} {e : ℤ} (hfull : 2 ^ 52 ≤ m ∨ e ≤ -1074)
    (hM : IsCanonical M E) : scaled M E ≤ scaled m e ∨ scaled (m + 1) e ≤ scaled M E := by
  obtain hle | hlt := le_or_gt e E
  · obtain ⟨d, rfl⟩ : ∃ d : ℕ, E = e + d := ⟨(E - e).toNat, by omega⟩
    rw [scaled_add, scaled_le_scaled_iff, scaled_le_scaled_iff]
    omega
  · left
    have hm : 2 ^ 52 ≤ m := hfull.resolve_right (by have := hM.le; omega)
    obtain ⟨d, rfl⟩ : ∃ d : ℕ, e = E + (1 + d : ℕ) := ⟨(e - E - 1).toNat, by omega⟩
    rw [scaled_add, scaled_le_scaled_iff]
    calc M ≤ 2 ^ 52 * 2 ^ 1 := hM.lt.le
      _ ≤ m * 2 ^ (1 + d) := Nat.mul_le_mul hm (Nat.pow_le_pow_right (by omega) (by omega))

/-- **A number that is known but for a part of its last place is rounded to a neighbour**, if the
accuracy says whether there is such a part. -/
theorem neighbours_of_floor (s : Sign) {m : ℕ} {e : ℤ} {a : Accuracy} {v : ℚ}
    (hfull : 2 ^ 52 ≤ m ∨ e ≤ -1074) (hle : scaled m e ≤ v) (hlt : v < scaled (m + 1) e)
    (hexact : v = scaled m e → a = .exact) :
    Neighbours (roundWithAccuracy Format.binary64 s m e a) v := by
  have htarget : e ≤ target m e ∧ (m ≠ 0 ∨ target m e = -1074) := by
    unfold target
    obtain hfull | hleast := hfull
    · have hlog := (Nat.le_log2 (by omega)).2 hfull
      exact ⟨by omega, .inl (by omega)⟩
    · by_cases hm : m = 0
      · subst hm
        rw [Nat.log2_zero]
        exact ⟨by omega, .inr (by omega)⟩
      · exact ⟨by omega, .inl hm⟩
  obtain ⟨k, hk⟩ : ∃ k : ℕ, target m e = e + k := ⟨(target m e - e).toNat, by omega⟩
  refine ⟨(round_spec s a hk htarget.2).1, fun {M E} hM hv => ?_, fun {M E} hM hv => ?_⟩
  · obtain hbelow | habove := scaled_le_or_succ_le hfull hM
    · have hv : v = scaled m e := le_antisymm (hv.trans hbelow) hle
      rw [hexact hv]
      exact size_round_le_of_half s hk htarget.2 hM (scaled_double_lt m (hv ▸ ‹v ≤ scaled M E›))
    · exact size_round_le s a hk htarget.2 hM habove
  · obtain hbelow | habove := scaled_le_or_succ_le hfull hM
    · exact le_size_round s a hk htarget.2 hM hbelow
    · exact absurd (hlt.trans_le habove) (not_lt.2 hv)

theorem neighbours_normalize (n : ℤ) (e : ℤ) (zero : Sign) :
    Neighbours (UnpackedFloat.normalize Format.binary64 n e zero) (scaled n.natAbs e) := by
  obtain ⟨rfl, hzero⟩ | ⟨hn, s, hround⟩ := normalize_eq n e zero
  · rw [hzero]
    exact neighbours_zero _ (by simp [scaled])
  · obtain ⟨m, f, k, hm, hk, hsize, hexact⟩ := round_eq s e hn
    have hscaled := hsize 1
    rw [one_mul, one_mul] at hscaled
    rw [hround, hexact, ← hscaled]
    exact neighbours_round s hm (by omega)

/-! ## 3.  Sums -/

theorem natAbs_apply (s : Sign) (n : ℕ) : (s.apply n).natAbs = n := by
  cases s <;> simp [Sign.apply]

theorem scaled_decreaseExponent (m c : ℕ) {e f : ℤ} (h : f ≤ e) :
    scaled (c * (decreaseExponent m e f).1) f = c * scaled m e := by
  obtain ⟨d, rfl⟩ : ∃ d : ℕ, e = f + d := ⟨(e - f).toNat, by omega⟩
  have hd : (f + d - f).toNat = d := by omega
  rw [decreaseExponent, hd, Nat.shiftLeft_eq, scaled_add]
  simp only [scaled]
  push_cast
  ring

theorem isRounded_add {a b : UnpackedFloat} (ha : IsRounded a) (hb : IsRounded b) :
    IsRounded (UnpackedFloat.add Format.binary64 a b) := by
  cases a <;> cases b
  case zero.zero s s' => cases s <;> cases s' <;> trivial
  case zero.finite => exact hb
  case finite.zero => exact ha
  case finite.finite => exact isRounded_normalize _ _ _
  all_goals
    first
    | exact False.elim ha
    | exact False.elim hb

theorem isRounded_sub {a b : UnpackedFloat} (ha : IsRounded a) (hb : IsRounded b) :
    IsRounded (UnpackedFloat.sub Format.binary64 a b) := by
  cases a <;> cases b
  case zero.zero s s' => cases s <;> cases s' <;> trivial
  case zero.finite => exact hb
  case finite.zero => exact ha
  case finite.finite => exact isRounded_normalize _ _ _
  all_goals
    first
    | exact False.elim ha
    | exact False.elim hb

/-- **A sum** whose exact size is less than half a unit above a double is at most that double. -/
theorem size_add_le {a b : UnpackedFloat} (hM : IsCanonical M E) (hle : size a ≤ scaled M E)
    (hle' : size b ≤ scaled M E) (h : 2 * (size a + size b) < scaled (2 * M + 1) E) :
    size (UnpackedFloat.add Format.binary64 a b) ≤ scaled M E := by
  cases a <;> cases b
  case zero.zero s s' => cases s <;> cases s' <;> exact hle
  case zero.finite => exact hle'
  case finite.zero => exact hle
  case infinity.infinity s s' => cases s <;> cases s' <;> exact hle
  case finite.finite s m e hpos s' n f hpos' =>
    refine size_normalize_le _ _ _ hM (lt_of_le_of_lt ?_ h)
    have htriangle : (s.apply (decreaseExponent m e (min e f)).1 +
        s'.apply (decreaseExponent n f (min e f)).1).natAbs ≤
        (decreaseExponent m e (min e f)).1 + (decreaseExponent n f (min e f)).1 := by
      refine (Int.natAbs_add_le _ _).trans ?_
      rw [natAbs_apply, natAbs_apply]
    refine (scaled_le_scaled (Nat.mul_le_mul_left 2 htriangle) _).trans (le_of_eq ?_)
    have hleft := scaled_decreaseExponent m 2 (min_le_left e f)
    have hright := scaled_decreaseExponent n 2 (min_le_right e f)
    simp only [size]
    simp only [scaled] at hleft hright ⊢
    push_cast at hleft hright ⊢
    linarith
  all_goals exact scaled_nonneg _ _

/-! ## 4.  Products -/

/-- A product has at least 53 bits, or its exponent is the least or smaller. -/
theorem le_target_mul {m n : ℕ} {e f : ℤ} (hm : IsCanonical m e) (hn : IsCanonical n f)
    (hpos : 0 < m) (hpos' : 0 < n) : e + f ≤ target (m * n) (e + f) := by
  have hbits : 2 ^ 52 ≤ m * n → 52 ≤ (m * n).log2 :=
    (Nat.le_log2 (Nat.mul_ne_zero (by omega) (by omega))).2
  unfold target
  obtain hfull | rfl := hm.full
  · have := hbits (hfull.trans (Nat.le_mul_of_pos_right m hpos'))
    omega
  · obtain hfull | rfl := hn.full
    · have := hbits (hfull.trans (Nat.le_mul_of_pos_left n hpos))
      omega
    · omega

theorem scaled_mul (m n : ℕ) (e f : ℤ) : scaled (m * n) (e + f) = scaled m e * scaled n f := by
  simp only [scaled]
  rw [zpow_add₀ (by norm_num)]
  push_cast
  ring

/-- **A product** is a neighbour of the exact one. -/
theorem neighbours_mul {a b : UnpackedFloat} (ha : IsRounded a) (hb : IsRounded b) :
    Neighbours (UnpackedFloat.mul Format.binary64 a b) (size a * size b) := by
  cases a with
  | notANumber => cases ha
  | infinity s => cases ha
  | zero s =>
    cases b with
    | notANumber => cases hb
    | infinity s => cases hb
    | zero s' => exact neighbours_zero _ (by simp [size])
    | finite s' n f hpos => exact neighbours_zero _ (by simp [size])
  | finite s m e hpos =>
    cases b with
    | notANumber => cases hb
    | infinity s => cases hb
    | zero s' => exact neighbours_zero _ (by simp [size])
    | finite s' n f hpos' =>
      simp only [size, ← scaled_mul]
      exact neighbours_round (s * s') (Nat.mul_ne_zero hpos.ne' hpos'.ne')
        (le_target_mul ha hb hpos hpos')

/-! ## 5.  Quotients -/

/-- The exponent at which a quotient is computed. -/
def quotientExponent (m : ℕ) (e : ℤ) (n : ℕ) (f : ℤ) : ℤ :=
  min (e - f) (max (m.log2 + e - (n.log2 + f) - 53) (-1074))

theorem divCore_eq (m : ℕ) (e : ℤ) (n : ℕ) (f : ℤ) {d : ℕ}
    (hd : e - f = quotientExponent m e n f + d) :
    divCore Format.binary64 m e n f =
      (m * 2 ^ d / n, quotientExponent m e n f, accuracyOfFraction (m * 2 ^ d % n) n) := by
  have htarget : min (e - f) (Format.binary64.targetExponent
      (totalExponent m e - totalExponent n f)) = quotientExponent m e n f := by
    simp only [Format.targetExponent, totalExponent, Format.mantissaBits, Format.minExponent,
      quotientExponent]
    norm_num
    omega
  have hshift : (e - f - quotientExponent m e n f).toNat = d := by omega
  rw [divCore, htarget, hshift, Nat.shiftLeft_eq]

/-- A quotient is computed to 53 bits, or at the least exponent or a smaller one. -/
theorem quotient_full {m n d : ℕ} {e f : ℤ} (hm : m ≠ 0) (hn : n ≠ 0)
    (hd : e - f = quotientExponent m e n f + d) :
    2 ^ 52 ≤ m * 2 ^ d / n ∨ quotientExponent m e n f ≤ -1074 := by
  refine or_iff_not_imp_right.2 fun hleast => ?_
  rw [Nat.le_div_iff_mul_le (Nat.pos_of_ne_zero hn)]
  have hbits : 52 + (n.log2 + 1) ≤ m.log2 + d := by
    unfold quotientExponent at hd hleast
    omega
  calc 2 ^ 52 * n ≤ 2 ^ 52 * 2 ^ (n.log2 + 1) := Nat.mul_le_mul_left _ Nat.lt_log2_self.le
    _ = 2 ^ (52 + (n.log2 + 1)) := (Nat.pow_add _ _ _).symm
    _ ≤ 2 ^ (m.log2 + d) := Nat.pow_le_pow_right (by omega) hbits
    _ = 2 ^ m.log2 * 2 ^ d := Nat.pow_add _ _ _
    _ ≤ m * 2 ^ d := Nat.mul_le_mul_right _ (Nat.log2_self_le hm)

theorem quotient_eq {m n d : ℕ} {e f E : ℤ} (hn : n ≠ 0) (hd : e - f = E + d) :
    scaled m e / scaled n f = (m * 2 ^ d : ℕ) / n * 2 ^ E := by
  have hn : (n : ℚ) ≠ 0 := by exact_mod_cast hn
  obtain rfl : e = E + f + d := by omega
  rw [scaled_add, scaled, scaled, zpow_add₀ (by norm_num)]
  field_simp

/-- **A quotient** is a neighbour of the exact one. -/
theorem neighbours_div {a b : UnpackedFloat} (ha : IsRounded a) (hb : IsRounded b)
    (hne : size b ≠ 0) :
    Neighbours (UnpackedFloat.div Format.binary64 a b) (size a / size b) := by
  cases b with
  | notANumber => cases hb
  | infinity s => cases hb
  | zero s => exact absurd rfl hne
  | finite s' n f hpos' =>
    cases a with
    | notANumber => cases ha
    | infinity s => cases ha
    | zero s => exact neighbours_zero _ (zero_div _)
    | finite s m e hpos =>
      obtain ⟨d, hd⟩ : ∃ d : ℕ, e - f = quotientExponent m e n f + d :=
        ⟨(e - f - quotientExponent m e n f).toNat, by unfold quotientExponent; omega⟩
      have hround : UnpackedFloat.div Format.binary64 (.finite s m e hpos) (.finite s' n f hpos') =
          roundWithAccuracy Format.binary64 (s / s') (m * 2 ^ d / n) (quotientExponent m e n f)
            (accuracyOfFraction (m * 2 ^ d % n) n) := by
        rw [UnpackedFloat.div, divCore_eq m e n f hd]
      have hunit : (0 : ℚ) < 2 ^ quotientExponent m e n f := by positivity
      have hn : (0 : ℚ) < n := by exact_mod_cast hpos'
      rw [hround, size, size, quotient_eq hpos'.ne' hd]
      refine neighbours_of_floor _ (quotient_full hpos.ne' hpos'.ne' hd) ?_ ?_ fun hexact => ?_
      · exact mul_le_mul_of_nonneg_right Nat.cast_div_le hunit.le
      · refine mul_lt_mul_of_pos_right ?_ hunit
        rw [div_lt_iff₀' hn]
        exact_mod_cast Nat.lt_mul_div_succ (m * 2 ^ d) hpos'
      · have hquotient : ((m * 2 ^ d : ℕ) : ℚ) / n = (m * 2 ^ d / n : ℕ) :=
          mul_right_cancel₀ hunit.ne' hexact
        rw [div_eq_iff hn.ne'] at hquotient
        have hmul : m * 2 ^ d = m * 2 ^ d / n * n := by exact_mod_cast hquotient
        have hremainder : m * 2 ^ d % n = 0 := Nat.mod_eq_zero_of_dvd ⟨_, hmul.trans (mul_comm _ _)⟩
        rw [hremainder]
        rfl

/-! ## 6.  Roots -/

/-- The exponent at which a root is computed. -/
def rootExponent (m : ℕ) (e : ℤ) : ℤ :=
  min (e / 2) (max ((m.log2 + 1 + e + 1) / 2 - 53) (-1074))

theorem sqrtCore_eq (m : ℕ) (e : ℤ) {d : ℕ} (hd : e = 2 * rootExponent m e + d) :
    ∃ a, sqrtCore Format.binary64 m e = (Nat.sqrt (m * 2 ^ d), rootExponent m e, a) := by
  have htarget : min (e.ediv 2) (Format.binary64.targetExponent
      ((totalExponent m e + 1).ediv 2)) = rootExponent m e := by
    show min (e / 2) (Format.binary64.targetExponent ((totalExponent m e + 1) / 2)) = _
    simp only [Format.targetExponent, totalExponent, Format.mantissaBits, Format.minExponent,
      rootExponent]
    norm_num
  have hshift : (e - 2 * rootExponent m e).toNat = d := by omega
  have hroot : (sqrtCore Format.binary64 m e).1 = Nat.sqrt (m * 2 ^ d) := by
    rw [sqrtCore, htarget, hshift, Nat.shiftLeft_eq]
  exact ⟨(sqrtCore Format.binary64 m e).2.2, Prod.ext hroot (Prod.ext htarget rfl)⟩

/-- A root is computed to 53 bits, or at the least exponent or a smaller one. -/
theorem root_target {m d : ℕ} {e : ℤ} (hm : m ≠ 0) (hd : e = 2 * rootExponent m e + d) :
    rootExponent m e ≤ target (Nat.sqrt (m * 2 ^ d)) (rootExponent m e) ∧
      (Nat.sqrt (m * 2 ^ d) ≠ 0 ∨
        target (Nat.sqrt (m * 2 ^ d)) (rootExponent m e) = -1074) := by
  have hnonzero : Nat.sqrt (m * 2 ^ d) ≠ 0 := by
    rw [Ne, Nat.sqrt_eq_zero]
    exact Nat.mul_ne_zero hm (by positivity)
  refine ⟨?_, .inl hnonzero⟩
  by_cases hleast : rootExponent m e ≤ -1074
  · exact hleast.trans (le_max_right _ _)
  · have hfull : 2 ^ 52 ≤ Nat.sqrt (m * 2 ^ d) := by
      rw [Nat.le_sqrt]
      have hbits : 104 ≤ m.log2 + d := by
        unfold rootExponent at hd hleast
        omega
      calc 2 ^ 52 * 2 ^ 52 = 2 ^ 104 := by norm_num
        _ ≤ 2 ^ (m.log2 + d) := Nat.pow_le_pow_right (by omega) hbits
        _ = 2 ^ m.log2 * 2 ^ d := Nat.pow_add _ _ _
        _ ≤ m * 2 ^ d := Nat.mul_le_mul_right _ (Nat.log2_self_le hm)
    have hlog := (Nat.le_log2 hnonzero).2 hfull
    unfold target
    omega

theorem log2_add_le {m : ℕ} {e p : ℤ} (hm : m ≠ 0) (h : scaled m e ≤ 2 ^ p) : m.log2 + e ≤ p := by
  have hpow : (2 : ℚ) ^ (m.log2 + e) ≤ 2 ^ p := by
    rw [← scaled_two_pow]
    exact (scaled_le_scaled (Nat.log2_self_le hm) e).trans h
  exact (zpow_le_zpow_iff_right₀ (by norm_num)).1 hpow

theorem root_le {m d : ℕ} {e p : ℤ} (hm : m ≠ 0) (hd : e = 2 * rootExponent m e + d)
    (hle : scaled m e ≤ 2 ^ (2 * p)) :
    scaled (Nat.sqrt (m * 2 ^ d) + 1) (rootExponent m e) ≤ 2 ^ (p + 1) := by
  have hsquare : scaled (Nat.sqrt (m * 2 ^ d)) (rootExponent m e) ^ 2 ≤ (2 ^ p) ^ 2 :=
    calc scaled (Nat.sqrt (m * 2 ^ d)) (rootExponent m e) ^ 2
        = scaled (Nat.sqrt (m * 2 ^ d) * Nat.sqrt (m * 2 ^ d))
            (rootExponent m e + rootExponent m e) := by rw [scaled_mul, sq]
      _ ≤ scaled (m * 2 ^ d) (rootExponent m e + rootExponent m e) :=
          scaled_le_scaled (Nat.sqrt_le _) _
      _ = scaled m e := by
          rw [← scaled_add]
          congr 1
          omega
      _ ≤ 2 ^ (2 * p) := hle
      _ = (2 ^ p) ^ 2 := by rw [mul_comm, zpow_mul, zpow_ofNat]
  have hroot : scaled (Nat.sqrt (m * 2 ^ d)) (rootExponent m e) ≤ 2 ^ p :=
    (sq_le_sq₀ (scaled_nonneg _ _) (by positivity)).1 hsquare
  have hexponent : rootExponent m e ≤ p := by
    have := log2_add_le hm hle
    unfold rootExponent
    omega
  have hunit : (2 : ℚ) ^ rootExponent m e ≤ 2 ^ p :=
    zpow_le_zpow_right₀ (by norm_num) hexponent
  rw [zpow_add_one₀ (by norm_num)]
  simp only [scaled] at hroot ⊢
  push_cast at hroot ⊢
  linarith

/-- **A root** is at most twice the power of two whose square bounds the number. -/
theorem sqrt_spec {a : UnpackedFloat} (ha : IsRounded a) (hunsigned : IsUnsigned a) {p : ℤ}
    (hp : -1023 ≤ p) (hle : size a ≤ 2 ^ (2 * p)) :
    IsRounded (UnpackedFloat.sqrt Format.binary64 a) ∧
      size (UnpackedFloat.sqrt Format.binary64 a) ≤ 2 ^ (p + 1) := by
  cases a with
  | notANumber => cases ha
  | infinity s => cases ha
  | zero s => exact ⟨trivial, by simp only [size]; positivity⟩
  | finite s m e hpos =>
    obtain rfl : s = .positive := hunsigned
    obtain ⟨d, hd⟩ : ∃ d : ℕ, e = 2 * rootExponent m e + d :=
      ⟨(e - 2 * rootExponent m e).toNat, by unfold rootExponent; omega⟩
    obtain ⟨accuracy, hcore⟩ := sqrtCore_eq m e hd
    obtain ⟨htarget, hzero⟩ := root_target hpos.ne' hd
    obtain ⟨k, hk⟩ : ∃ k : ℕ, target (Nat.sqrt (m * 2 ^ d)) (rootExponent m e) =
        rootExponent m e + k :=
      ⟨(target (Nat.sqrt (m * 2 ^ d)) (rootExponent m e) - rootExponent m e).toNat, by omega⟩
    have hround : UnpackedFloat.sqrt Format.binary64 (.finite .positive m e hpos) =
        roundWithAccuracy Format.binary64 .positive (Nat.sqrt (m * 2 ^ d)) (rootExponent m e)
          accuracy := by
      rw [UnpackedFloat.sqrt, hcore]
    rw [hround]
    refine ⟨(round_spec _ accuracy hk hzero).1, ?_⟩
    rw [← scaled_two_pow_sub]
    refine size_round_le _ accuracy hk hzero (isCanonical_two_pow (by omega)) ?_
    rw [scaled_two_pow_sub]
    exact root_le hpos.ne' hd hle

end

end Binary64
end FleetScore
