import FleetScore.Proofs.Numeric.Comparison
import FleetScore.Proofs.Numeric.Ranks

/-!
# Numbers with their signs

A double is its sign and its distance from zero, and nothing else (`IsNumber.eq`).  Elsewhere signs
take no part; here they do, and with them it can be said when a computation does not round at all.

Sums and differences are neighbours of the exact ones (`neighbours_add`, `neighbours_sub`).  So an
exact result that is itself the size of a double, `IsExact`, comes out as it is: sums of one
sign (`IsNumber.add`), quotients by a positive number (`IsNumber.div`), and sums of one number with
itself (`IsNumber.sum_replicate`).  And a difference of different doubles is not zero, however
close they are (`magnitude_sub_ne_zero`): no double lies between zero and the least one, and every
double is a multiple of it.
-/

namespace FleetScore
namespace Binary64

open Float.Model Float.Model.UnpackedFloat

/-! ## 1.  Signs -/

/-- Whether a number has a sign; what is not a number has both. -/
def HasSign (s : Sign) : UnpackedFloat → Prop
  | .notANumber => True
  | .infinity sign => sign = s
  | .zero sign => sign = s
  | .finite sign _ _ _ => sign = s

theorem exists_hasSign (u : UnpackedFloat) : ∃ s, HasSign s u := by
  cases u with
  | notANumber => exact ⟨.positive, trivial⟩
  | infinity s => exact ⟨s, rfl⟩
  | zero s => exact ⟨s, rfl⟩
  | finite s m e hpos => exact ⟨s, rfl⟩

theorem hasSign_roundWithAccuracy (s : Sign) (m : ℕ) (e : ℤ) (a : Accuracy) :
    HasSign s (roundWithAccuracy Format.binary64 s m e a) := by
  unfold roundWithAccuracy
  dsimp only
  split <;> rfl

theorem hasSign_normalize (s : Sign) {n : ℕ} (hn : n ≠ 0) (e : ℤ) (zero : Sign) :
    HasSign s (UnpackedFloat.normalize Format.binary64 (s.apply n) e zero) := by
  cases s with
  | negative =>
    rw [UnpackedFloat.normalize, Sign.apply, Int.compare_eq_lt.2 (by omega)]
    exact hasSign_roundWithAccuracy _ _ _ _
  | positive =>
    rw [UnpackedFloat.normalize, Sign.apply, Int.compare_eq_gt.2 (by omega)]
    exact hasSign_roundWithAccuracy _ _ _ _

section

variable {s : Sign} {a b : UnpackedFloat}

/-- **A sum of numbers of one sign has it.** -/
theorem HasSign.add (ha : HasSign s a) (hb : HasSign s b) (hra : IsRounded a) (hrb : IsRounded b) :
    HasSign s (UnpackedFloat.add Format.binary64 a b) := by
  cases a <;> cases b
  case zero.zero sa sb =>
    obtain rfl : sa = s := ha
    obtain rfl : sb = sa := hb
    cases sb <;> rfl
  case zero.finite => exact hb
  case finite.zero => exact ha
  case finite.finite sa m e hpos sb n f hpos' =>
    obtain rfl : sa = s := ha
    obtain rfl : sb = sa := hb
    have hsum : sb.apply (decreaseExponent m e (min e f)).1 +
        sb.apply (decreaseExponent n f (min e f)).1 =
        sb.apply ((decreaseExponent m e (min e f)).1 + (decreaseExponent n f (min e f)).1 : ℕ) := by
      cases sb <;> simp only [Sign.apply] <;> push_cast <;> ring
    have hne : (decreaseExponent m e (min e f)).1 + (decreaseExponent n f (min e f)).1 ≠ 0 := by
      rw [decreaseExponent, Nat.shiftLeft_eq]
      have : 0 < m * 2 ^ (e - min e f).toNat := by positivity
      omega
    have hsign := hasSign_normalize sb hne (min e f) .positive
    rw [← hsum] at hsign
    exact hsign
  all_goals
    first
    | exact False.elim hra
    | exact False.elim hrb

/-- **A quotient by a positive number keeps the sign.** -/
theorem HasSign.div (ha : HasSign s a) (hb : HasSign .positive b) (hra : IsRounded a)
    (hrb : IsRounded b) (hne : size b ≠ 0) : HasSign s (UnpackedFloat.div Format.binary64 a b) := by
  have hsign (s : Sign) : s / .positive = s := by cases s <;> rfl
  cases a <;> cases b
  case zero.zero => exact absurd rfl hne
  case finite.zero => exact absurd rfl hne
  case zero.finite => subst ha; subst hb; exact hsign _
  case finite.finite sa m e hpos sb n f hpos' =>
    subst ha
    subst hb
    rw [UnpackedFloat.div, hsign]
    exact hasSign_roundWithAccuracy _ _ _ _
  all_goals
    first
    | exact False.elim hra
    | exact False.elim hrb

/-! ## 2.  Sums and differences -/

theorem HasSign.value_eq (ha : HasSign s a) : value a = match s with
    | .negative => -size a
    | .positive => size a := by
  cases a with
  | finite sa m e hpos =>
    obtain rfl : sa = s := ha
    cases sa <;> rfl
  | _ => cases s <;> simp [value, size]

theorem abs_value (a : UnpackedFloat) : |value a| = size a := by
  obtain ⟨s, hs⟩ := exists_hasSign a
  rw [hs.value_eq]
  cases s <;> simp [abs_of_nonneg (size_nonneg a)]

theorem apply_decreaseExponent (s : Sign) {m : ℕ} {e f : ℤ} (hpos : 0 < m) (h : f ≤ e) :
    (s.apply (decreaseExponent m e f).1 : ℚ) * 2 ^ f = value (.finite s m e hpos) := by
  have hscaled := scaled_decreaseExponent m 1 h
  rw [one_mul, Nat.cast_one, one_mul] at hscaled
  cases s
  · rw [value, ← hscaled, scaled, Sign.apply]
    push_cast
    ring
  · rw [value, ← hscaled, scaled, Sign.apply]
    push_cast
    ring

theorem scaled_natAbs (n : ℤ) (e : ℤ) : scaled n.natAbs e = |(n : ℚ) * 2 ^ e| := by
  have hpos : (0 : ℚ) < 2 ^ e := by positivity
  rw [scaled, abs_mul, abs_of_pos hpos, Nat.cast_natAbs, Int.cast_abs]

theorem neighbours_self (ha : IsRounded a) : Neighbours a (size a) :=
  ⟨ha, fun _ h => h, fun _ h => h⟩

/-- **A sum** is a neighbour of the exact one. -/
theorem neighbours_add (ha : IsRounded a) (hb : IsRounded b) :
    Neighbours (UnpackedFloat.add Format.binary64 a b) |value a + value b| := by
  cases a <;> cases b
  case zero.zero s s' => cases s <;> cases s' <;> exact neighbours_zero _ (by simp [value])
  case zero.finite s s' n f hpos =>
    have hvalue : value (.zero s) = 0 := rfl
    rw [hvalue, zero_add, abs_value]
    exact neighbours_self hb
  case finite.zero s m e hpos s' =>
    have hvalue : value (.zero s') = 0 := rfl
    rw [hvalue, add_zero, abs_value]
    exact neighbours_self ha
  case finite.finite s m e hpos s' n f hpos' =>
    have hround := neighbours_normalize (s.apply (decreaseExponent m e (min e f)).1 +
      s'.apply (decreaseExponent n f (min e f)).1) (min e f) .positive
    rw [scaled_natAbs, Int.cast_add, add_mul, apply_decreaseExponent s hpos (min_le_left e f),
      apply_decreaseExponent s' hpos' (min_le_right e f)] at hround
    exact hround
  all_goals
    first
    | exact False.elim ha
    | exact False.elim hb

/-- **A difference** is a neighbour of the exact one. -/
theorem neighbours_sub (ha : IsRounded a) (hb : IsRounded b) :
    Neighbours (UnpackedFloat.sub Format.binary64 a b) |value a - value b| := by
  cases a <;> cases b
  case zero.zero s s' => cases s <;> cases s' <;> exact neighbours_zero _ (by simp [value])
  case zero.finite s s' n f hpos =>
    have hvalue : value (.zero s) = 0 := rfl
    rw [hvalue, zero_sub, abs_neg, abs_value]
    exact neighbours_self (a := .finite (-s') n f hpos) hb
  case finite.zero s m e hpos s' =>
    have hvalue : value (.zero s') = 0 := rfl
    rw [hvalue, sub_zero, abs_value]
    exact neighbours_self ha
  case finite.finite s m e hpos s' n f hpos' =>
    have hround := neighbours_normalize (s.apply (decreaseExponent m e (min e f)).1 -
      s'.apply (decreaseExponent n f (min e f)).1) (min e f) .positive
    rw [scaled_natAbs, Int.cast_sub, sub_mul, apply_decreaseExponent s hpos (min_le_left e f),
      apply_decreaseExponent s' hpos' (min_le_right e f)] at hround
    exact hround
  all_goals
    first
    | exact False.elim ha
    | exact False.elim hb

end

/-! ## 3.  Doubles -/

section

variable {x y : Float}

theorem ofBitVec_injective {b c : BitVec 1} (h : Sign.ofBitVec b = Sign.ofBitVec c) : b = c := by
  obtain rfl | rfl := BitVec.eq_zero_or_eq_one b <;>
    obtain rfl | rfl := BitVec.eq_zero_or_eq_one c <;>
    first
    | rfl
    | cases h

theorem toNat_eq_fields (x : Float) :
    x.toBits.toNat = (signField x.toModel).toNat * 2 ^ 63 +
      (exponentField x.toModel).toNat * 2 ^ 52 + (fractionField x.toModel).toNat := by
  have hword : x.toBits.toNat < 2 ^ 64 := x.toBits.toNat_lt
  have hsign : (signField x.toModel).toNat = x.toBits.toNat / 2 ^ 63 % 2 := by
    rw [signField, unpackSign, BitVec.toNat_cast, BitVec.extractLsb_toNat,
      Nat.shiftRight_eq_div_pow]
    rfl
  have hexponent : (exponentField x.toModel).toNat = _ := unpackExponent_toNat x
  have hfraction : (fractionField x.toModel).toNat = _ := unpackMantissa_toNat x
  rw [hsign, hexponent, hfraction, hiddenBit, fieldCount]
  omega

/-- **Finite doubles that are unpacked alike are the same.** -/
theorem eq_of_unpack_eq (hx : Scalar.isFinite x = true)
    (h : x.toModel.unpack = y.toModel.unpack) : x = y := by
  have hword (hsign : Sign.ofBitVec (signField x.toModel) = Sign.ofBitVec (signField y.toModel))
      (hexponent : (exponentField x.toModel).toNat = (exponentField y.toModel).toNat)
      (hfraction : (fractionField x.toModel).toNat = (fractionField y.toModel).toNat) : x = y := by
    refine eq_of_toBits_eq (UInt64.toNat_inj.1 ?_)
    rw [toNat_eq_fields, toNat_eq_fields, ofBitVec_injective hsign, hexponent, hfraction]
  have hrounded := isRounded_unpack hx
  cases hu : x.toModel.unpack with
  | notANumber => rw [hu] at hrounded; cases hrounded
  | infinity s => rw [hu] at hrounded; cases hrounded
  | zero s =>
    obtain ⟨hsign, hexponent, hfraction⟩ := fields_of_unpack.1 hu
    obtain ⟨hsign', hexponent', hfraction'⟩ := fields_of_unpack.1 (h.symm.trans hu)
    exact hword (hsign.trans hsign'.symm) (hexponent.trans hexponent'.symm)
      (hfraction.trans hfraction'.symm)
  | finite s m e hpos =>
    obtain ⟨hsign, hfields⟩ := fields_of_unpack.2 hu
    obtain ⟨hsign', hfields'⟩ := fields_of_unpack.2 (h.symm.trans hu)
    have hbound := (fractionField x.toModel).isLt
    have hbound' := (fractionField y.toModel).isLt
    exact hword (hsign.trans hsign'.symm) (by omega) (by omega)

/-- **A finite double is packed as it was unpacked.** -/
theorem pack_unpack (hx : Scalar.isFinite x = true) : Float.ofModel (.pack x.toModel.unpack) = x :=
  (eq_of_unpack_eq hx
    (unpack_pack_of_size_le (isRounded_unpack hx) (magnitude_le_greatest x)).symm).symm

end

/-! ## 4.  Results that are not rounded -/

/-- Whether a distance from zero is written canonically.  It is that of a double if it is not too
large. -/
def IsExact (q : ℚ) : Prop := ∃ m e, IsCanonical m e ∧ scaled m e = q

theorem isExact_zero : IsExact 0 := ⟨0, -1074, ⟨by norm_num, le_rfl, .inr rfl⟩, by simp [scaled]⟩

theorem isExact_size {a : UnpackedFloat} (ha : IsRounded a) : IsExact (size a) := by
  cases a with
  | notANumber => cases ha
  | infinity s => cases ha
  | zero s => exact isExact_zero
  | finite s m e hpos => exact ⟨m, e, ha, rfl⟩

/-- **A neighbour of a double is that double.** -/
theorem Neighbours.size_eq {u : UnpackedFloat} {q : ℚ} (h : Neighbours u q) (hq : IsExact q) :
    size u = q := by
  obtain ⟨m, e, hcanonical, rfl⟩ := hq
  exact le_antisymm (h.size_le hcanonical le_rfl) (h.le_size hcanonical le_rfl)

/-- Whether a double is finite, with a sign and a distance from zero. -/
structure IsNumber (s : Sign) (q : ℚ) (x : Float) : Prop where
  isFinite : Scalar.isFinite x = true
  hasSign : HasSign s x.toModel.unpack
  magnitude_eq : magnitude x = q

section

variable {s : Sign} {q r : ℚ} {x y : Float}

theorem exists_isNumber (hx : Scalar.isFinite x = true) : ∃ s, IsNumber s (magnitude x) x :=
  (exists_hasSign x.toModel.unpack).imp fun _ hs => ⟨hx, hs, rfl⟩

/-- **There is one double with a sign and a distance from zero.** -/
theorem IsNumber.eq (hx : IsNumber s q x) (hy : IsNumber s q y) : x = y := by
  refine eq_of_unpack_eq hx.isFinite ?_
  have hwritten := isRounded_unpack hx.isFinite
  have hwritten' := isRounded_unpack hy.isFinite
  have hsize : size x.toModel.unpack = size y.toModel.unpack :=
    hx.magnitude_eq.trans hy.magnitude_eq.symm
  have hsign := hx.hasSign
  have hsign' := hy.hasSign
  revert hwritten hwritten' hsize hsign hsign'
  cases x.toModel.unpack <;> cases y.toModel.unpack
  case zero.zero => rintro - - - rfl rfl; rfl
  case zero.finite s' n f hpos => exact fun _ _ h => absurd h (scaled_pos hpos f).ne
  case finite.zero s m e hpos s' => exact fun _ _ h => absurd h (scaled_pos hpos e).ne'
  case finite.finite s m e hpos s' n f hpos' =>
    intro hwritten hwritten' hsize
    obtain ⟨rfl, rfl⟩ := IsCanonical.eq_of_scaled_eq hwritten hwritten' hsize
    rintro rfl rfl
    rfl
  all_goals
    intro hwritten hwritten'
    first
    | exact False.elim hwritten
    | exact False.elim hwritten'

/-- What comes out of rounding a double is that double. -/
theorem IsNumber.of_pack {u : UnpackedFloat} (hsign : HasSign s u) (h : Neighbours u q)
    (hq : IsExact q) (hle : q ≤ 2 ^ (1023 : ℤ)) : IsNumber s q (Float.ofModel (.pack u)) := by
  obtain ⟨hwithin, hunpack⟩ := h.pack hle (by norm_num) le_rfl
  refine ⟨hwithin.isFinite, ?_, ?_⟩
  · show HasSign s (Float.Model.pack u).unpack
    rwa [hunpack]
  · show size (Float.Model.pack u).unpack = q
    rw [hunpack, h.size_eq hq]

/-- **A sum of doubles of one sign is exact** if there is a double for it. -/
theorem IsNumber.add (hx : IsNumber s q x) (hy : IsNumber s r y) (hexact : IsExact (q + r))
    (hle : q + r ≤ 2 ^ (1023 : ℤ)) : IsNumber s (q + r) (x + y) := by
  have hround := neighbours_add (isRounded_unpack hx.isFinite) (isRounded_unpack hy.isFinite)
  have hsum : |value x.toModel.unpack + value y.toModel.unpack| = q + r := by
    rw [← hx.magnitude_eq, ← hy.magnitude_eq, hx.hasSign.value_eq, hy.hasSign.value_eq]
    have hnonneg := add_nonneg (size_nonneg x.toModel.unpack) (size_nonneg y.toModel.unpack)
    cases s
    · rw [← neg_add, abs_neg]
      exact abs_of_nonneg hnonneg
    · exact abs_of_nonneg hnonneg
  rw [hsum] at hround
  exact .of_pack (hx.hasSign.add hy.hasSign (isRounded_unpack hx.isFinite)
    (isRounded_unpack hy.isFinite)) hround hexact hle

/-- **A quotient by a positive double is exact** if there is a double for it. -/
theorem IsNumber.div (hx : IsNumber s q x) (hy : IsNumber .positive r y) (hr : r ≠ 0)
    (hexact : IsExact (q / r)) (hle : q / r ≤ 2 ^ (1023 : ℤ)) : IsNumber s (q / r) (x / y) := by
  have hrx := isRounded_unpack hx.isFinite
  have hry := isRounded_unpack hy.isFinite
  have hne : size y.toModel.unpack ≠ 0 := hy.magnitude_eq.trans_ne hr
  have hround := neighbours_div hrx hry hne
  rw [show size x.toModel.unpack / size y.toModel.unpack = q / r by
    rw [← hx.magnitude_eq, ← hy.magnitude_eq]; rfl] at hround
  exact .of_pack (hx.hasSign.div hy.hasSign hrx hry hne) hround hexact hle

theorem HasNoSign.hasSign {x : Float} (h : HasNoSign x) : HasSign .positive x.toModel.unpack := by
  rw [HasNoSign] at h
  revert h
  cases x.toModel.unpack <;> exact id

theorem isNumber_ofNat {k : ℕ} (hlt : k < 2 ^ 53) : IsNumber .positive k (Scalar.ofNat k) := by
  obtain ⟨hfinite, hmagnitude⟩ := magnitude_ofNat hlt
  exact ⟨hfinite, (hasNoSign_ofNat k).hasSign, hmagnitude⟩

/-- **The start of a sum leaves no trace.** -/
theorem negativeZero_add (hx : Scalar.isFinite x = true) : -0.0 + x = x := by
  have hrounded := isRounded_unpack hx
  have hadd : UnpackedFloat.add Format.binary64 (.zero .negative) x.toModel.unpack =
      x.toModel.unpack := by
    cases hu : x.toModel.unpack with
    | zero s => cases s <;> rfl
    | finite s m e hpos => rfl
    | _ => rw [hu] at hrounded; cases hrounded
  show Float.ofModel (.pack (UnpackedFloat.add Format.binary64 (-0.0 : Float).toModel.unpack
    x.toModel.unpack)) = x
  rw [show (-0.0 : Float).toModel.unpack = .zero .negative by rfl, hadd, pack_unpack hx]

/-- **A double added up several times is its multiple** if there are doubles for all multiples on
the way. -/
theorem IsNumber.sum_replicate (hx : IsNumber s q x) {n : ℕ} (hn : n ≠ 0)
    (hexact : ∀ k ≤ n, IsExact (k * q)) (hle : n * q ≤ 2 ^ (1023 : ℤ)) :
    IsNumber s (n * q) (Scalar.sum (List.replicate n x)) := by
  have hq : 0 ≤ q := hx.magnitude_eq ▸ size_nonneg _
  induction n with
  | zero => exact absurd rfl hn
  | succ n ih =>
    by_cases hzero : n = 0
    · subst hzero
      rw [show Scalar.sum (List.replicate (0 + 1) x) = -0.0 + x from rfl,
        negativeZero_add hx.isFinite]
      simpa using hx
    · -- The last copy is added to the sum of the others, which is exact already.
      have hstep : ((n + 1 : ℕ) : ℚ) * q = n * q + q := by push_cast; ring
      have hsum := ih hzero (fun k hk => hexact k (by omega)) (by linarith)
      rw [Scalar.sum, List.replicate_succ', List.foldl_append]
      rw [hstep] at hle ⊢
      exact hsum.add hx (hstep ▸ hexact (n + 1) le_rfl) hle

end

/-! ## 5.  Differences -/

/-- Every double is a multiple of the least one. -/
theorem exists_int_value {a : UnpackedFloat} (ha : IsRounded a) :
    ∃ z : ℤ, value a = z * 2 ^ (-1074 : ℤ) := by
  cases a with
  | notANumber => cases ha
  | infinity s => cases ha
  | zero s => exact ⟨0, by simp [value]⟩
  | finite s m e hpos =>
    have hle : (-1074 : ℤ) ≤ e := ha.le
    exact ⟨_, (apply_decreaseExponent s hpos hle).symm⟩

theorem Neighbours.least_le_size {u : UnpackedFloat} {v : ℚ} (h : Neighbours u v)
    (hv : 2 ^ (-1074 : ℤ) ≤ v) : 2 ^ (-1074 : ℤ) ≤ size u := by
  have hleast : scaled 1 (-1074) = 2 ^ (-1074 : ℤ) := by simp [scaled]
  exact hleast ▸ h.le_size ⟨by norm_num, le_rfl, .inr rfl⟩ (hleast.trans_le hv)

/-- Different doubles are at least the least double apart. -/
theorem le_abs_sub {a b : UnpackedFloat} (ha : IsRounded a) (hb : IsRounded b)
    (hne : value a ≠ value b) : 2 ^ (-1074 : ℤ) ≤ |value a - value b| := by
  obtain ⟨z, hz⟩ := exists_int_value ha
  obtain ⟨w, hw⟩ := exists_int_value hb
  have hzw : z ≠ w := by
    rintro rfl
    exact hne (hz.trans hw.symm)
  have hone : (1 : ℚ) ≤ |(z : ℚ) - w| := by
    have : 1 ≤ |z - w| := Int.one_le_abs (sub_ne_zero.2 hzw)
    exact_mod_cast this
  have hpos : (0 : ℚ) < 2 ^ (-1074 : ℤ) := by positivity
  rw [hz, hw, ← sub_mul, abs_mul, abs_of_pos hpos]
  exact le_mul_of_one_le_left hpos.le hone

section

variable {p : ℤ} {x y : Float}

/-- **A difference is bounded by the sum of the bounds.** -/
theorem IsWithin.sub (hx : IsWithin p x) (hy : IsWithin p y) (hp : -1023 ≤ p) (hp' : p ≤ 1022) :
    IsWithin (p + 1) (x - y) ∧
      Neighbours (x - y).toModel.unpack |value x.toModel.unpack - value y.toModel.unpack| := by
  have hround := neighbours_sub (isRounded_unpack hx.isFinite) (isRounded_unpack hy.isFinite)
  have hle : |value x.toModel.unpack - value y.toModel.unpack| ≤ 2 ^ (p + 1) :=
    calc |value x.toModel.unpack - value y.toModel.unpack|
        ≤ |value x.toModel.unpack| + |value y.toModel.unpack| := abs_sub _ _
      _ = magnitude x + magnitude y := by rw [abs_value, abs_value]; rfl
      _ ≤ 2 ^ p + 2 ^ p := add_le_add hx.magnitude_le hy.magnitude_le
      _ = 2 ^ (p + 1) := by rw [zpow_add_one₀ (by norm_num)]; ring
  obtain ⟨hwithin, hunpack⟩ := hround.pack hle (by omega) (by omega)
  exact ⟨hwithin, hunpack.symm ▸ hround⟩

/-- A quotient that is neither too small nor too large is not zero. -/
theorem magnitude_div_ne_zero (hx : Scalar.isFinite x = true) (hy : Scalar.isFinite y = true)
    (hne : magnitude y ≠ 0) (hleast : 2 ^ (-1074 : ℤ) ≤ magnitude x / magnitude y)
    (hle : magnitude x / magnitude y ≤ 2 ^ (1023 : ℤ)) : magnitude (x / y) ≠ 0 := by
  have hround := neighbours_div (isRounded_unpack hx) (isRounded_unpack hy) hne
  have hunpack := (hround.pack hle (by norm_num) le_rfl).2
  have hpos : (0 : ℚ) < 2 ^ (-1074 : ℤ) := by positivity
  show size (Float.Model.pack _).unpack ≠ 0
  rw [hunpack]
  exact (hpos.trans_le (hround.least_le_size hleast)).ne'

theorem eq_of_value_eq (hx : Scalar.isFinite x = true) (hy : Scalar.isFinite y = true)
    (hne : magnitude x ≠ 0) (h : value x.toModel.unpack = value y.toModel.unpack) : x = y := by
  obtain ⟨s, hs⟩ := exists_isNumber hx
  obtain ⟨s', hs'⟩ := exists_isNumber hy
  have hsize : magnitude x = magnitude y :=
    calc magnitude x = |value x.toModel.unpack| := (abs_value _).symm
      _ = |value y.toModel.unpack| := by rw [h]
      _ = magnitude y := abs_value _
  have hpos : 0 < magnitude x := lt_of_le_of_ne (size_nonneg _) hne.symm
  have hsign : s = s' := by
    rw [hs.hasSign.value_eq, hs'.hasSign.value_eq] at h
    change 0 < size x.toModel.unpack at hpos
    change size x.toModel.unpack = size y.toModel.unpack at hsize
    cases s <;> cases s' <;> first | rfl | linarith
  subst hsign
  exact hs.eq (hsize ▸ hs')

theorem sub_self_of_isFinite (hx : Scalar.isFinite x = true) : x - x = 0.0 := by
  have hrounded := isRounded_unpack hx
  have hsub : UnpackedFloat.sub Format.binary64 x.toModel.unpack x.toModel.unpack =
      .zero .positive := by
    cases hu : x.toModel.unpack with
    | zero s => cases s <;> rfl
    | finite s m e hpos => simp [UnpackedFloat.sub, UnpackedFloat.normalize]
    | _ => rw [hu] at hrounded; cases hrounded
  show Float.ofModel (.pack (UnpackedFloat.sub Format.binary64 x.toModel.unpack
    x.toModel.unpack)) = 0.0
  rw [hsub]
  rfl

theorem add_zero_of_hasNoSign (hx : Scalar.isFinite x = true) (hsign : HasNoSign x) :
    x + 0.0 = x := by
  have hrounded := isRounded_unpack hx
  have hadd : UnpackedFloat.add Format.binary64 x.toModel.unpack (.zero .positive) =
      x.toModel.unpack := by
    rw [HasNoSign] at hsign
    revert hsign
    cases hu : x.toModel.unpack with
    | zero s => rintro rfl; rfl
    | finite s m e hpos => exact fun _ => rfl
    | _ => rw [hu] at hrounded; cases hrounded
  show Float.ofModel (.pack (UnpackedFloat.add Format.binary64 x.toModel.unpack
    (0.0 : Float).toModel.unpack)) = x
  rw [show (0.0 : Float).toModel.unpack = .zero .positive by rfl, hadd, pack_unpack hx]

/-- What is not below zero has no sign, unless it is the zero with one. -/
theorem hasNoSign_or_eq_negativeZero (hx : Scalar.isFinite x = true)
    (hle : Scalar.atMost 0.0 x = true) : HasNoSign x ∨ x = -0.0 := by
  obtain ⟨-, -, hlevel⟩ := atMost_iff.1 hle
  have hzero : level 0.0 = ((0 : WithTop ℚ) : WithBot (WithTop ℚ)) := by
    rw [level, show (0.0 : Float).toModel.unpack = .zero .positive by rfl]
    rfl
  rw [hzero, level, place_of_isFinite hx] at hlevel
  have hvalue : 0 ≤ value x.toModel.unpack := by exact_mod_cast hlevel
  have hrounded := isRounded_unpack hx
  rw [HasNoSign]
  cases hu : x.toModel.unpack with
  | zero s =>
    cases s with
    | positive => exact .inl rfl
    | negative => exact .inr (eq_of_unpack_eq hx (hu.trans (by rfl)))
  | finite s m e hpos =>
    rw [hu] at hvalue
    cases s with
    | positive => exact .inl rfl
    | negative => exact absurd hvalue (not_le.2 (neg_lt_zero.2 (scaled_pos hpos e)))
  | _ => rw [hu] at hrounded; cases hrounded

end

end Binary64
end FleetScore
