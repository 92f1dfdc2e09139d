import FleetScore.Proofs.Numeric.Nonnegative
import FleetScore.Proofs.Numeric.Signs
import FleetScore.Proofs.Training.Standardised

/-!
# Features that never vary

A feature that has one value in every row has that value as its mean, no deviation, and the scale
one --- on paper.  In doubles the mean is a rounded sum, divided, and it need not be the value
again: three times `2.7` is rounded, and a third of it is the double above `2.7` (`threes`).

Everything else hangs on that one question.  If the mean is the value, all distances from it are
zero, the scale is one, and the feature is zero in every row that is standardised.  If it is not, no
row is: the distance is not zero, as no difference of different doubles is, and what it is divided
by is either one or a deviation that is hardly larger than the distance itself
(`isWithin_deviation`).  Both are said by `Scaler.constant_column`, and also when the mean is the
value: when the multiples of the value, up to the number of rows, are doubles.
-/

namespace FleetScore

open Binary64

/-! ## 1.  The mean of copies -/

/-- The mean of a number of copies. -/
def meanOfCopies (n : ℕ) (x : Float) : Float :=
  Scalar.sum (List.replicate n x) / Scalar.ofNat n

section

variable {n : ℕ} {x : Float} {p : ℤ}

/-- **The mean of copies is what was copied** if there are doubles for its multiples. -/
theorem meanOfCopies_eq (hn : n ≠ 0) (hcount : n < 2 ^ 53) (hx : IsWithin 53 x)
    (hexact : ∀ k ≤ n, IsExact (k * magnitude x)) : meanOfCopies n x = x := by
  obtain ⟨s, hs⟩ := exists_isNumber hx.isFinite
  have hne : (n : ℚ) ≠ 0 := by exact_mod_cast hn
  have hlarge : (n : ℚ) * magnitude x ≤ 2 ^ (1023 : ℤ) :=
    calc (n : ℚ) * magnitude x ≤ 2 ^ (53 : ℤ) * 2 ^ (53 : ℤ) :=
          mul_le_mul (by exact_mod_cast hcount.le) hx.magnitude_le (size_nonneg _) (by positivity)
      _ = 2 ^ (53 + 53 : ℤ) := (zpow_add₀ (by norm_num) _ _).symm
      _ ≤ 2 ^ (1023 : ℤ) := zpow_le_zpow_right₀ (by norm_num) (by norm_num)
  have hone : magnitude x ≤ 2 ^ (1023 : ℤ) :=
    (hx.mono (by norm_num)).magnitude_le
  have hquotient : (n : ℚ) * magnitude x / n = magnitude x := mul_div_cancel_left₀ _ hne
  have hsum := hs.sum_replicate hn hexact hlarge
  have hmean := hsum.div (isNumber_ofNat hcount) hne
    (by rw [hquotient]; exact isExact_size (isRounded_unpack hx.isFinite)) (hquotient.trans_le hone)
  rw [hquotient] at hmean
  exact hmean.eq hs

theorem isWithin_meanOfCopies (hn : n ≠ 0) (hcount : n < 2 ^ 53) (hx : IsWithin p x)
    (hp : -1076 ≤ p) (hp' : p ≤ 969) : IsWithin (p + 54) (meanOfCopies n x) := by
  have hbound : (n : ℚ) ≤ 2 ^ (53 : ℤ) := by exact_mod_cast hcount.le
  refine (IsWithin.sum (fun y hy => ?_) hp hp').div (isNumber_ofNat hcount).isFinite
    (one_le_ofNat hn hbound (by norm_num) (by norm_num)) (by omega) (by omega)
  rwa [List.eq_of_mem_replicate hy]

/-- The deviation of copies from a distance. -/
def deviationOfCopies (n : ℕ) (distance : Float) : Float :=
  Scalar.sqrt (meanOfCopies n (Scalar.square distance))

/-- **A deviation is not much larger than the distance.** -/
theorem isWithin_deviation (hn : n ≠ 0) (hcount : n < 2 ^ 53) (hx : IsWithin p x)
    (hp : -511 ≤ p) (hp' : p ≤ 484) : IsWithin (p + 28) (deviationOfCopies n x) := by
  have hbound : (n : ℚ) ≤ 2 ^ (53 : ℤ) := by exact_mod_cast hcount.le
  have hmean := isWithin_meanOfCopies hn hcount (hx.mul hx (by omega) (by omega)) (by omega)
    (by omega)
  have hsquare : IsNonnegative (Scalar.square x) :=
    isNonnegative_square (isNaN_of_isFinite hx.isFinite)
  have hsum : IsNonnegative (Scalar.sum (List.replicate n (Scalar.square x))) :=
    isNonnegative_sum (by simpa using hn) fun y hy => by rwa [List.eq_of_mem_replicate hy]
  have hsign : HasNoSign (meanOfCopies n (Scalar.square x)) :=
    (hsum.div (hasNoSign_ofNat n) (isNumber_ofNat hcount).isFinite
      (one_le_ofNat hn hbound (by norm_num) (by norm_num))).hasNoSign
  rw [show p + p + 54 = 2 * (p + 27) by ring] at hmean
  have hroot := hmean.sqrt hsign (by omega) (by omega)
  rwa [show p + 27 + 1 = p + 28 by ring] at hroot

end

/-! ## 2.  A constant column -/

namespace Scaler

section

variable {n : ℕ} {v : Float}

theorem columnMoments_replicate :
    columnMoments (List.replicate n v) =
      (meanOfCopies n v, deviationOfCopies n (v - meanOfCopies n v)) := by
  simp [columnMoments, meanOfCopies, deviationOfCopies]

theorem deviationOfCopies_zero (hn : n ≠ 0) (hcount : n < 2 ^ 53) :
    deviationOfCopies n 0.0 = 0.0 := by
  have hmagnitude : magnitude 0.0 = 0 := by rfl
  have hmean : meanOfCopies n 0.0 = 0.0 :=
    meanOfCopies_eq hn hcount (isWithin_zero 53) fun k _ => by
      rw [hmagnitude, mul_zero]
      exact isExact_zero
  have hsquare : Scalar.square (0.0 : Float) = 0.0 := by rfl
  rw [deviationOfCopies, hsquare, hmean]
  rfl

theorem scaleOf_zero : scaleOf (0.0 : Float) = 1.0 := by rfl

theorem level_threshold :
    level (threshold : Float) = (((2 ^ (-52 : ℤ) : ℚ) : WithTop ℚ) : WithBot (WithTop ℚ)) := by
  have hunpack : (threshold : Float).toModel.unpack =
      .finite .positive (2 ^ 52) (-104) (by decide) := by rfl
  have hvalue : scaled (2 ^ 52) (-104) = 2 ^ (-52 : ℤ) := by rw [scaled_two_pow]; norm_num
  rw [level, hunpack, place_of_isFinite rfl, value, hvalue]

theorem lt_magnitude_of_less {deviation : Float} (hfinite : Scalar.isFinite deviation = true)
    (h : Scalar.less threshold deviation = true) : 2 ^ (-52 : ℤ) < magnitude deviation := by
  obtain ⟨-, -, hlt⟩ := less_iff.1 h
  rw [level_threshold, level, place_of_isFinite hfinite, WithBot.coe_lt_coe, WithTop.coe_lt_coe]
    at hlt
  exact hlt.trans_le ((le_abs_self _).trans_eq (abs_value _))

/-- A distance that is not zero is not zero in units of its deviation, nor where that is too small
to be one. -/
theorem magnitude_div_scaleOf_ne_zero {d : Float} (hn : n ≠ 0) (hcount : n < 2 ^ 53)
    (hdistance : IsWithin 108 d) (hleast : 2 ^ (-1074 : ℤ) ≤ magnitude d) :
    magnitude (d / scaleOf (deviationOfCopies n d)) ≠ 0 := by
  rw [scaleOf]
  split
  · rename_i hless
    have hdeviation : IsWithin 136 (deviationOfCopies n d) :=
      isWithin_deviation hn hcount hdistance (by norm_num) (by norm_num)
    have hlarge := lt_magnitude_of_less hdeviation.isFinite hless
    have hpositive : 0 < magnitude (deviationOfCopies n d) :=
      (by positivity : (0 : ℚ) < _).trans hlarge
    -- The distance is not tiny, or its deviation would be, and one would be divided by instead.
    have hsmall : 2 ^ (-400 : ℤ) < magnitude d := by
      by_contra hle
      have htiny := isWithin_deviation hn hcount (p := -400) ⟨hdistance.isFinite, not_lt.1 hle⟩
        (by norm_num) (by norm_num)
      exact absurd (hlarge.trans_le htiny.magnitude_le)
        (zpow_le_zpow_right₀ (by norm_num) (by norm_num)).not_gt
    refine magnitude_div_ne_zero hdistance.isFinite hdeviation.isFinite hpositive.ne' ?_ ?_
    · rw [le_div_iff₀ hpositive]
      calc 2 ^ (-1074 : ℤ) * magnitude (deviationOfCopies n d)
          ≤ 2 ^ (-1074 : ℤ) * 2 ^ (136 : ℤ) :=
            mul_le_mul_of_nonneg_left hdeviation.magnitude_le (by positivity)
        _ = 2 ^ (-1074 + 136 : ℤ) := (zpow_add₀ (by norm_num) _ _).symm
        _ ≤ 2 ^ (-400 : ℤ) := zpow_le_zpow_right₀ (by norm_num) (by norm_num)
        _ ≤ magnitude d := hsmall.le
    · rw [div_le_iff₀ hpositive]
      calc magnitude d ≤ 2 ^ (108 : ℤ) := hdistance.magnitude_le
        _ ≤ 2 ^ (1023 + -52 : ℤ) := zpow_le_zpow_right₀ (by norm_num) (by norm_num)
        _ = 2 ^ (1023 : ℤ) * 2 ^ (-52 : ℤ) := zpow_add₀ (by norm_num) _ _
        _ ≤ 2 ^ (1023 : ℤ) * magnitude (deviationOfCopies n d) :=
            mul_le_mul_of_nonneg_left hlarge.le (by positivity)
  · have hone : magnitude (1.0 : Float) = 1 := by
      rw [magnitude, show (1.0 : Float).toModel.unpack =
        .finite .positive (2 ^ 52) (-52) (by decide) by rfl]
      norm_num [size, scaled]
    refine magnitude_div_ne_zero hdistance.isFinite (by decide +kernel) ?_ ?_ ?_
    · rw [hone]
      exact one_ne_zero
    · rwa [hone, div_one]
    · rw [hone, div_one]
      exact (hdistance.mono (by norm_num)).magnitude_le

/-- **Where the mean of a constant column is not its value, no value becomes zero.** -/
theorem magnitude_standardised_ne_zero (hn : n ≠ 0) (hcount : n < 2 ^ 53) (hv : IsWithin 53 v)
    (hne : meanOfCopies n v ≠ v) :
    magnitude ((v - meanOfCopies n v) /
      scaleOf (deviationOfCopies n (v - meanOfCopies n v))) ≠ 0 := by
  have hmean := isWithin_meanOfCopies hn hcount hv (by norm_num) (by norm_num)
  have hvalue : value v.toModel.unpack ≠ value (meanOfCopies n v).toModel.unpack := by
    intro heq
    -- Zeros have one value and two signs; but the mean of copies of a zero is that zero.
    by_cases hzero : magnitude v = 0
    · refine hne (meanOfCopies_eq hn hcount hv fun k _ => ?_)
      rw [hzero, mul_zero]
      exact isExact_zero
    · exact hne (eq_of_value_eq hv.isFinite hmean.isFinite hzero heq).symm
  obtain ⟨hdistance, hround⟩ := (hv.mono (show (53 : ℤ) ≤ 53 + 54 by norm_num)).sub hmean
    (by norm_num) (by norm_num)
  refine magnitude_div_scaleOf_ne_zero hn hcount (hdistance.mono (by norm_num)) ?_
  exact hround.least_le_size
    (le_abs_sub (isRounded_unpack hv.isFinite) (isRounded_unpack hmean.isFinite) hvalue)

/-- Where it is the value, there is no deviation, and every value becomes zero. -/
theorem standardised_eq_zero (hn : n ≠ 0) (hcount : n < 2 ^ 53)
    (hfinite : Scalar.isFinite v = true) (hmean : meanOfCopies n v = v) :
    scaleOf (deviationOfCopies n (v - meanOfCopies n v)) = 1.0 ∧
      (v - meanOfCopies n v) / (1.0 : Float) = 0.0 := by
  rw [hmean, sub_self_of_isFinite hfinite, deviationOfCopies_zero hn hcount]
  exact ⟨scaleOf_zero, by rfl⟩

end

/-! ## 3.  The scaler -/

section

variable {rows : List (FeatureRow Float)} {i : Fin 6} {v : Float}

/-- **A feature with one value in every row has scale one, and is zero in every row, exactly if the
mean of its column is the value.**

If it is not, the feature is zero in no row.  It is, if there are doubles for the multiples of the
value up to the number of rows. -/
theorem constant_column (hne : rows ≠ []) (hcount : rows.length < 2 ^ 53)
    (hfinite : Scalar.isFinite v = true) (hbound : magnitude v < 2 ^ 53)
    (hconstant : ∀ row ∈ rows, row.get i = v) :
    ∃ mean scale, (fit rows).mean[i.val]? = some mean ∧ (fit rows).scale[i.val]? = some scale ∧
      (mean = v → scale = 1.0 ∧ ∀ row ∈ rows, ((fit rows).transform row).get i = 0.0) ∧
      (mean ≠ v → ∀ row ∈ rows, magnitude (((fit rows).transform row).get i) ≠ 0) ∧
      ((∀ k ≤ rows.length, IsExact (k * magnitude v)) → mean = v) := by
  have hn : rows.length ≠ 0 := List.length_eq_zero_iff.not.2 hne
  have hv : IsWithin 53 v := ⟨hfinite, by exact_mod_cast hbound.le⟩
  obtain ⟨hmean, hscale⟩ := fit_getElem? hne i
  rw [column_eq_replicate hconstant, columnMoments_replicate] at hmean hscale
  have htransform : ∀ row ∈ rows, ((fit rows).transform row).get i =
      (v - meanOfCopies rows.length v) /
        scaleOf (deviationOfCopies rows.length (v - meanOfCopies rows.length v)) := by
    intro row hrow
    rw [transform_get row hmean hscale, hconstant row hrow]
  refine ⟨_, _, hmean, hscale, fun heq => ?_, fun hdiffers row hrow => ?_, fun hexact => ?_⟩
  · obtain ⟨hone, hzero⟩ := standardised_eq_zero hn hcount hfinite heq
    refine ⟨hone, fun row hrow => ?_⟩
    rw [htransform row hrow, hone, hzero]
  · rw [htransform row hrow]
    exact magnitude_standardised_ne_zero hn hcount hv hdiffers
  · exact meanOfCopies_eq hn hcount hv hexact

end

/-! ### Three rows of one value -/

/-- Three rows in which all features have one value. -/
def threes (v : Float) : List (FeatureRow Float) := List.replicate 3 (Vector.replicate 6 v)

theorem threes_constant (v : Float) (i : Fin 6) : ∀ row ∈ threes v, row.get i = v := by
  intro row hrow
  rw [List.eq_of_mem_replicate hrow]
  simp

/-- Of `2.7` the mean is another double, the scale is not one, and no row becomes zero; of `7` it is
the value, as the multiples of an integer are integers. -/
theorem constant_column_threes :
    (∃ mean scale, (fit (threes 2.7)).mean[0]? = some mean ∧
      (fit (threes 2.7)).scale[0]? = some scale ∧ mean.toBits = 0x400599999999999b ∧
      scale.toBits = 0x3cc0000000000000 ∧
      ∀ row ∈ threes 2.7, magnitude (((fit (threes 2.7)).transform row).get 0) ≠ 0) ∧
    (fit (threes 7.0)).scale[0]? = some 1.0 ∧
      ∀ row ∈ threes 7.0, ((fit (threes 7.0)).transform row).get 0 = 0.0 := by
  have hfraction : magnitude (2.7 : Float) < 2 ^ 53 := by
    rw [magnitude, show (2.7 : Float).toModel.unpack =
      .finite .positive 0x1599999999999a (-51) (by decide) by rfl]
    norm_num [size, scaled]
  have hinteger : magnitude (7.0 : Float) = (7 : ℕ) := by
    rw [magnitude, show (7.0 : Float).toModel.unpack =
      .finite .positive (7 * 2 ^ 50) (-50) (by decide) by rfl]
    norm_num [size, scaled]
  constructor
  · obtain ⟨mean, scale, hmean, hscale, -, hdiffers, -⟩ := constant_column (i := 0)
      (List.cons_ne_nil _ _) (by decide) (by decide +kernel) hfraction (threes_constant 2.7 0)
    have hmeanBits : (fit (threes 2.7)).mean[0]?.map Float.toBits = some 0x400599999999999b := by
      decide +kernel
    have hscaleBits : (fit (threes 2.7)).scale[0]?.map Float.toBits = some 0x3cc0000000000000 := by
      decide +kernel
    change (fit (threes 2.7)).mean[0]? = some mean at hmean
    change (fit (threes 2.7)).scale[0]? = some scale at hscale
    rw [hmean] at hmeanBits
    rw [hscale] at hscaleBits
    refine ⟨mean, scale, hmean, hscale, Option.some.inj hmeanBits, Option.some.inj hscaleBits,
      hdiffers ?_⟩
    rintro rfl
    exact absurd (Option.some.inj hmeanBits) (by decide +kernel)
  · obtain ⟨mean, scale, -, hscale, hequal, -, hexact⟩ := constant_column (i := 0)
      (List.cons_ne_nil _ _) (by decide) (by decide +kernel) (by rw [hinteger]; norm_num)
      (threes_constant 7.0 0)
    obtain ⟨rfl, hzero⟩ := hequal (hexact fun k hk => by
      change k ≤ 3 at hk
      rw [hinteger, ← Nat.cast_mul]
      exact exists_isCanonical (by omega))
    exact ⟨hscale, hzero⟩

end Scaler
end FleetScore
