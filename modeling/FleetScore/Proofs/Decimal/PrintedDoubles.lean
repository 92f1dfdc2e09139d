import FleetScore.Decimal.Layout
import FleetScore.Decimal.Reading
import FleetScore.Proofs.Decimal.NumeralText
import FleetScore.Proofs.Decimal.ShortestDigits
import FleetScore.Proofs.Numeric.Finiteness

/-!
# Doubles that are printed can be read

The quick reading refuses numerals that are too large for a double, and it rounds more than once on
its way.  A double close to the greatest one might be printed as a numeral that the quick reading
then takes for too large.  It never is (`isSome_toFloat?_numeral`).

## Where the danger is

A numeral with a negative power of ten is never refused, for it is divided, and one in positional
notation is short.  That leaves the digits `s` of a numeral in scientific notation with a power
`10 ^ k`, `k` from `0` to `308`.  The product `s · 10 ^ k` is not above the upper end of a rounding
interval, so for each `k` there is a greatest `s` that can occur, `reach k`.  The double nearest to
`s` is not above a double that is not below `reach k`, the double nearest to `10 ^ k` is not above
one that is not below `10 ^ k`, and the product of the two is not above the greatest double
(`fits_of_le`).  This is computed, for all 309 powers.

The greatest double itself has an upper end beyond all doubles, and is read by itself.
-/

namespace FleetScore
namespace Decimal
namespace Numeral

open Float.Model Float.Model.UnpackedFloat Binary64

/-! ## 1.  Gathering -/

/-- The number that digits spell behind those of another number. -/
def spell (ds : List Char) (m : ℕ) : ℕ := ds.foldl (fun n c => 10 * n + digitValue c) m

theorem le_spell (ds : List Char) (m : ℕ) : m ≤ spell ds m := by
  induction ds generalizing m with
  | nil => exact le_rfl
  | cons c ds ih =>
    calc m ≤ 10 * m + digitValue c := by omega
      _ ≤ spell ds (10 * m + digitValue c) := ih _

theorem digitValue_le_of_isDigit {c : Char} (h : c.isDigit = true) : digitValue c ≤ 9 := by
  have hrange := Char.isDigit_iff_toNat.1 h
  have hzero : '0'.toNat = 48 := rfl
  have hnine : '9'.toNat = 57 := rfl
  simp only [digitValue]
  omega

theorem spell_lt {ds : List Char} (h : ∀ c ∈ ds, c.isDigit = true) (m : ℕ) :
    spell ds m < (m + 1) * 10 ^ ds.length := by
  induction ds generalizing m with
  | nil => simp [spell]
  | cons c ds ih =>
    have hc := digitValue_le_of_isDigit (h c List.mem_cons_self)
    calc spell ds (10 * m + digitValue c)
        < (10 * m + digitValue c + 1) * 10 ^ ds.length :=
          ih (fun c' hc' => h c' (List.mem_cons_of_mem _ hc')) _
      _ ≤ (10 * (m + 1)) * 10 ^ ds.length := Nat.mul_le_mul_right _ (by omega)
      _ = (m + 1) * 10 ^ (c :: ds).length := by rw [List.length_cons, Nat.pow_succ]; ring

theorem gatherWhole_of_lt {ds : List Char} {m : ℕ} (h : spell ds m < significandBound) :
    gatherWhole ds m = ⟨spell ds m, 0⟩ := by
  induction ds generalizing m with
  | nil => rfl
  | cons c ds ih =>
    have hfits : 10 * m + digitValue c < significandBound := (le_spell ds _).trans_lt h
    rw [gatherWhole, if_pos hfits]
    exact ih h

theorem gatherFraction_of_lt {ds : List Char} {g : Gathered}
    (h : spell ds g.significand < significandBound) :
    gatherFraction ds g = ⟨spell ds g.significand, g.exponent - ds.length⟩ := by
  induction ds generalizing g with
  | nil => simp [gatherFraction, spell]
  | cons c ds ih =>
    have hfits : 10 * g.significand + digitValue c < significandBound := (le_spell ds _).trans_lt h
    rw [gatherFraction, if_pos hfits, @ih ⟨10 * g.significand + digitValue c, g.exponent - 1⟩ h,
      List.length_cons]
    congr 1
    push_cast
    ring

/-- Digits after the point never raise the power of ten, and what is gathered fits. -/
theorem gatherFraction_le (ds : List Char) {g : Gathered} (h : g.significand < significandBound) :
    (gatherFraction ds g).significand < significandBound ∧
      (gatherFraction ds g).exponent ≤ g.exponent := by
  induction ds generalizing g with
  | nil => exact ⟨h, le_rfl⟩
  | cons c ds ih =>
    rw [gatherFraction]
    split
    · rename_i hfits
      obtain ⟨hlt, hle⟩ := @ih ⟨10 * g.significand + digitValue c, g.exponent - 1⟩ hfits
      exact ⟨hlt, hle.trans (by show g.exponent - 1 ≤ _; omega)⟩
    · exact ⟨h, le_rfl⟩

theorem gathered_of_short {n : Numeral} (hdigits : ∀ c ∈ n.whole, c.isDigit = true)
    (hlength : n.whole.length ≤ 19) :
    n.gathered.significand < significandBound ∧ n.gathered.exponent ≤ 0 := by
  have hlt : spell n.whole 0 < significandBound :=
    calc spell n.whole 0 < (0 + 1) * 10 ^ n.whole.length := spell_lt hdigits 0
      _ ≤ (0 + 1) * 10 ^ 19 := Nat.mul_le_mul_left _ (Nat.pow_le_pow_right (by omega) hlength)
      _ ≤ significandBound := by decide
  rw [gathered, gatherWhole_of_lt hlt]
  exact gatherFraction_le _ hlt

theorem gathered_of_lt {n : Numeral} {s : ℕ} (hdigits : n.whole ++ n.fraction.getD [] = digits s)
    (hs : s < significandBound) : n.gathered = ⟨s, -((n.fraction.getD []).length : ℤ)⟩ := by
  have hspell : spell (n.fraction.getD []) (spell n.whole 0) = s := by
    have hdigits' : spell (n.whole ++ n.fraction.getD []) 0 = s := by
      rw [hdigits]
      exact ofDigits_digits s
    rwa [spell, List.foldl_append] at hdigits'
  have hwhole : spell n.whole 0 < significandBound :=
    (le_spell (n.fraction.getD []) _).trans_lt (hspell ▸ hs)
  rw [gathered, gatherWhole_of_lt hwhole, gatherFraction_of_lt (hspell ▸ hs), hspell, zero_sub]

/-! ## 2.  Scaling -/

/-- **What is divided is never too large.** -/
theorem isSome_scale?_of_neg {e : ℤ} (he : e < 0) (x : Float) : (scale? x e).isSome = true := by
  induction x, e using scale?.induct with
  | case1 x e hle hnonneg _ _ => omega
  | case2 x e hle hnonneg _ _ => omega
  | case3 x e hle hneg =>
    rw [scale?, if_pos hle, if_neg hneg]
    rfl
  | case4 x e hlarge hzero =>
    rw [scale?, if_neg hlarge, if_pos hzero]
    rfl
  | case5 x e hlarge hzero hnonneg => omega
  | case6 x e hlarge hzero hneg ih =>
    rw [scale?, if_neg hlarge, if_neg hzero, if_neg hneg]
    simp only [greatestPower] at hlarge
    exact ih (by simp only [greatestPower]; omega)

theorem isSome_scale?_of_isFinite {x : Float} {k : ℕ} (hk : k ≤ greatestPower)
    (h : Scalar.isFinite (x * power k) = true) : (scale? x k).isSome = true := by
  have hinf : (x * power k).isInf = false := by
    have hfinite : (x * power k).toModel.unpack.isFinite = true := h
    show (x * power k).toModel.unpack.isInf = false
    revert hfinite
    cases (x * power k).toModel.unpack <;> intro h <;> first | rfl | cases h
  rw [scale?, if_pos (by rwa [Int.natAbs_natCast]), if_pos (Int.natCast_nonneg k)]
  simp [hinf]

/-- The greatest number of seventeen digits whose product with `10 ^ k` is not beyond the middle
between the two greatest doubles. -/
def reach (k : ℕ) : ℕ := min (10 ^ 17) ((2 ^ 54 - 3) * 2 ^ 970 / 10 ^ k)

/-- Whether a number of one significand and exponent is not above another. -/
def scaledLe (m : ℕ) (e : ℤ) (n : ℕ) (f : ℤ) : Bool :=
  decide (m * 2 ^ (e - f).toNat ≤ n * 2 ^ (f - e).toNat)

theorem scaled_le_of_scaledLe {m n : ℕ} {e f : ℤ} (h : scaledLe m e n f = true) :
    scaled m e ≤ scaled n f := by
  have hle := of_decide_eq_true h
  obtain hef | hfe := le_total e f
  · obtain ⟨d, rfl⟩ : ∃ d : ℕ, f = e + d := ⟨(f - e).toNat, by omega⟩
    have hleft : (e - (e + d)).toNat = 0 := by omega
    have hright : (e + d - e).toNat = d := by omega
    rw [hleft, hright, pow_zero, mul_one] at hle
    rw [scaled_add]
    exact scaled_le_scaled hle e
  · obtain ⟨d, rfl⟩ : ∃ d : ℕ, e = f + d := ⟨(e - f).toNat, by omega⟩
    have hleft : (f + d - f).toNat = d := by omega
    have hright : (f - (f + d)).toNat = 0 := by omega
    rw [hleft, hright, pow_zero, mul_one] at hle
    rw [scaled_add]
    exact scaled_le_scaled hle f

/-- The least number of 53 bits that is not below a count. -/
def above (n : ℕ) : ℕ × ℤ :=
  let e := (n.log2 : ℤ) - 52
  ((n * 2 ^ (-e).toNat + 2 ^ e.toNat - 1) / 2 ^ e.toNat, e)

/-- Whether that number is a double. -/
def isAbove (n : ℕ) : Bool :=
  decide (2 ^ 52 ≤ (above n).1 ∧ (above n).1 < 2 ^ 53) &&
    decide (-1074 ≤ (above n).2 ∧ (above n).2 ≤ 971) && scaledLe n 0 (above n).1 (above n).2

theorem isAbove_spec {n : ℕ} (h : isAbove n = true) :
    IsCanonical (above n).1 (above n).2 ∧ (n : ℚ) ≤ scaled (above n).1 (above n).2 ∧
      scaled (above n).1 (above n).2 ≤ greatest := by
  simp only [isAbove, Bool.and_eq_true, decide_eq_true_eq] at h
  obtain ⟨⟨⟨hfull, hlt⟩, hleast, hexponent⟩, hle⟩ := h
  have hcanonical : IsCanonical (above n).1 (above n).2 := ⟨hlt, hleast, .inl hfull⟩
  have hscaled := scaled_le_of_scaledLe hle
  rw [scaled, zpow_zero, mul_one] at hscaled
  exact ⟨hcanonical, hscaled, scaled_le_greatest hcanonical hexponent⟩

/-- Whether the double above `reach k` times the double above `10 ^ k` is not above all doubles. -/
def fits (k : ℕ) : Bool :=
  isAbove (reach k) && isAbove (10 ^ k) &&
    scaledLe ((above (reach k)).1 * (above (10 ^ k)).1) ((above (reach k)).2 + (above (10 ^ k)).2)
      (2 ^ 53 - 1) 971

theorem fits_of_le : ∀ k < 309, fits k = true := by decide +kernel

/-- The powers of ten that are looked up in a table are not above the doubles above them. -/
theorem size_power_table : ∀ k < 23, (match (power k).toModel.unpack with
    | .finite _ m e _ => scaledLe m e (above (10 ^ k)).1 (above (10 ^ k)).2
    | _ => false) = true := by
  decide +kernel

/-- **A power of ten is read as a double that is not above the one above it.** -/
theorem size_power_le {k : ℕ} (hk : k ≤ greatestPower) (habove : isAbove (10 ^ k) = true) :
    IsRounded (power k).toModel.unpack ∧
      size (power k).toModel.unpack ≤ scaled (above (10 ^ k)).1 (above (10 ^ k)).2 := by
  obtain ⟨hcanonical, hle, hgreatest⟩ := isAbove_spec habove
  obtain htable | hlarge := Nat.lt_or_ge k 23
  · have hsmall := size_power_table k htable
    split at hsmall
    · rename_i s m e hpos hpower
      rw [hpower]
      exact ⟨(isCanonical_of_unpack hpower).1, scaled_le_of_scaledLe hsmall⟩
    · cases hsmall
  · have hneighbour := neighbours_ofScientific one_ne_zero (hk.trans (by decide) : k ≤ 2 ^ 11)
    have hexact : ((1 : ℕ) : ℚ) * 10 ^ k = (10 ^ k : ℕ) := by
      push_cast
      ring
    rw [hexact] at hneighbour
    have hsize := hneighbour.size_le hcanonical hle
    have hunpack : (power k).toModel.unpack = UnpackedFloat.ofScientific Format.binary64 1 k := by
      have hlookup : ¬ (1 < 2 ^ 53 ∧ k ≤ 22) := by omega
      unfold power
      show (Float.ofScientific 1 false k).toModel.unpack = _
      unfold Float.ofScientific
      rw [dif_neg hlookup]
      exact unpack_pack_of_size_le hneighbour.isRounded (hsize.trans hgreatest)
    rw [hunpack]
    exact ⟨hneighbour.isRounded, hsize⟩

/-- **A number that can occur before a power of ten is scaled to a double.** -/
theorem isFinite_mul_power {s k : ℕ} (hk : k ≤ greatestPower) (hs : s ≤ reach k) :
    Scalar.isFinite (Float.ofNat s * power k) = true := by
  have hfits := fits_of_le k (Nat.lt_succ_of_le hk)
  simp only [fits, Bool.and_eq_true] at hfits
  obtain ⟨⟨hreach, hpower⟩, hproduct⟩ := hfits
  obtain ⟨hcanonical, hle, -⟩ := isAbove_spec hreach
  obtain ⟨hrounded, hsize⟩ := size_power_le hk hpower
  have hfactor : IsRounded (Float.ofNat s).toModel.unpack ∧
      size (Float.ofNat s).toModel.unpack ≤ scaled (above (reach k)).1 (above (reach k)).2 := by
    by_cases hzero : s = 0
    · have hunpack : (Float.ofNat 0).toModel.unpack = .zero .positive := by rfl
      rw [hzero, hunpack]
      exact ⟨trivial, scaled_nonneg _ _⟩
    · have hcast : (s : ℚ) ≤ reach k := by exact_mod_cast hs
      have hbound : (s : ℚ) ≤ 2 ^ (57 : ℤ) := by
        have hpow : s ≤ 2 ^ 57 := (hs.trans (Nat.min_le_left _ _)).trans (by norm_num)
        exact_mod_cast hpow
      have hneighbour := (neighbours_ofNat hzero hbound (by norm_num) (by norm_num)).2
      exact ⟨hneighbour.isRounded, hneighbour.size_le hcanonical (hcast.trans hle)⟩
  have hresult := neighbours_mul hfactor.1 hrounded
  have hexact : size (Float.ofNat s).toModel.unpack * size (power k).toModel.unpack ≤
      scaled (2 ^ 53 - 1) 971 := by
    refine le_trans ?_ (scaled_le_of_scaledLe hproduct)
    rw [scaled_mul]
    exact mul_le_mul hfactor.2 hsize (size_nonneg _) (scaled_nonneg _ _)
  have hgreatest := hresult.size_le ⟨by norm_num, by norm_num, .inl (by norm_num)⟩ hexact
  exact (isFinite_pack hresult.isRounded hgreatest).1

end Numeral

/-! ## 3.  How printed numerals are spelled -/

namespace Layout

open Numeral

variable (l : Layout) (negative : Bool) {d : Digits}

theorem isDigit_zeros {k : ℕ} {c : Char} (h : c ∈ List.replicate k '0') : c.isDigit = true := by
  rw [List.eq_of_mem_replicate h]
  rfl

theorem head?_digits_append_ne {s : ℕ} (hs : s ≠ 0) (rest : List Char) :
    (digits s ++ rest).head? ≠ some '0' := by
  rw [List.head?_append_of_ne_nil _ (digits_ne_nil s)]
  exact head?_digits_ne hs

theorem isSpelled_zerosBehind {s k : ℕ} (hzero : s = 0 → k = 0) {fraction : Option (List Char)}
    (hfraction : fraction = none ∨ fraction = some ['0']) :
    (⟨negative, digits s ++ List.replicate k '0', fraction, none⟩ : Numeral).IsSpelled := by
  refine ⟨by simp [digits_ne_nil], ?_, fun hhead => ?_, ?_, ?_⟩
  · intro c hc
    obtain hc | hc := List.mem_append.1 hc
    · exact isDigit_of_mem_digits hc
    · exact isDigit_zeros hc
  · by_cases hs : s = 0
    · simp [hs, hzero hs, digits]
    · exact absurd hhead (head?_digits_append_ne hs _)
  · obtain rfl | rfl := hfraction <;> simp
  · intro ds hds c hc
    obtain rfl | rfl := hfraction
    · cases hds
    · obtain rfl := Option.some.inj hds
      exact isDigit_zeros (k := 1) hc

theorem isSpelled_pointBetween {s n : ℕ} (hs : s ≠ 0) (hpos : 0 < n) (hn : n < (digits s).length) :
    (⟨negative, (digits s).take n, some ((digits s).drop n), none⟩ : Numeral).IsSpelled := by
  refine ⟨?_, fun c hc => isDigit_of_mem_digits (List.mem_of_mem_take hc), fun hhead => ?_, ?_, ?_⟩
  · rw [ne_eq, List.take_eq_nil_iff]
    simp only [digits_ne_nil, or_false]
    omega
  · rw [List.head?_take, if_neg (by omega)] at hhead
    exact absurd hhead (head?_digits_ne hs)
  · rw [ne_eq, Option.some.injEq, List.drop_eq_nil_iff]
    omega
  · intro ds hds c hc
    obtain rfl := Option.some.inj hds
    exact isDigit_of_mem_digits (List.mem_of_mem_drop hc)

theorem isSpelled_zerosBefore (s k : ℕ) :
    (⟨negative, ['0'], some (List.replicate k '0' ++ digits s), none⟩ : Numeral).IsSpelled := by
  refine ⟨by simp, fun c hc => isDigit_zeros (k := 1) hc, fun _ => rfl, ?_, ?_⟩
  · simp [digits_ne_nil]
  · intro ds hds c hc
    obtain rfl := Option.some.inj hds
    obtain hc | hc := List.mem_append.1 hc
    · exact isDigit_zeros hc
    · exact isDigit_of_mem_digits hc

/-- **A numeral in positional notation is spelled as it should be**, if zero has no power of
ten. -/
theorem isSpelled_positional (hzero : d.significand = 0 → d.exponent = 0) :
    (l.positional negative d).IsSpelled := by
  unfold positional
  dsimp only
  split
  · refine isSpelled_zerosBehind negative (fun hs => by simp [hzero hs]) ?_
    cases l.pointOnWhole <;> simp
  · rename_i hexponent
    split
    · exact isSpelled_pointBetween negative (fun hs => hexponent (hzero hs).ge) (by omega)
        (by omega)
    · exact isSpelled_zerosBefore negative _ _

/-- A numeral in scientific notation has one digit before the point, and all digits together. -/
theorem scientific_spec (negative : Bool) (d : Digits) :
    ∃ c rest, digits d.significand = c :: rest ∧
      scientific negative d =
        ⟨negative, [c], if rest = [] then none else some rest, some d.leading⟩ := by
  obtain ⟨c, rest, hdigits⟩ := List.exists_cons_of_ne_nil (digits_ne_nil d.significand)
  refine ⟨c, rest, hdigits, ?_⟩
  cases rest with
  | nil => simp only [scientific, hdigits, if_true]
  | cons e rest => simp only [scientific, hdigits, List.cons_ne_nil, if_false]

/-- **A numeral in scientific notation is spelled as it should be.** -/
theorem isSpelled_scientific (d : Digits) : (scientific negative d).IsSpelled := by
  obtain ⟨c, rest, hdigits, heq⟩ := scientific_spec negative d
  have hdigit : ∀ c' ∈ c :: rest, c'.isDigit = true :=
    fun c' hc' => isDigit_of_mem_digits (hdigits ▸ hc')
  rw [heq]
  refine ⟨by simp, ?_, ?_, ?_, ?_⟩
  · intro c' hc'
    obtain rfl := List.mem_singleton.1 hc'
    exact hdigit c' List.mem_cons_self
  · intro hhead
    simpa using hhead
  · show (if rest = [] then none else some rest) ≠ some []
    split_ifs with hrest <;> simp [hrest]
  · intro ds hds c' hc'
    change ds ∈ (if rest = [] then none else some rest) at hds
    split_ifs at hds
    · cases hds
    · obtain rfl := Option.some.inj hds
      exact hdigit c' (List.mem_cons_of_mem _ hc')

/-- **A double is printed as numerals should be.** -/
theorem isSpelled_numeral (m : ℕ) (q : ℤ) : (l.numeral negative m q).IsSpelled := by
  unfold numeral
  dsimp only
  split
  · exact isSpelled_positional l negative (isShort_shortest l.tie m q).exponent_of_zero
  · exact isSpelled_scientific negative _

/-! ## 4.  How they are read -/

/-- The digits before the point, in positional notation, are not more than the power of ten of the
first one says. -/
theorem length_whole_positional (hleading : d.leading ≤ 15) :
    (l.positional negative d).whole.length ≤ 19 := by
  unfold Digits.leading Digits.count at hleading
  unfold positional
  dsimp only
  split
  · simp only [List.length_append, List.length_replicate]
    omega
  · split
    · simp only [List.length_take]
      omega
    · simp

theorem isFinite_mul_power_zero {n : ℕ} (h : n < significandBound) :
    Scalar.isFinite (Float.ofNat n * power 0) = true := by
  by_cases hzero : n = 0
  · rw [hzero]
    decide +kernel
  · have hbound : (n : ℚ) ≤ 2 ^ (64 : ℤ) := by
      have hpow : n ≤ 2 ^ 64 := by
        simp only [significandBound, Word.bound] at h
        omega
      exact_mod_cast hpow
    have hone : Binary64.IsWithin 0 (power 0) := by
      have hunpack : (power 0).toModel.unpack = .finite .positive (2 ^ 52) (-52) (by decide) := by
        rfl
      refine ⟨by decide +kernel, ?_⟩
      rw [Binary64.magnitude, hunpack]
      norm_num [Binary64.size, Binary64.scaled]
    exact ((Binary64.neighbours_ofNat hzero hbound (by norm_num) (by norm_num)).1.mul hone
      (by norm_num) (by norm_num)).isFinite

/-- **A numeral in positional notation is read**, if the first digit stands before the sixteenth
place. -/
theorem isSome_magnitude?_positional (hzero : d.significand = 0 → d.exponent = 0)
    (hleading : d.leading ≤ 15) : (l.positional negative d).magnitude?.isSome = true := by
  have hexponent : (l.positional negative d).exponent = none := by
    unfold positional
    dsimp only
    split_ifs <;> rfl
  obtain ⟨hsignificand, hle⟩ := gathered_of_short
    (isSpelled_positional l negative hzero).whole_digits (length_whole_positional l negative hleading)
  unfold magnitude?
  dsimp only
  rw [hexponent]
  dsimp only
  obtain hneg | hzero := hle.lt_or_eq
  · exact isSome_scale?_of_neg hneg _
  · rw [hzero]
    exact isSome_scale?_of_isFinite (k := 0) (Nat.zero_le _) (isFinite_mul_power_zero hsignificand)

theorem gathered_scientific (hsignificand : d.significand ≤ 10 ^ 17) :
    (scientific negative d).gathered = ⟨d.significand, d.exponent - d.leading⟩ := by
  obtain ⟨c, rest, hdigits, heq⟩ := scientific_spec negative d
  have hfraction : ((if rest = [] then none else some rest).getD [] : List Char) = rest := by
    split_ifs with hrest
    · exact hrest.symm
    · rfl
  have hfits : d.significand < significandBound := by
    simp only [significandBound, Word.bound]
    omega
  rw [heq, gathered_of_lt (s := d.significand) (by rw [hdigits, hfraction]; rfl) hfits, hfraction,
    Digits.leading, Digits.count, hdigits, List.length_cons]
  congr 1
  push_cast
  ring

/-- **A numeral in scientific notation is read**, if its digits are within reach. -/
theorem isSome_magnitude?_scientific (hsignificand : d.significand ≤ 10 ^ 17)
    (hreach : ∀ k : ℕ, d.exponent = k → k ≤ greatestPower ∧ d.significand ≤ reach k) :
    (scientific negative d).magnitude?.isSome = true := by
  have hcount : d.count ≤ 18 :=
    (Nat.length_toDigits_le_iff (by omega) (by omega)).2 (by omega)
  have hexponent : (scientific negative d).exponent = some d.leading := by
    obtain ⟨c, rest, -, heq⟩ := scientific_spec negative d
    rw [heq]
  unfold magnitude?
  dsimp only
  rw [hexponent, gathered_scientific negative hsignificand]
  dsimp only
  rw [sub_add_cancel]
  obtain hneg | ⟨k, hk⟩ : d.exponent < 0 ∨ ∃ k : ℕ, d.exponent = k := by
    obtain h | h := lt_or_ge d.exponent 0
    · exact .inl h
    · exact .inr ⟨d.exponent.toNat, by omega⟩
  · split
    · rename_i hlarge
      have hleading : ¬ 0 ≤ d.leading := by
        simp only [greatestExponent, Digits.leading] at hlarge ⊢
        omega
      rw [if_neg fun h => hleading h.2]
      rfl
    · exact isSome_scale?_of_neg hneg _
  · obtain ⟨hpower, hs⟩ := hreach k hk
    have hsmall : ¬ greatestExponent < d.leading.natAbs := by
      simp only [greatestExponent, greatestPower, Digits.leading] at hpower ⊢
      omega
    rw [if_neg hsmall, hk]
    exact isSome_scale?_of_isFinite hpower (isFinite_mul_power hpower hs)

/-- The greatest double is printed as a numeral that is read, with either sign. -/
theorem isSome_toFloat?_greatest :
    (interchange.numeral negative (2 ^ 53 - 1) 971).toFloat?.isSome = true := by
  cases negative <;> decide +kernel

theorem high_le {m : ℕ} {q : ℤ} (hm : m < 2 ^ 53) (hq : q ≤ 971)
    (hne : ¬ (m = 2 ^ 53 - 1 ∧ q = 971)) :
    Binary64.scaled (2 * m + 1) (q - 1) ≤ Binary64.scaled (2 ^ 54 - 3) 970 := by
  obtain ⟨k, hk⟩ : ∃ k : ℕ, (970 : ℤ) = q - 1 + k := ⟨(971 - q).toNat, by omega⟩
  rw [hk, Binary64.scaled_add]
  refine Binary64.scaled_le_scaled ?_ _
  cases k with
  | zero => omega
  | succ k =>
    have hpow : 2 ≤ 2 ^ (k + 1) := Nat.pow_le_pow_right (n := 2) (by omega) (Nat.le_add_left 1 k)
    have hmul := Nat.mul_le_mul_left (2 ^ 54 - 3) hpow
    omega

theorem le_reach {k : ℕ} (hsignificand : d.significand ≤ 10 ^ 17)
    (hzero : d.significand = 0 → d.exponent = 0) (hk : d.exponent = k)
    (hvalue : d.value ≤ Binary64.scaled (2 ^ 54 - 3) 970) :
    k ≤ greatestPower ∧ d.significand ≤ reach k := by
  have hle : d.significand * 10 ^ k ≤ (2 ^ 54 - 3) * 2 ^ 970 := by
    rw [Digits.value, hk, Binary64.scaled, show (970 : ℤ) = (970 : ℕ) by rfl, zpow_natCast,
      zpow_natCast] at hvalue
    exact_mod_cast hvalue
  have hquotient := (Nat.le_div_iff_mul_le (Nat.pow_pos (by omega))).2 hle
  refine ⟨?_, Nat.le_min.2 ⟨hsignificand, hquotient⟩⟩
  by_cases hs : d.significand = 0
  · have := hzero hs
    omega
  · by_contra hlarge
    have hlimit : (2 ^ 54 - 3) * 2 ^ 970 < 10 ^ (greatestPower + 1) := by decide +kernel
    have hpow : 10 ^ (greatestPower + 1) ≤ 10 ^ k :=
      Nat.pow_le_pow_right (by decide) (not_le.1 hlarge)
    have hmul : 10 ^ k ≤ d.significand * 10 ^ k := Nat.le_mul_of_pos_left _ (Nat.pos_of_ne_zero hs)
    exact absurd (hpow.trans (hmul.trans hle)) (not_le.2 hlimit)

/-- **A double that is printed is read**, with whatever sign. -/
theorem isSome_toFloat?_numeral {m : ℕ} {q : ℤ} (hm : m < 2 ^ 53) (hq : q ≤ 971) :
    (interchange.numeral negative m q).toFloat?.isSome = true := by
  by_cases hgreatest : m = 2 ^ 53 - 1 ∧ q = 971
  · obtain ⟨rfl, rfl⟩ := hgreatest
    exact isSome_toFloat?_greatest negative
  have hshort := isShort_shortest interchange.tie m q
  rw [toFloat?, Option.isSome_map]
  unfold numeral
  dsimp only
  split
  · rename_i hpositional
    have hleading : (shortest interchange.tie m q).leading ≤ 15 := (of_decide_eq_true hpositional).2
    exact isSome_magnitude?_positional _ negative hshort.exponent_of_zero hleading
  · refine isSome_magnitude?_scientific negative hshort.significand_le fun k hk => ?_
    exact le_reach hshort.significand_le hshort.exponent_of_zero hk
      (hshort.value_le.trans (high_le hm hq hgreatest))

end Layout
end Decimal
end FleetScore
