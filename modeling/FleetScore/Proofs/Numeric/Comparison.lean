import FleetScore.Proofs.Numeric.Sizes
import Mathlib.Order.WithBot

/-!
# Doubles are compared as the numbers they stand for

Doubles are compared by their exponents first and by their significands second.  For numbers that
are written canonically this is the order of the numbers, so every double that is a number has a
*level* in the rationals with two ends, and comparing doubles is comparing levels (`less_iff`,
`atMost_iff`).  The two zeros have the same level, and that is all that is lost.

So among doubles that are numbers `less` is a strict order whose ties are an equivalence, and what
is at most another is at most everything that the other is at most.
-/

namespace FleetScore
namespace Binary64

open Float.Model Float.Model.UnpackedFloat

/-! ## 1.  Canonical numbers -/

section

variable {m n : ℕ} {e f : ℤ}

theorem IsCanonical.scaled_lt (hm : IsCanonical m e) (hn : IsCanonical n f) (h : e < f) :
    scaled m e < scaled n f := by
  have hfull : 2 ^ 52 ≤ n := hn.full.resolve_right (by have := hm.le; omega)
  obtain ⟨d, rfl⟩ : ∃ d : ℕ, f = e + (1 + d : ℕ) := ⟨(f - e - 1).toNat, by omega⟩
  rw [scaled_add, scaled_lt_scaled_iff]
  calc m < 2 ^ 52 * 2 ^ 1 := hm.lt
    _ ≤ n * 2 ^ (1 + d) := Nat.mul_le_mul hfull (Nat.pow_le_pow_right (by omega) (by omega))

/-- **Canonical numbers are ordered by their exponents, and then by their significands.** -/
theorem IsCanonical.scaled_lt_iff (hm : IsCanonical m e) (hn : IsCanonical n f) :
    scaled m e < scaled n f ↔ e < f ∨ e = f ∧ m < n := by
  obtain hlt | rfl | hgt := lt_trichotomy e f
  · exact iff_of_true (hm.scaled_lt hn hlt) (.inl hlt)
  · simp [scaled_lt_scaled_iff]
  · exact iff_of_false (hn.scaled_lt hm hgt).not_gt (by omega)

theorem IsCanonical.eq_of_scaled_eq (hm : IsCanonical m e) (hn : IsCanonical n f)
    (h : scaled m e = scaled n f) : m = n ∧ e = f := by
  have hnot := mt (hm.scaled_lt_iff hn).2 h.not_lt
  have hnot' := mt (hn.scaled_lt_iff hm).2 h.not_gt
  omega

theorem compare_eq_lt_iff (hm : IsCanonical m e) (hn : IsCanonical n f) :
    (compare e f).then (compare m n) = .lt ↔ scaled m e < scaled n f := by
  rw [Ordering.then_eq_lt, Int.compare_eq_lt, Int.compare_eq_eq, Nat.compare_eq_lt,
    hm.scaled_lt_iff hn]

theorem compare_eq_gt_iff (hm : IsCanonical m e) (hn : IsCanonical n f) :
    (compare e f).then (compare m n) = .gt ↔ scaled n f < scaled m e := by
  rw [Ordering.then_eq_gt, Int.compare_eq_gt, Int.compare_eq_eq, Nat.compare_eq_gt,
    hn.scaled_lt_iff hm, eq_comm]

end

/-! ## 2.  Levels -/

/-- The number with its sign; zero for what is not a finite number. -/
def value : UnpackedFloat → ℚ
  | .finite .negative m e _ => -scaled m e
  | .finite .positive m e _ => scaled m e
  | _ => 0

/-- The place of a number among the rationals and the two infinities. -/
def place : UnpackedFloat → WithBot (WithTop ℚ)
  | .infinity .negative => ⊥
  | .infinity .positive => ((⊤ : WithTop ℚ) : WithBot (WithTop ℚ))
  | u => ((value u : WithTop ℚ) : WithBot (WithTop ℚ))

/-- The place of a double. -/
def level (x : Float) : WithBot (WithTop ℚ) := place x.toModel.unpack

theorem scaled_pos {m : ℕ} (hpos : 0 < m) (e : ℤ) : 0 < scaled m e := by
  unfold scaled
  positivity

/-- Whether an unpacked number is written canonically, if it is finite and not zero. -/
def IsWritten : UnpackedFloat → Prop
  | .finite _ m e _ => IsCanonical m e
  | _ => True

theorem isWritten_unpack (x : Float) : IsWritten x.toModel.unpack := by
  cases hx : x.toModel.unpack with
  | finite s m e hpos => exact (isCanonical_of_unpack hx).1
  | _ => trivial

theorem lt_iff_compare (a b : UnpackedFloat) : a.lt b = true ↔ a.compare b = some .lt :=
  beq_iff_eq

/-- **Finite numbers are compared by their values.** -/
theorem lt_iff_value_lt {a b : UnpackedFloat} (ha : IsWritten a) (hb : IsWritten b)
    (hfinite : a.isFinite = true) (hfinite' : b.isFinite = true) :
    a.lt b = true ↔ value a < value b := by
  rw [lt_iff_compare]
  cases a <;> cases b
  case zero.zero => simp [UnpackedFloat.compare, value]
  case zero.finite s' s m e hpos =>
    have h := scaled_pos hpos e
    cases s <;> simp [UnpackedFloat.compare, value, h, h.le]
  case finite.zero s m e hpos s' =>
    have h := scaled_pos hpos e
    cases s <;> simp [UnpackedFloat.compare, value, h, h.le]
  case finite.finite s m e hpos s' n f hpos' =>
    have h := scaled_pos hpos e
    have h' := scaled_pos hpos' f
    have hlt := compare_eq_lt_iff ha hb
    have hgt := compare_eq_gt_iff ha hb
    cases s <;> cases s' <;> simp [UnpackedFloat.compare, value, hlt, hgt] <;> linarith
  all_goals
    first
    | exact absurd hfinite Bool.false_ne_true
    | exact absurd hfinite' Bool.false_ne_true

theorem place_of_isFinite {a : UnpackedFloat} (h : a.isFinite = true) :
    place a = ((value a : WithTop ℚ) : WithBot (WithTop ℚ)) := by
  cases a <;> first | rfl | cases h

theorem exists_infinity {a : UnpackedFloat} (hnumber : a.isNaN = false)
    (hinfinite : ¬ a.isFinite = true) : ∃ s, a = .infinity s := by
  cases a with
  | notANumber => cases hnumber
  | infinity s => exact ⟨s, rfl⟩
  | zero s => exact absurd rfl hinfinite
  | finite s m e hpos => exact absurd rfl hinfinite

theorem compare_infinity {a : UnpackedFloat} (h : a.isFinite = true) :
    a.compare (.infinity .positive) = some .lt ∧ a.compare (.infinity .negative) = some .gt ∧
      (UnpackedFloat.infinity .positive).compare a = some .gt ∧
      (UnpackedFloat.infinity .negative).compare a = some .lt := by
  cases a <;>
    first
    | exact ⟨rfl, rfl, rfl, rfl⟩
    | exact absurd h Bool.false_ne_true

/-- Every rational is between the two infinities. -/
theorem place_infinity (q : ℚ) :
    place (.infinity .negative) < ((q : WithTop ℚ) : WithBot (WithTop ℚ)) ∧
      ((q : WithTop ℚ) : WithBot (WithTop ℚ)) < place (.infinity .positive) :=
  ⟨WithBot.bot_lt_coe _, WithBot.coe_lt_coe.2 (WithTop.coe_lt_top q)⟩

/-- **Numbers are compared by their places.** -/
theorem lt_iff_place_lt {a b : UnpackedFloat} (ha : IsWritten a) (hb : IsWritten b)
    (hnumber : a.isNaN = false) (hnumber' : b.isNaN = false) :
    a.lt b = true ↔ place a < place b := by
  by_cases hfinite : a.isFinite = true <;> by_cases hfinite' : b.isFinite = true
  · rw [lt_iff_value_lt ha hb hfinite hfinite', place_of_isFinite hfinite,
      place_of_isFinite hfinite', WithBot.coe_lt_coe, WithTop.coe_lt_coe]
  · obtain ⟨s, rfl⟩ := exists_infinity hnumber' hfinite'
    obtain ⟨hbelow, habove⟩ := place_infinity (value a)
    obtain ⟨hpositive, hnegative, -, -⟩ := compare_infinity hfinite
    rw [lt_iff_compare, place_of_isFinite hfinite]
    cases s with
    | negative => rw [hnegative]; exact iff_of_false (by decide) hbelow.not_gt
    | positive => exact iff_of_true hpositive habove
  · obtain ⟨s, rfl⟩ := exists_infinity hnumber hfinite
    obtain ⟨hbelow, habove⟩ := place_infinity (value b)
    obtain ⟨-, -, hpositive, hnegative⟩ := compare_infinity hfinite'
    rw [lt_iff_compare, place_of_isFinite hfinite']
    cases s with
    | negative => exact iff_of_true hnegative hbelow
    | positive => rw [hpositive]; exact iff_of_false (by decide) habove.not_gt
  · obtain ⟨s, rfl⟩ := exists_infinity hnumber hfinite
    obtain ⟨s', rfl⟩ := exists_infinity hnumber' hfinite'
    rw [lt_iff_compare]
    cases s <;> cases s' <;> simp [UnpackedFloat.compare, place]
    decide

/-! ## 3.  Comparisons of doubles -/

section

variable {x y z : Float}

/-- **`less` compares levels**, and needs two numbers. -/
theorem less_iff : Scalar.less x y = true ↔
    Scalar.isNaN x = false ∧ Scalar.isNaN y = false ∧ level x < level y := by
  have hless : Scalar.less x y = true ↔ x.toModel.unpack.lt y.toModel.unpack = true := by
    rw [show Scalar.less x y = decide (x.toModel.unpack.lt y.toModel.unpack = true) from rfl,
      decide_eq_true_iff]
  have hplace := lt_iff_place_lt (isWritten_unpack x) (isWritten_unpack y)
  rw [hless]
  constructor
  · intro hlt
    have hnumbers : x.toModel.unpack.isNaN = false ∧ y.toModel.unpack.isNaN = false := by
      revert hlt
      cases x.toModel.unpack <;> cases y.toModel.unpack <;>
        first
        | exact fun _ => ⟨rfl, rfl⟩
        | exact fun h => nomatch h
    exact ⟨hnumbers.1, hnumbers.2, (hplace hnumbers.1 hnumbers.2).1 hlt⟩
  · rintro ⟨hx, hy, hlt⟩
    exact (hplace hx hy).2 hlt

/-- **`atMost` compares levels**, and needs two numbers. -/
theorem atMost_iff : Scalar.atMost x y = true ↔
    Scalar.isNaN x = false ∧ Scalar.isNaN y = false ∧ level x ≤ level y := by
  simp only [Scalar.atMost, Bool.and_eq_true, Bool.not_eq_true', and_assoc]
  refine and_congr_right fun hx => and_congr_right fun hy => ?_
  rw [← Bool.not_eq_true, less_iff, ← not_lt]
  exact not_congr ⟨fun h => h.2.2, fun h => ⟨hy, hx, h⟩⟩

end

end Binary64
end FleetScore
