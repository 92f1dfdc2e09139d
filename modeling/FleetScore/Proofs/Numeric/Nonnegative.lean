import FleetScore.Proofs.Numeric.Finiteness

/-!
# Doubles that are not negative

A loss is a mean of squares.  Whatever doubles went into it, if none of them was not a number then
the loss is zero, positive or infinite, and its sign bit is not set.  This is what a comparison of
losses rests on: a finite loss is less than an infinite one, so once a finite loss was seen the
least loss is finite (`isFinite_of_not_less`).
-/

namespace FleetScore
namespace Binary64

open Float.Model Float.Model.UnpackedFloat

/-- Whether a double is a number, perhaps infinite, without a sign. -/
structure IsNonnegative (x : Float) : Prop where
  hasNoSign : HasNoSign x
  isNumber : Scalar.isNaN x = false

theorem isNaN_pack {u : UnpackedFloat} (h : IsRounded u) :
    Scalar.isNaN (Float.ofModel (.pack u)) = false := by
  show (Float.Model.pack u).unpack.isNaN = false
  obtain hle | hlt := le_or_gt (size u) greatest
  · rw [unpack_pack_of_size_le h hle]
    cases u <;> first | rfl | exact False.elim h
  · cases u with
    | notANumber => exact False.elim h
    | infinity s => exact False.elim h
    | zero s => exact absurd hlt (not_lt.2 (scaled_nonneg _ _))
    | finite s m e hpos =>
      have he : 971 < e := not_le.1 fun he => absurd hlt (not_lt.2 (scaled_le_greatest h he))
      rw [unpack_pack_overflow s hpos he]
      rfl

theorem isNaN_of_isFinite {x : Float} (h : Scalar.isFinite x = true) :
    Scalar.isNaN x = false := by
  have hfinite : x.toModel.unpack.isFinite = true := h
  show x.toModel.unpack.isNaN = false
  revert hfinite
  cases x.toModel.unpack <;> intro h <;> first | rfl | cases h

theorem isNaN_sub {x y : Float} (hx : Scalar.isFinite x = true) (hy : Scalar.isFinite y = true) :
    Scalar.isNaN (x - y) = false :=
  isNaN_pack (isRounded_sub (isRounded_unpack hx) (isRounded_unpack hy))

/-- **A square is not negative**, if it is the square of a number. -/
theorem isNonnegative_square {x : Float} (h : Scalar.isNaN x = false) :
    IsNonnegative (Scalar.square x) := by
  have hnumber : x.toModel.unpack.isNaN = false := h
  constructor
  · refine hasNoSign_pack (x := UnpackedFloat.mul _ x.toModel.unpack x.toModel.unpack) ?_
    cases x.toModel.unpack with
    | notANumber => trivial
    | infinity s => cases s <;> rfl
    | zero s => cases s <;> rfl
    | finite s m e hpos => cases s <;> exact isUnsigned_roundWithAccuracy _ _ _ _
  · show Scalar.isNaN (Float.ofModel (.pack (UnpackedFloat.mul _ x.toModel.unpack
      x.toModel.unpack))) = false
    by_cases hfinite : Scalar.isFinite x = true
    · exact isNaN_pack (neighbours_mul (isRounded_unpack hfinite)
        (isRounded_unpack hfinite)).isRounded
    · have hnot : x.toModel.unpack.isFinite ≠ true := hfinite
      revert hnumber hnot
      cases x.toModel.unpack with
      | notANumber => exact fun h => by cases h
      | infinity s => exact fun _ _ => by cases s <;> rfl
      | zero s => exact fun _ h => absurd rfl h
      | finite s m e hpos => exact fun _ h => absurd rfl h

theorem IsNonnegative.cases {x : Float} (h : IsNonnegative x) :
    x.toModel.unpack = .infinity .positive ∨ x.toModel.unpack = .zero .positive ∨
      ∃ m e hpos, x.toModel.unpack = .finite .positive m e hpos := by
  obtain ⟨hsign, hnumber⟩ := h
  have hnumber : x.toModel.unpack.isNaN = false := hnumber
  rw [HasNoSign] at hsign
  revert hsign hnumber
  cases x.toModel.unpack with
  | notANumber => exact fun _ h => by cases h
  | infinity s => exact fun h _ => .inl (congrArg _ h)
  | zero s => exact fun h _ => .inr (.inl (congrArg _ h))
  | finite s m e hpos =>
    rintro rfl _
    exact .inr (.inr ⟨m, e, hpos, rfl⟩)

theorem IsNonnegative.infinite_or_finite {x : Float} (h : IsNonnegative x) :
    x.toModel.unpack = .infinity .positive ∨ Scalar.isFinite x = true := by
  obtain hx | hx | ⟨m, e, hpos, hx⟩ := h.cases
  · exact .inl hx
  · right
    show x.toModel.unpack.isFinite = true
    rw [hx]
    rfl
  · right
    show x.toModel.unpack.isFinite = true
    rw [hx]
    rfl

theorem isUnsigned_normalize (n : ℕ) (e : ℤ) :
    IsUnsigned (UnpackedFloat.normalize Format.binary64 n e .positive) := by
  unfold UnpackedFloat.normalize
  split
  · rename_i h
    rw [Int.compare_eq_lt] at h
    omega
  · rfl
  · exact isUnsigned_roundWithAccuracy _ _ _ _

theorem add_infinity {a : UnpackedFloat} (ha : IsUnsigned a) (hnumber : a.isNaN = false) :
    UnpackedFloat.add Format.binary64 (.infinity .positive) a = .infinity .positive ∧
      UnpackedFloat.add Format.binary64 a (.infinity .positive) = .infinity .positive := by
  cases a with
  | notANumber => cases hnumber
  | infinity s =>
    obtain rfl : s = .positive := ha
    exact ⟨rfl, rfl⟩
  | zero s => exact ⟨rfl, rfl⟩
  | finite s m e hpos => exact ⟨rfl, rfl⟩

theorem IsNonnegative.add {x y : Float} (hx : IsNonnegative x) (hy : IsNonnegative y) :
    IsNonnegative (x + y) := by
  constructor
  · refine hasNoSign_pack (x := UnpackedFloat.add _ x.toModel.unpack y.toModel.unpack) ?_
    obtain hx | hx | ⟨m, e, hpos, hx⟩ := hx.cases <;>
      obtain hy | hy | ⟨n, f, hpos', hy⟩ := hy.cases <;> rw [hx, hy] <;> try rfl
    exact isUnsigned_normalize _ _
  · have hsum : Scalar.isNaN (x + y) = (Float.Model.pack (UnpackedFloat.add Format.binary64
        x.toModel.unpack y.toModel.unpack)).unpack.isNaN := rfl
    by_cases hfinite : Scalar.isFinite x = true ∧ Scalar.isFinite y = true
    · exact isNaN_pack (isRounded_add (isRounded_unpack hfinite.1) (isRounded_unpack hfinite.2))
    · obtain hinfinite | hinfinite := hx.infinite_or_finite
      · rw [hsum, hinfinite, (add_infinity hy.hasNoSign hy.isNumber).1]
        rfl
      · obtain hinfinite' | hinfinite' := hy.infinite_or_finite
        · rw [hsum, hinfinite', (add_infinity hx.hasNoSign hx.isNumber).2]
          rfl
        · exact absurd ⟨hinfinite, hinfinite'⟩ hfinite

/-- The start of a sum leaves no trace. -/
theorem IsNonnegative.negativeZero_add {x : Float} (hx : IsNonnegative x) :
    IsNonnegative (-0.0 + x) := by
  have hzero : (-0.0 : Float).toModel.unpack = .zero .negative := by rfl
  constructor
  · refine hasNoSign_pack
      (x := UnpackedFloat.add _ (-0.0 : Float).toModel.unpack x.toModel.unpack) ?_
    obtain hx | hx | ⟨m, e, hpos, hx⟩ := hx.cases <;> rw [hzero, hx] <;> rfl
  · have hsum : Scalar.isNaN (-0.0 + x) = (Float.Model.pack (UnpackedFloat.add Format.binary64
        (-0.0 : Float).toModel.unpack x.toModel.unpack)).unpack.isNaN := rfl
    obtain hinfinite | hfinite := hx.infinite_or_finite
    · rw [hsum, hzero, hinfinite]
      rfl
    · exact isNaN_pack (isRounded_add (isRounded_unpack (by decide)) (isRounded_unpack hfinite))

theorem isNonnegative_sum {xs : List Float} (hne : xs ≠ []) (h : ∀ x ∈ xs, IsNonnegative x) :
    IsNonnegative (Scalar.sum xs) := by
  cases xs with
  | nil => exact absurd rfl hne
  | cons x xs =>
    obtain ⟨hx, hxs⟩ := List.forall_mem_cons.1 h
    have hfirst := hx.negativeZero_add
    have hfrom : ∀ a : Float, IsNonnegative a → IsNonnegative (xs.foldl (· + ·) a) := by
      clear h hfirst
      induction xs with
      | nil => exact fun a ha => ha
      | cons y ys ih =>
        obtain ⟨hy, hys⟩ := List.forall_mem_cons.1 hxs
        exact fun a ha => ih (by simp) hys _ (ha.add hy)
    exact hfrom _ hfirst

theorem IsNonnegative.div {x y : Float} (hx : IsNonnegative x) (hy : HasNoSign y)
    (hfinite : Scalar.isFinite y = true) (hone : 1 ≤ magnitude y) : IsNonnegative (x / y) := by
  refine ⟨hasNoSign_div hx.hasNoSign hy, ?_⟩
  have hquotient : Scalar.isNaN (x / y) = (Float.Model.pack (UnpackedFloat.div Format.binary64
      x.toModel.unpack y.toModel.unpack)).unpack.isNaN := rfl
  obtain hinfinite | hx := hx.infinite_or_finite
  · rw [hquotient, hinfinite]
    unfold magnitude at hone
    have hrounded := isRounded_unpack hfinite
    cases hdivisor : y.toModel.unpack with
    | notANumber => rw [hdivisor] at hrounded; exact False.elim hrounded
    | infinity s => rw [hdivisor] at hrounded; exact False.elim hrounded
    | zero s => rw [hdivisor] at hone; exact absurd hone (by norm_num [size])
    | finite s m e hpos =>
      have hinfinity : UnpackedFloat.div Format.binary64 (.infinity .positive)
          (.finite s m e hpos) = .infinity (.positive / s) := rfl
      rw [hinfinity]
      cases s <;> rfl
  · exact isNaN_pack (neighbours_div (isRounded_unpack hx) (isRounded_unpack hfinite)
      (zero_lt_one.trans_le hone).ne').isRounded

/-- **What is not exceeded by a finite double is finite.** -/
theorem IsNonnegative.isFinite_of_not_less {x y : Float} (hy : IsNonnegative y)
    (hx : Scalar.isFinite x = true) (h : Scalar.less x y = false) : Scalar.isFinite y = true := by
  refine hy.infinite_or_finite.resolve_left fun hinfinite => ?_
  have hless : Scalar.less x y = decide (x.toModel.unpack.lt y.toModel.unpack = true) := rfl
  have hfinite : x.toModel.unpack.isFinite = true := hx
  have hinfinity : x.toModel.unpack.lt (.infinity .positive) = true := by
    revert hfinite
    cases x.toModel.unpack with
    | notANumber => exact fun h => by cases h
    | infinity s => exact fun h => by cases h
    | zero s => exact fun _ => rfl
    | finite s m e hpos => exact fun _ => by cases s <;> rfl
  rw [hless, hinfinite, hinfinity] at h
  cases h

end Binary64
end FleetScore
