import FleetScore.Json.Decode
import FleetScore.Proofs.Decimal.PrintedDoubles
import FleetScore.Proofs.Json.Layouts

/-!
# Which doubles survive a file

A finite double is written as a numeral and the numeral is read.  An infinity, or what is not a
number, is written as `null`, which no field for a measurement accepts.  So a measurement is read
back from its file exactly if it is finite (`isSome_toFloat?_float`), and the same is said here of
lists of measurements.
-/

namespace FleetScore
namespace Binary64

open Float.Model Float.Model.UnpackedFloat

theorem unpackExponent_toNat (x : Float) :
    (@unpackExponent Format.binary64 x.toModel.toBits.toBitVec).toNat =
      x.toBits.toNat / hiddenBit % fieldCount := by
  unfold unpackExponent
  rw [BitVec.toNat_cast, BitVec.extractLsb_toNat, Nat.shiftRight_eq_div_pow]
  rfl

/-- Whether a double is finite shows in its exponent field. -/
theorem isFinite_iff_field (x : Float) :
    Scalar.isFinite x = true ↔ x.toBits.toNat / hiddenBit % fieldCount ≠ 2047 := by
  rw [← unpackExponent_toNat]
  show (UnpackedFloat.unpack Format.binary64 x.toModel.toBits.toBitVec).isFinite = true ↔ _
  unfold UnpackedFloat.unpack
  dsimp only
  split
  · rename_i hones
    have hfield : (@unpackExponent Format.binary64 x.toModel.toBits.toBitVec).toNat = 2047 := by
      rw [hones]
      rfl
    simp only [hfield, ne_eq, not_true_eq_false, iff_false]
    split <;> exact Bool.false_ne_true
  · rename_i hones
    refine iff_of_true ?_ fun hfield => hones (BitVec.eq_of_toNat_eq hfield)
    split_ifs <;> rfl

/-- **A finite double stands for a number with a significand and an exponent of doubles.** -/
theorem shape_of_isFinite {x : Float} (h : Scalar.isFinite x = true) :
    ∃ negative m q, shape x = .finite negative m q ∧ m < 2 ^ 53 ∧ q ≤ 971 := by
  have hfield := (isFinite_iff_field x).1 h
  have hrange : x.toBits.toNat / hiddenBit % fieldCount < 2048 := Nat.mod_lt _ (by decide)
  have hfraction : x.toBits.toNat % hiddenBit < 2 ^ 52 := Nat.mod_lt _ (by decide)
  unfold shape shapeOfWord
  dsimp only
  rw [if_neg hfield]
  split
  · exact ⟨_, _, _, rfl, by omega, by decide⟩
  · refine ⟨_, _, _, rfl, ?_, ?_⟩
    · simp only [hiddenBit] at hfraction ⊢
      omega
    · simp only [leastExponent]
      omega

theorem shape_of_not_isFinite {x : Float} (h : Scalar.isFinite x = false) :
    shape x = .notANumber ∨ ∃ negative, shape x = .infinite negative := by
  have hfield : x.toBits.toNat / hiddenBit % fieldCount = 2047 := by
    by_contra hne
    rw [(isFinite_iff_field x).2 hne] at h
    cases h
  unfold shape shapeOfWord
  dsimp only
  rw [if_pos hfield]
  split
  · exact .inr ⟨_, rfl⟩
  · exact .inl rfl

end Binary64

namespace Json

theorem isWritable_float (x : Float) : IsWritable (float x) := by
  unfold float
  split
  · exact Decimal.Layout.isSpelled_numeral _ _ _ _
  · trivial

/-- **A measurement is read back exactly if it is finite.** -/
theorem isSome_toFloat?_float (x : Float) :
    (float x).toFloat?.isSome = Scalar.isFinite x := by
  cases h : (Scalar.isFinite x : Bool) with
  | true =>
    obtain ⟨negative, m, q, hshape, hm, hq⟩ := Binary64.shape_of_isFinite h
    rw [float, hshape]
    exact Decimal.Layout.isSome_toFloat?_numeral negative hm hq
  | false =>
    obtain hshape | ⟨negative, hshape⟩ := Binary64.shape_of_not_isFinite h <;>
      rw [float, hshape] <;> rfl

/-- **A list of measurements is read back exactly if all of them are finite.** -/
theorem isSome_toList?_floats (xs : List Float) :
    ((list float xs).toList? toFloat?).isSome = true ↔ ∀ x ∈ xs, Scalar.isFinite x = true := by
  show ((xs.map float).mapM toFloat?).isSome = true ↔ _
  induction xs with
  | nil => simp
  | cons x xs ih =>
    have hx := isSome_toFloat?_float x
    rw [List.map_cons, List.mapM_cons, List.forall_mem_cons, ← ih, ← hx]
    cases (float x).toFloat? <;> cases (xs.map float).mapM toFloat? <;> simp

end Json
end FleetScore
