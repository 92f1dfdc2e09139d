import FleetScore.Numeric.Binary64
import FleetScore.Numeric.Statistics
import FleetScore.Proofs.Order.StableOrder

/-!
# Two facts about doubles

The rules of the library are written over any scalars.  Two of their statements hold on doubles
for reasons that scalars in general do not have.

## 1.  A percentile does not depend on the order of its values

`totalLe` compares doubles by an integer read off their bits, and doubles with the same bits
are the same double (`eq_of_orderKey_eq`).  So no two different doubles tie, a sorted list of
doubles is determined by its members, and so is everything read off it
(`percentile_eq_of_perm`).

## 2.  A quotient of counts is not negative

Rounding keeps a sign, and so do products, quotients and packing.  A count is made without a
sign, so a quotient of counts has none either, and clamping it from below does nothing
(`not_less_zero_quotient`).  `IsUnsigned` is the invariant; what is not a number counts as
unsigned, because no comparison with it holds.
-/

namespace FleetScore
namespace Binary64

open Float.Model

/-! ## 1.  The total order -/

theorem eq_of_toBits_eq {x y : Float} (h : x.toBits = y.toBits) : x = y := by
  obtain ⟨⟨bits, valid⟩⟩ := x
  obtain ⟨⟨bits', valid'⟩⟩ := y
  have hbits : bits = bits' := h
  subst hbits
  rfl

/-- **Doubles with the same key are the same.** -/
theorem eq_of_orderKey_eq {x y : Float} (h : orderKey x = orderKey y) : x = y := by
  refine eq_of_toBits_eq (UInt64.toNat_inj.mp ?_)
  rw [orderKey, orderKey] at h
  split at h <;> split at h <;> omega

theorem sorts_totalLe : Sorts (Scalar.totalLe : Float → Float → Bool) := Sorts.ofKey orderKey

theorem totalLe_iff (x y : Float) : Scalar.totalLe x y = true ↔ orderKey x ≤ orderKey y :=
  decide_eq_true_iff

/-- **A percentile does not depend on the order of its values.** -/
theorem percentile_eq_of_perm {xs ys : List Float} (h : xs.Perm ys) (p : Float) :
    Statistics.percentile xs p = Statistics.percentile ys p := by
  have hsorted : Statistics.sorted xs = Statistics.sorted ys := by
    refine mergeSort_eq_of_perm sorts_totalLe (h.filter _) fun a _ b _ hab hba => ?_
    rw [totalLe_iff] at hab hba
    exact eq_of_orderKey_eq (by omega)
  rw [Statistics.percentile, Statistics.percentile, hsorted]

/-! ## 2.  The sign -/

/-- Whether a number is without a negative sign, or is not a number. -/
def IsUnsigned : UnpackedFloat → Prop
  | .notANumber => True
  | .infinity sign => sign = .positive
  | .zero sign => sign = .positive
  | .finite sign _ _ _ => sign = .positive

theorem isUnsigned_roundWithAccuracy (spec : Format) (m : Nat) (e : Int)
    (accuracy : UnpackedFloat.Accuracy) :
    IsUnsigned (UnpackedFloat.roundWithAccuracy spec .positive m e accuracy) := by
  unfold UnpackedFloat.roundWithAccuracy
  dsimp only
  split <;> rfl

theorem isUnsigned_ofNat (spec : Format) (n : Nat) : IsUnsigned (UnpackedFloat.ofNat spec n) := by
  unfold UnpackedFloat.ofNat UnpackedFloat.ofInt UnpackedFloat.normalize
  split
  · rename_i h
    rw [Int.compare_eq_lt] at h
    omega
  · rfl
  · exact isUnsigned_roundWithAccuracy _ _ _ _

theorem isUnsigned_mul (spec : Format) {x y : UnpackedFloat} (hx : IsUnsigned x)
    (hy : IsUnsigned y) : IsUnsigned (UnpackedFloat.mul spec x y) := by
  cases x <;> cases y <;> simp only [IsUnsigned] at hx hy <;> subst_vars <;>
    first
    | trivial
    | rfl
    | exact isUnsigned_roundWithAccuracy _ _ _ _

theorem isUnsigned_div (spec : Format) {x y : UnpackedFloat} (hx : IsUnsigned x)
    (hy : IsUnsigned y) : IsUnsigned (UnpackedFloat.div spec x y) := by
  cases x <;> cases y <;> simp only [IsUnsigned] at hx hy <;> subst_vars <;>
    first
    | trivial
    | rfl
    | exact isUnsigned_roundWithAccuracy _ _ _ _

/-! ## 3.  Doubles without a sign -/

theorem unpackSign_packComponents (spec : Format) (sign : UnpackedFloat.Sign)
    (exponent : BitVec spec.exponentBits)
    (mantissa : BitVec spec.mantissaBitsWithoutImplicit) :
    UnpackedFloat.unpackSign (UnpackedFloat.packComponents spec sign exponent mantissa) =
      sign.toBitVec := by
  ext i hi
  have hi : i = 0 := by omega
  subst hi
  have hbelow : ¬ spec.mantissaBitsWithoutImplicit + spec.exponentBits <
      spec.mantissaBitsWithoutImplicit := by omega
  simp [UnpackedFloat.unpackSign, UnpackedFloat.packComponents, BitVec.getLsbD_append, hbelow,
    BitVec.getElem_append]

theorem unpackSign_pack (spec : Format) {x : UnpackedFloat} (hx : IsUnsigned x) :
    UnpackedFloat.unpackSign (UnpackedFloat.pack spec x) = 0#1 := by
  cases x with
  | notANumber => exact unpackSign_packComponents _ _ _ _
  | infinity sign =>
    obtain rfl : sign = .positive := hx
    exact unpackSign_packComponents _ _ _ _
  | zero sign =>
    obtain rfl : sign = .positive := hx
    exact unpackSign_packComponents _ _ _ _
  | finite sign m e hm =>
    obtain rfl : sign = .positive := hx
    unfold UnpackedFloat.pack
    dsimp only
    split
    · exact unpackSign_packComponents _ _ _ _
    · split <;> exact unpackSign_packComponents _ _ _ _

theorem isUnsigned_unpack (spec : Format) {b : BitVec spec.numBits}
    (hb : UnpackedFloat.unpackSign b = 0#1) : IsUnsigned (UnpackedFloat.unpack spec b) := by
  unfold UnpackedFloat.unpack
  rw [hb]
  dsimp only
  split
  · split
    · rfl
    · trivial
  · split
    · split <;> rfl
    · rfl

/-- Whether a double is without a negative sign, or is not a number. -/
def HasNoSign (x : Float) : Prop := IsUnsigned x.toModel.unpack

theorem hasNoSign_pack {x : UnpackedFloat} (hx : IsUnsigned x) :
    HasNoSign (Float.ofModel (.pack x)) :=
  isUnsigned_unpack _ (unpackSign_pack _ hx)

theorem hasNoSign_div {x y : Float} (hx : HasNoSign x) (hy : HasNoSign y) : HasNoSign (x / y) :=
  hasNoSign_pack (isUnsigned_div _ hx hy)

/-- A count that doubles do not hold exactly is rounded without a sign. -/
theorem isUnsigned_ofScientific (spec : Format) (n : Nat) (e : Int) :
    IsUnsigned (UnpackedFloat.ofScientific spec n e) := by
  unfold UnpackedFloat.ofScientific
  split
  · rfl
  · split
    · rfl
    · split
      · rfl
      · split
        · exact isUnsigned_mul spec rfl rfl
        · exact isUnsigned_div spec rfl rfl

theorem hasNoSign_ofNat (n : Nat) : HasNoSign (Scalar.ofNat n : Float) := by
  have hone : HasNoSign (Float.ofBits 0x3ff0000000000000) :=
    hasNoSign_pack (isUnsigned_unpack _ (by decide))
  show HasNoSign (Float.ofScientific n false 0)
  unfold Float.ofScientific
  split
  · exact hasNoSign_pack (isUnsigned_mul _ (hasNoSign_pack (isUnsigned_ofNat _ _)) hone)
  · exact hasNoSign_pack (isUnsigned_ofScientific _ _ _)

theorem not_less_zero {x : Float} (hx : HasNoSign x) : Scalar.less x 0.0 = false := by
  have hzero : (0.0 : Float).toModel.unpack = .zero .positive := by rfl
  rw [HasNoSign] at hx
  show decide (Float.Model.lt x.toModel (0.0 : Float).toModel = true) = false
  rw [Float.Model.lt, hzero]
  revert hx
  cases x.toModel.unpack with
  | notANumber => exact fun _ => rfl
  | infinity sign =>
    rintro rfl
    rfl
  | zero sign =>
    rintro rfl
    rfl
  | finite sign m e hm =>
    rintro rfl
    rfl

/-- **A quotient of counts is capped from above only.** -/
theorem clamp_quotient (m n : Nat) :
    Scalar.clamp (Scalar.ofNat m / Scalar.ofNat n : Float) 0.0 1.0 =
      if Scalar.less (1.0 : Float) (Scalar.ofNat m / Scalar.ofNat n) then 1.0
      else Scalar.ofNat m / Scalar.ofNat n := by
  rw [Scalar.clamp, if_neg]
  rw [not_less_zero (hasNoSign_div (hasNoSign_ofNat m) (hasNoSign_ofNat n))]
  exact Bool.false_ne_true

end Binary64
end FleetScore
