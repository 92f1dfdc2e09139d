import FleetScore.Numeric.Scalar

/-!
# Order statistics, means and guarded ratios

The three statistics that features and labels are built from.

The *percentile* is the interpolated order statistic.  Sort what is a number,
take the rank `p / 100 · (n - 1)` with `p` moved into the interval from 0 to
100, and go linearly from the order statistic below the rank to the one above
it.  It is `none` exactly when nothing is a number, so a caller must say what an
absent percentile means; no default hides in the definition.

The *mean* is `none` exactly on the empty list.

The *guarded ratio* of two counts divides by one where the divisor is zero, and
says that it did.  A caller that cares counts the guard; a caller that does not
still never divides by zero.
-/

namespace FleetScore
namespace Statistics

variable {R : Type} [Scalar R]

/-- The numbers of a list in ascending order; what is not a number is left out. -/
def sorted (values : List R) : List R :=
  (values.filter fun v => !Scalar.isNaN v).mergeSort Scalar.totalLe

/-- The position of the `p`-th percentile among `n` order statistics, counted from
zero and not necessarily whole. -/
def rank (n : Nat) (p : R) : R :=
  Scalar.clamp p 0.0 100.0 / 100.0 * Scalar.ofNat (n - 1)

/-- The value at a fractional position of an ascending list, on the straight line
between its two neighbours. -/
def interpolate (order : List R) (position : R) : Option R := do
  let low := Scalar.floorNat position
  let below ← order[low]?
  let above ← order[Scalar.ceilNat position]?
  some (below + (above - below) * (position - Scalar.ofNat low))

/-- The `p`-th percentile of a list: `none` exactly when nothing in it is a number. -/
def percentile (values : List R) (p : R) : Option R :=
  let order := sorted values
  interpolate order (rank order.length p)

/-- The arithmetic mean, `none` exactly on the empty list. -/
def mean (values : List R) : Option R :=
  if values.isEmpty then none
  else some (Scalar.sum values / Scalar.ofNat values.length)

/-- A quotient of two counts, with a note of whether the divisor was zero and one was used
instead. -/
structure Ratio (R : Type) where
  value : R
  guarded : Bool

/-- The quotient of two counts; a zero divisor is replaced by one. -/
def guardedRatio (numerator denominator : Nat) : Ratio R :=
  if denominator = 0 then ⟨Scalar.ofNat numerator, true⟩
  else ⟨Scalar.ofNat numerator / Scalar.ofNat denominator, false⟩

@[simp] theorem mean_nil : mean ([] : List R) = none := rfl

theorem guardedRatio_guarded (numerator denominator : Nat) :
    (guardedRatio numerator denominator : Ratio R).guarded = true ↔ denominator = 0 := by
  unfold guardedRatio
  by_cases h : denominator = 0 <;> simp [h]

end Statistics
end FleetScore
