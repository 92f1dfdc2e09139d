/-!
# The arithmetic a score is computed in

Every rule of this library that adds, multiplies or compares measurements is
written once, over a type `R` of *scalars*, and not over doubles.  Two readings
of the rules are wanted.  The program runs them on binary64 numbers, where the
order of the operations, the rounding and the not-a-numbers are all visible in
the answers.  The theory reads them over an exact field, where a mean is a mean
and a gradient is a gradient.  A rule that is stated twice can drift apart, so
it is stated once and the arithmetic is a parameter.

## What the class may assume

Nothing.  `Scalar` is a signature: it carries operations and no laws, because
doubles satisfy almost none of the laws one would like to write down.  What an
exact field adds is proved where the exact field is used.

Comparison is `less`, a Boolean that is false whenever a side is not a number.
Equality is never tested: no rule needs it.

## The two extrema

`larger` and `smaller` skip what is not a number and keep their first argument
on a tie, so that zeros of different sign do not replace one another.  `clamp`
lets a value that is not a number through.
-/

namespace FleetScore

/-- A type of measurements, with the operations the scoring rules use.  The
decimal literals of the rules are read by `OfScientific`. -/
class Scalar (R : Type) extends Add R, Sub R, Mul R, Div R, Neg R, OfScientific R where
  /-- The scalar nearest to a count. -/
  ofNat : Nat → R
  /-- The scalar nearest to an integer. -/
  ofInt : Int → R
  /-- Strictly less; false when a side is not a number. -/
  less : R → R → Bool
  /-- Whether the scalar is not a number. -/
  isNaN : R → Bool
  /-- Whether the scalar is a number and not an infinity. -/
  isFinite : R → Bool
  /-- The square root. -/
  sqrt : R → R
  /-- The distance from zero. -/
  abs : R → R
  /-- The value that stands for the least of no numbers; its negative stands for
  the greatest. -/
  infinity : R
  /-- A total order by which lists are sorted; it refines `less`. -/
  totalLe : R → R → Bool
  /-- The greatest count not above the scalar; zero when there is none. -/
  floorNat : R → Nat
  /-- The least count not below the scalar; zero when there is none. -/
  ceilNat : R → Nat

namespace Scalar

variable {R : Type} [Scalar R]

/-- The larger of two scalars: a side that is not a number loses, and of two
equal sides the first is kept. -/
def larger (a b : R) : R :=
  if isNaN a then b else if isNaN b then a else if less a b then b else a

/-- The smaller of two scalars: a side that is not a number loses, and of two
equal sides the first is kept. -/
def smaller (a b : R) : R :=
  if isNaN a then b else if isNaN b then a else if less b a then b else a

/-- The scalar moved into the interval from `lo` to `hi`; one that is not a
number stays as it is. -/
def clamp (x lo hi : R) : R :=
  if less x lo then lo else if less hi x then hi else x

/-- Whether the first scalar is at most the second; false when a side is not a
number. -/
def atMost (a b : R) : Bool :=
  !isNaN a && !isNaN b && !less b a

/-- The square of a scalar. -/
def square (x : R) : R := x * x

/-- The sum of a list, added from the left.  The start is negative zero, the one
double that addition leaves no trace of: a list of one element has that element
as its sum. -/
def sum (xs : List R) : R :=
  xs.foldl (· + ·) (-0.0)

/-- Of a scalar and itself the larger is the scalar, number or not. -/
@[simp] theorem larger_self (a : R) : larger a a = a := by
  unfold larger
  split <;> simp

@[simp] theorem sum_nil : sum ([] : List R) = -0.0 := rfl

end Scalar
end FleetScore
