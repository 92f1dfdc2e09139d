import FleetScore.Numeric.Binary64
import FleetScore.Decimal.Natural

/-!
# The shortest decimal that reads back

A double stands for itself, but also for every real number that rounds to it:
those from halfway to its lower neighbour to halfway to its upper neighbour, the
two ends included exactly when the significand is even.  Among the decimals in
that interval the shortest one is written.

## Why two neighbours are enough

Fix the power of ten of the last digit.  The decimals with that last digit form
a grid, and the double lies between two neighbours of the grid.  If any point of
the grid lies in the interval, one of those two does, because the interval is
convex and contains the double.  So each grid is decided by testing two points,
and the coarsest grid with a hit wins.  Seventeen digits always suffice.

Everything is compared over one common denominator in natural numbers.  Of two
hits the nearer wins; which one wins when the double is exactly halfway is not
for this module to say, so it is a parameter, `Tie`.
-/

namespace FleetScore
namespace Decimal

/-- Which of two equally near neighbours is taken: the one with an even last digit, or the upper
one. -/
inductive Tie where
  | toEven
  | up
  deriving DecidableEq, Repr

/-- Whether a quotient with floor `low` that lies exactly halfway to `low + 1` goes
up. -/
def Tie.goesUp (tie : Tie) (low : Nat) : Bool :=
  match tie with
  | .toEven => low % 2 == 1
  | .up => true

/-- The integer nearest to `num / den`, an exact half as the tie rule says. -/
def roundQuotient (tie : Tie) (num den : Nat) : Nat :=
  let low := num / den
  let twice := 2 * (num % den)
  if twice < den then low
  else if den < twice then low + 1
  else if tie.goesUp low then low + 1 else low

/-- A decimal number `significand · 10 ^ exponent`. -/
structure Digits where
  significand : Nat
  exponent : Int
  deriving DecidableEq, Repr

namespace Digits

/-- How many digits the significand has. -/
def count (d : Digits) : Nat := (digits d.significand).length

/-- The power of ten of the first digit. -/
def leading (d : Digits) : Int := d.exponent + (d.count : Int) - 1

/-- Removes the zeros at the end of a significand, up to `fuel` of them. -/
def dropZeros : Nat → Nat → Int → Digits
  | 0, m, e => ⟨m, e⟩
  | fuel + 1, m, e => if m % 10 = 0 then dropZeros fuel (m / 10) (e + 1) else ⟨m, e⟩

/-- The same number without zeros at the end. -/
def normalised (d : Digits) : Digits :=
  if d.significand = 0 then ⟨0, 0⟩ else dropZeros d.count d.significand d.exponent

end Digits

/-- A positive double with the ends of its rounding interval, halfway to its neighbours, all
over the denominator `den`.  The ends of a closed interval round to the double. -/
structure Interval where
  value : Nat
  low : Nat
  high : Nat
  den : Nat
  closed : Bool
  deriving DecidableEq, Repr

namespace Interval

/-- The rounding interval of `m · 2 ^ q`.  Below a power of two the doubles lie
twice as dense, so the lower end is nearer there. -/
def ofParts (m : Nat) (q : Int) : Interval :=
  let up := twoTo q.toNat
  let below := if m = Binary64.hiddenBit ∧ Binary64.leastExponent < q then 1 else 2
  { value := 4 * m * up
    low := (4 * m - below) * up
    high := (4 * m + 2) * up
    den := 4 * twoTo (-q).toNat
    closed := m % 2 == 0 }

/-- The interval after division by `10 ^ k`. -/
def scaled (i : Interval) (k : Int) : Interval :=
  let up := tenTo (-k).toNat
  { i with value := i.value * up, low := i.low * up, high := i.high * up,
           den := i.den * tenTo k.toNat }

/-- Whether the integer `d` lies in the interval. -/
def holds (i : Interval) (d : Nat) : Bool :=
  let point := d * i.den
  if i.closed then decide (i.low ≤ point ∧ point ≤ i.high)
  else decide (i.low < point ∧ point < i.high)

/-- The integer of the interval that is nearest to the value, if there is one. -/
def nearest? (i : Interval) (tie : Tie) : Option Nat :=
  let below := i.value / i.den
  match i.holds below, i.holds (below + 1) with
  | true, true => some (roundQuotient tie i.value i.den)
  | true, false => some below
  | false, true => some (below + 1)
  | false, false => none

/-- The power of ten of the value's first digit. -/
def leading (i : Interval) : Int :=
  if i.den ≤ i.value then ((digits (i.value / i.den)).length : Int) - 1
  else
    let inverse := (i.den - 1) / i.value
    if inverse = 0 then 0 else -((digits inverse).length : Int)

/-- The nearest decimal on the grid `10 ^ k`, if that grid meets the interval. -/
def onGrid? (i : Interval) (tie : Tie) (k : Int) : Option Digits :=
  ((i.scaled k).nearest? tie).map fun d => ⟨d, k⟩

/-- The shortest decimal of the interval: the coarsest of the seventeen grids below
the first digit that has a hit. -/
def shortest (i : Interval) (tie : Tie) : Digits :=
  let top := i.leading
  match (List.range 17).findSome? fun (n : Nat) => i.onGrid? tie (top - n) with
  | some d => d.normalised
  | none => ⟨(i.scaled (top - 16)).value / (i.scaled (top - 16)).den, top - 16⟩

end Interval

/-- The shortest decimal that reads back as `m · 2 ^ q`. -/
def shortest (tie : Tie) (m : Nat) (q : Int) : Digits :=
  if m = 0 then ⟨0, 0⟩ else (Interval.ofParts m q).shortest tie

end Decimal
end FleetScore
