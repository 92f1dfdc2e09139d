import FleetScore.Decimal.Numeral
import FleetScore.Numeric.Binary64

/-!
# The double a numeral is read as

There are two readings.

The *quick* reading serves records and artifacts.  The digits are gathered into a
64-bit significand as far as they fit, and the significand is scaled once by a
power of ten.  Of the digits that do not fit, those before the point are counted
and those after it are dropped.  A numeral too large for a double is refused, one
too small becomes zero.  The quick reading rounds more than once, so it may miss
the nearest double by a little; it never misses where the significand has at most
53 bits and the power of ten at most 22 zeros.

The *exact* reading gives the double nearest to the numeral.  Settings are read
that way, and whoever promises that every correct reader finds the same double.
-/

namespace FleetScore
namespace Decimal
namespace Numeral

/-- The first number that no longer fits the significand. -/
def significandBound : Nat := Word.bound

/-- The digits that fit, as a significand, with the power of ten of the last of them. -/
structure Gathered where
  significand : Nat
  exponent : Int

/-- Gathers whole digits: once one does not fit, it and all later ones only count. -/
def gatherWhole : List Char → Nat → Gathered
  | [], m => ⟨m, 0⟩
  | c :: rest, m =>
      if 10 * m + digitValue c < significandBound then gatherWhole rest (10 * m + digitValue c)
      else ⟨m, (rest.length : Int) + 1⟩

/-- Gathers digits after the point: once one does not fit, it and all later ones
are dropped. -/
def gatherFraction : List Char → Gathered → Gathered
  | [], g => g
  | c :: rest, g =>
      if 10 * g.significand + digitValue c < significandBound then
        gatherFraction rest ⟨10 * g.significand + digitValue c, g.exponent - 1⟩
      else g

/-- The digits of a numeral, gathered. -/
def gathered (n : Numeral) : Gathered :=
  gatherFraction (n.fraction.getD []) (gatherWhole n.whole 0)

/-- The largest power of ten that a double is scaled by at once. -/
def greatestPower : Nat := 308

/-- The double nearest to a power of ten. -/
def power (k : Nat) : Float := Float.ofScientific 1 false k

/-- Scales a nonnegative double by a power of ten; `none` when it grows beyond all
doubles.  A very small power is reached in several divisions, which stop at
zero. -/
def scale? (x : Float) (exponent : Int) : Option Float :=
  if exponent.natAbs ≤ greatestPower then
    if 0 ≤ exponent then
      let scaled := x * power exponent.toNat
      if scaled.isInf then none else some scaled
    else some (x / power exponent.natAbs)
  else if x == 0 then some x
  else if 0 ≤ exponent then none
  else scale? (x / power greatestPower) (exponent + greatestPower)
termination_by exponent.natAbs
decreasing_by simp only [greatestPower] at *; omega

/-- The largest exponent that is taken at its word. -/
def greatestExponent : Nat := 2147483647

/-- The quick reading of a numeral without its sign. -/
def magnitude? (n : Numeral) : Option Float :=
  let g := n.gathered
  match n.exponent with
  | none => scale? (Float.ofNat g.significand) g.exponent
  | some e =>
      if greatestExponent < e.natAbs then
        if g.significand ≠ 0 ∧ 0 ≤ e then none else some 0
      else scale? (Float.ofNat g.significand) (g.exponent + e)

/-- The quick reading of a numeral; `none` when it is too large for a double. -/
def toFloat? (n : Numeral) : Option Float :=
  n.magnitude?.map fun x => if n.negative then -x else x

/-- Powers of ten beyond this one leave the range of doubles, whatever digits stand
before them. -/
def outOfReach : Nat := 400

/-- The double nearest to a numeral. -/
def exact (n : Numeral) : Float :=
  let places := n.fraction.getD []
  let significand := ofDigits (n.whole ++ places)
  let exponent := n.exponent.getD 0 - (places.length : Int)
  let magnitude : Float :=
    if significand = 0 then 0
    else if (outOfReach : Int) < exponent then Binary64.infinity
    else if exponent + ((n.whole.length + places.length : Nat) : Int) < -(outOfReach : Int) then 0
    else Float.ofScientific significand (decide (exponent < 0)) exponent.natAbs
  if n.negative then -magnitude else magnitude

end Numeral
end Decimal
end FleetScore
