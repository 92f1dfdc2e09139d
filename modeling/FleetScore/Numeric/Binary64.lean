import FleetScore.Numeric.Scalar
import FleetScore.Numeric.Word

/-!
# Binary64 numbers, taken apart

A double is a word of 64 bits: one bit of sign, eleven of exponent and 52 of
fraction.  `shape` reads the word as the thing it stands for: not a number, an
infinity, or `± significand · 2 ^ exponent` with a natural significand below
`2 ^ 53`.  Everything else the library wants to know about a double beyond its
arithmetic --- its integer part, its nearest integer, its decimal text --- is
computed from that shape in natural numbers, where nothing rounds.

`totalLe` orders all doubles: the negative ones below the positive ones, the
zeros by their sign, and what is not a number above everything.  There is one
not-a-number only, so no order among several is needed.
-/

namespace FleetScore
namespace Binary64

/-- What a 64-bit word stands for: no number, an infinity, or the number `significand · 2 ^
exponent`; the last two are negated if `negative`. -/
inductive Shape where
  | notANumber
  | infinite (negative : Bool)
  | finite (negative : Bool) (significand : Nat) (exponent : Int)
  deriving DecidableEq, Repr

/-- The bit before the stored fraction, `2 ^ 52`. -/
def hiddenBit : Nat := 4503599627370496

/-- How many values the exponent field has. -/
def fieldCount : Nat := 2048

/-- The exponent of the least significant bit of the smallest doubles. -/
def leastExponent : Int := -1074

/-- Reads a word: the sign bit, eleven bits of exponent field, and the fraction. -/
def shapeOfWord (word : Nat) : Shape :=
  let negative := word / Word.signedBound % 2 == 1
  let field := word / hiddenBit % fieldCount
  let fraction := word % hiddenBit
  if field = 2047 then
    if fraction = 0 then .infinite negative else .notANumber
  else if field = 0 then .finite negative fraction leastExponent
  else .finite negative (hiddenBit + fraction) (leastExponent + (field - 1 : Nat))

/-- What a double stands for. -/
def shape (x : Float) : Shape := shapeOfWord x.toBits.toNat

/-- The integer part of `m · 2 ^ q`. -/
def floorScaled (m : Nat) (q : Int) : Nat :=
  if 0 ≤ q then m * twoTo q.toNat else m / twoTo (-q).toNat

/-- The least integer not below `m · 2 ^ q`. -/
def ceilScaled (m : Nat) (q : Int) : Nat :=
  if 0 ≤ q then m * twoTo q.toNat else (m + (twoTo (-q).toNat - 1)) / twoTo (-q).toNat

/-- The integer nearest to `m · 2 ^ q`; a half goes up. -/
def nearestScaled (m : Nat) (q : Int) : Nat :=
  if 0 ≤ q then m * twoTo q.toNat
  else (2 * m + twoTo (-q).toNat) / (2 * twoTo (-q).toNat)

/-- The greatest natural number not above a double, and zero for a double that is
negative, infinite or not a number. -/
def floorNat (x : Float) : Nat :=
  match shape x with
  | .finite false m q => floorScaled m q
  | _ => 0

/-- The least natural number not below a double, and zero for a double that is
negative, infinite or not a number. -/
def ceilNat (x : Float) : Nat :=
  match shape x with
  | .finite false m q => ceilScaled m q
  | _ => 0

/-- The nearest 64-bit count: a half goes away from zero, what lies outside the
range goes to its nearer end, and not-a-number goes to zero. -/
def nearestUInt64 (x : Float) : UInt64 :=
  match shape x with
  | .notANumber => 0
  | .infinite negative => if negative then 0 else UInt64.ofNat (Word.bound - 1)
  | .finite negative m q =>
      if negative then 0 else UInt64.ofNat (min (nearestScaled m q) (Word.bound - 1))

/-- The nearest 64-bit integer: a half goes away from zero, what lies outside the
range goes to its nearer end, and not-a-number goes to zero. -/
def nearestInt64 (x : Float) : Int64 :=
  match shape x with
  | .notANumber => 0
  | .infinite negative => if negative then Int64.minValue else Int64.maxValue
  | .finite negative m q =>
      if negative then Int64.ofInt (-(min (nearestScaled m q) Word.signedBound : Nat))
      else Int64.ofNat (min (nearestScaled m q) (Word.signedBound - 1))

/-- A key that grows with the double: the magnitude of the word, negated and
shifted by one when the sign bit is set. -/
def orderKey (x : Float) : Int :=
  let word := x.toBits.toNat
  if word < Word.signedBound then word else -1 - ((word - Word.signedBound : Nat) : Int)

/-- The total order of doubles. -/
def totalLe (x y : Float) : Bool := decide (orderKey x ≤ orderKey y)

/-- Positive infinity. -/
def infinity : Float := Float.ofBits 0x7ff0000000000000

end Binary64

/-- Doubles are the scalars the program runs on. -/
instance : Scalar Float where
  ofNat := Float.ofNat
  ofInt := Float.ofInt
  less := Float.lt
  isNaN := Float.isNaN
  isFinite := Float.isFinite
  sqrt := Float.sqrt
  abs := Float.abs
  infinity := Binary64.infinity
  totalLe := Binary64.totalLe
  floorNat := Binary64.floorNat
  ceilNat := Binary64.ceilNat

end FleetScore
