import FleetScore.Decimal.Shortest
import FleetScore.Decimal.Numeral

/-!
# How a double is written

The digits of a double are settled by `Decimal.shortest`; a *layout* settles the
rest: where positional notation gives way to an exponent, whether a whole number
shows a point, and which way an exact tie goes.

Two layouts are in use.  *Interchange* numerals are read by other programs as
JSON: positional when the first digit stands at a power of ten from `-5` to `15`,
and always with a point.  *Exposition* numerals are read by a metrics scraper:
always positional, with a point only before a digit.

A third way of writing, `fixed`, shows a set number of places and rounds the
exact value half to even; it is for people.
-/

namespace FleetScore
namespace Decimal

/-- The decisions that turn digits into a numeral: the powers of ten of the first digit that are
written positionally (without a window, all of them), whether a whole number ends in a point and
a zero, and which of two equally short, equally near decimals is written. -/
structure Layout where
  window : Option (Int × Int)
  pointOnWhole : Bool
  tie : Tie

namespace Layout

/-- Whether a first digit at the power `leading` is written positionally. -/
def isPositional (l : Layout) (leading : Int) : Bool :=
  match l.window with
  | none => true
  | some (low, high) => decide (low ≤ leading ∧ leading ≤ high)

/-- Digits in positional notation. -/
def positional (l : Layout) (negative : Bool) (d : Digits) : Numeral :=
  let text := digits d.significand
  if 0 ≤ d.exponent then
    ⟨negative, text ++ List.replicate d.exponent.toNat '0',
      if l.pointOnWhole then some ['0'] else none, none⟩
  else
    let places := (-d.exponent).toNat
    if places < text.length then
      ⟨negative, text.take (text.length - places), some (text.drop (text.length - places)), none⟩
    else ⟨negative, ['0'], some (List.replicate (places - text.length) '0' ++ text), none⟩

/-- Digits as one digit, the rest after a point, and a power of ten. -/
def scientific (negative : Bool) (d : Digits) : Numeral :=
  match digits d.significand with
  | c :: e :: rest => ⟨negative, [c], some (e :: rest), some d.leading⟩
  | text => ⟨negative, text, none, some d.leading⟩

/-- The numeral of `m · 2 ^ q`, with a sign. -/
def numeral (l : Layout) (negative : Bool) (m : Nat) (q : Int) : Numeral :=
  let d := shortest l.tie m q
  if l.isPositional d.leading then l.positional negative d else scientific negative d

end Layout

/-- JSON: positional from five places after the point to sixteen digits before it,
and always with a point. -/
def interchange : Layout := ⟨some (-5, 15), true, .toEven⟩

/-- Metric samples: always positional, whole numbers without a point. -/
def exposition : Layout := ⟨none, false, .up⟩

/-- A metric sample as text. -/
def sampleText (x : Float) : String :=
  match Binary64.shape x with
  | .notANumber => "NaN"
  | .infinite true => "-inf"
  | .infinite false => "inf"
  | .finite negative m q => (exposition.numeral negative m q).text

/-- The integer nearest to `m · 2 ^ q · 10 ^ places`, a half to the even side. -/
def roundedAt (places m : Nat) (q : Int) : Nat :=
  roundQuotient .toEven (m * tenTo places * twoTo q.toNat) (twoTo (-q).toNat)

/-- A natural number of hundredths, thousandths and so on, with its point; no point
for zero places. -/
def withPlaces (places n : Nat) : String :=
  if places = 0 then natText n
  else
    let text := padded (places + 1) n
    String.ofList (text.take (text.length - places)) ++ "."
      ++ String.ofList (text.drop (text.length - places))

/-- A double with a set number of places after the point.  The exact value is
rounded half to even, and a negative value keeps its sign even if only zeros
remain. -/
def fixed (places : Nat) (x : Float) : String :=
  match Binary64.shape x with
  | .notANumber => "NaN"
  | .infinite true => "-inf"
  | .infinite false => "inf"
  | .finite negative m q =>
      (if negative then "-" else "") ++ withPlaces places (roundedAt places m q)

end Decimal
end FleetScore
