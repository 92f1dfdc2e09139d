import FleetScore.Decimal.Natural
import FleetScore.Numeric.Word

/-!
# Numerals

A numeral is what the grammar of JSON numbers sees: a sign, whole digits,
perhaps digits after a point, perhaps an exponent.  It is kept as digits and not
as a value, because how it is read depends on who asks, and because a double is
written by choosing its digits first.

An *integer* is a numeral without point and exponent.  Minus zero is no integer:
only measurements have a zero with a sign.
-/

namespace FleetScore
namespace Decimal

/-- A number as it is spelled: the digits before the point, those after it if there is a point,
and the exponent if there is one. -/
structure Numeral where
  negative : Bool
  whole : List Char
  fraction : Option (List Char)
  exponent : Option Int
  deriving DecidableEq, Repr

namespace Numeral

/-- The numeral of an integer. -/
def ofInt (n : Int) : Numeral :=
  ⟨decide (n < 0), digits n.natAbs, none, none⟩

/-- The spelling of an exponent, always with a sign. -/
def exponentChars (e : Int) : List Char :=
  'e' :: (if e < 0 then '-' else '+') :: digits e.natAbs

/-- The spelling of a numeral. -/
def chars (n : Numeral) : List Char :=
  let sign := if n.negative then ['-'] else []
  let places := match n.fraction with
    | none => []
    | some ds => '.' :: ds
  let power := match n.exponent with
    | none => []
    | some e => exponentChars e
  sign ++ n.whole ++ places ++ power

/-- A numeral as text. -/
def text (n : Numeral) : String := String.ofList n.chars

/-- A numeral without point and exponent. -/
def isInteger (n : Numeral) : Bool := n.fraction.isNone && n.exponent.isNone

/-- The integer a numeral spells: `none` with a point, with an exponent, or as minus
zero. -/
def toInt? (n : Numeral) : Option Int :=
  if n.isInteger then
    let magnitude := ofDigits n.whole
    if n.negative then if magnitude = 0 then none else some (-(magnitude : Int))
    else some magnitude
  else none

/-- The signed 64-bit integer a numeral spells. -/
def toInt64? (n : Numeral) : Option Int64 := do
  Word.int64? (← n.toInt?)

/-- The 64-bit count a numeral spells. -/
def toUInt64? (n : Numeral) : Option UInt64 := do
  Word.uint64? (← n.toInt?)

/-- The digits after `e` or `E`, with an optional sign. -/
def exponent? (s : List Char) : Option (Int × List Char) :=
  match s with
  | '+' :: rest => magnitude? rest
  | '-' :: rest => (magnitude? rest).map fun r => (-r.1, r.2)
  | s => magnitude? s
where
  /-- At least one digit. -/
  magnitude? (s : List Char) : Option (Int × List Char) :=
    match digitRun s.length s with
    | ([], _) => none
    | (ds, rest) => some ((ofDigits ds : Int), rest)

/-- The point and the digits after it, if there is a point; a point needs a digit. -/
def fraction? (s : List Char) : Option (Option (List Char) × List Char) :=
  match s with
  | '.' :: rest =>
      match digitRun rest.length rest with
      | ([], _) => none
      | (ds, rest) => some (some ds, rest)
  | s => some (none, s)

/-- The digits before the point: no zero stands before another digit. -/
def whole? (s : List Char) : Option (List Char × List Char) :=
  match digitRun s.length s with
  | ([], _) => none
  | ('0' :: _ :: _, _) => none
  | (ds, rest) => some (ds, rest)

/-- Reads a numeral at the start of a text. -/
def read? (s : List Char) : Option (Numeral × List Char) :=
  match s with
  | '-' :: rest => unsigned? true rest
  | s => unsigned? false s
where
  /-- The part after the sign. -/
  unsigned? (negative : Bool) (s : List Char) : Option (Numeral × List Char) := do
    let (whole, s) ← whole? s
    let (fraction, s) ← fraction? s
    match s with
    | 'e' :: rest => do
        let (e, s) ← exponent? rest
        some (⟨negative, whole, fraction, some e⟩, s)
    | 'E' :: rest => do
        let (e, s) ← exponent? rest
        some (⟨negative, whole, fraction, some e⟩, s)
    | s => some (⟨negative, whole, fraction, none⟩, s)

end Numeral
end Decimal
end FleetScore
