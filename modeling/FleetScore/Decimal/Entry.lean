import FleetScore.Decimal.Reading

/-!
# Numbers as people enter them

An operator who sets a variable writes numbers more freely than a program does.  A
sign may be a plus, zeros may stand in front, a point needs digits on one side only,
and infinities and not-a-number have names.

Entering is all or nothing: what is not wholly a number is not a number at all.
-/

namespace FleetScore
namespace Decimal
namespace Entry

/-- The number that a text of digits spells; a text without digits spells none. -/
def digits? (s : List Char) : Option Nat :=
  if s ≠ [] ∧ s.all Char.isDigit = true then some (ofDigits s) else none

/-- A natural number, perhaps after a plus. -/
def natural? (s : List Char) : Option Nat :=
  match s with
  | '+' :: rest => digits? rest
  | s => digits? s

/-- An integer, perhaps after a sign. -/
def integer? (s : List Char) : Option Int :=
  match s with
  | '-' :: rest => (digits? rest).map fun n => -(n : Int)
  | s => (natural? s).map fun n => (n : Int)

/-- The digits at the start of a text, and the rest. -/
def run (s : List Char) : List Char × List Char :=
  (s.takeWhile Char.isDigit, s.dropWhile Char.isDigit)

/-- The digits after a point, if there is a point. -/
def places (s : List Char) : Option (List Char) × List Char :=
  match s with
  | '.' :: rest => ((run rest).1, (run rest).2)
  | s => (none, s)

/-- Nothing, or an exponent and nothing after it. -/
def exponent? (s : List Char) : Option (Option Int) :=
  match s with
  | [] => some none
  | c :: rest => if c.toLower = 'e' then (integer? rest).map some else none

/-- A numeral in decimal notation, after its sign. -/
def numeral? (negative : Bool) (s : List Char) : Option Numeral := do
  let (whole, s) := run s
  let (fraction, s) := places s
  if whole = [] ∧ fraction.getD [] = [] then none
  else some ⟨negative, whole, fraction, ← exponent? s⟩

/-- A double that has a name. -/
def named? (s : List Char) : Option Float :=
  match String.ofList (s.map Char.toLower) with
  | "inf" => some Binary64.infinity
  | "infinity" => some Binary64.infinity
  | "nan" => some (Binary64.infinity - Binary64.infinity)
  | _ => none

/-- A double after its sign: decimal notation, or a name. -/
def unsigned? (negative : Bool) (s : List Char) : Option Float :=
  match numeral? negative s with
  | some n => some n.exact
  | none => (named? s).map fun x => if negative then -x else x

/-- A double, the nearest one to what is written. -/
def real? (s : List Char) : Option Float :=
  match s with
  | '-' :: rest => unsigned? true rest
  | '+' :: rest => unsigned? false rest
  | s => unsigned? false s

end Entry
end Decimal
end FleetScore
