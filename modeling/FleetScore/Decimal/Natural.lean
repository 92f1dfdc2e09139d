/-!
# Natural numbers in decimal

Digits as characters, and the two directions between a number and its digits.
Every other decimal text of the library --- counts, timestamps, measurements ---
is put together from these.
-/

namespace FleetScore
namespace Decimal

/-- The digits of a natural number, without leading zeros. -/
def digits (n : Nat) : List Char := Nat.toDigits 10 n

/-- The value of a digit character. -/
def digitValue (c : Char) : Nat := c.toNat - '0'.toNat

/-- The number that a list of digits spells. -/
def ofDigits (ds : List Char) : Nat :=
  ds.foldl (fun n c => 10 * n + digitValue c) 0

/-- A natural number as text. -/
def natText (n : Nat) : String := String.ofList (digits n)

/-- An integer as text: a minus sign if it is negative, and its digits. -/
def intText (n : Int) : String :=
  if n < 0 then "-" ++ natText n.natAbs else natText n.natAbs

/-- The digits of a natural number, filled with zeros up to a width. -/
def padded (width n : Nat) : List Char :=
  List.replicate (width - (digits n).length) '0' ++ digits n

/-- The digits at the start of a text, at most `limit` of them, and the rest. -/
def digitRun (limit : Nat) (s : List Char) : List Char × List Char :=
  let run := (s.take limit).takeWhile Char.isDigit
  (run, s.drop run.length)

end Decimal
end FleetScore
