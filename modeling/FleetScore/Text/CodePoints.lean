/-!
# Ranges of code points

A class of characters is given by a table: closed ranges of code points in ascending
order.
-/

namespace FleetScore
namespace Text

/-- Whether a character lies in one of the given ranges. -/
def isWithin (ranges : List (Nat × Nat)) (c : Char) : Bool :=
  ranges.any fun r => decide (r.1 ≤ c.toNat ∧ c.toNat ≤ r.2)

end Text
end FleetScore
