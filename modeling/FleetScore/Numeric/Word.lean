/-!
# Powers and machine words

Doubles are cut from powers of two and written in powers of ten, and counts that leave
the program pass through words of 64 bits.  The powers and the bounds of the words are
named here once; `twoTo n` and `tenTo n` are what anyone expects of them.
-/

namespace FleetScore

/-- A power of two. -/
def twoTo (n : Nat) : Nat := Nat.pow 2 n

/-- A power of ten. -/
def tenTo (n : Nat) : Nat := Nat.pow 10 n

namespace Word

/-- The first natural number that does not fit an unsigned word. -/
def bound : Nat := 18446744073709551616

/-- The first natural number that does not fit a signed word. -/
def signedBound : Nat := 9223372036854775808

/-- An integer as a signed word, if it fits. -/
def int64? (n : Int) : Option Int64 :=
  if -(signedBound : Int) ≤ n ∧ n < (signedBound : Int) then some (Int64.ofInt n) else none

/-- An integer as an unsigned word, if it fits. -/
def uint64? (n : Int) : Option UInt64 :=
  if 0 ≤ n ∧ n < (bound : Int) then some (UInt64.ofNat n.toNat) else none

end Word
end FleetScore
