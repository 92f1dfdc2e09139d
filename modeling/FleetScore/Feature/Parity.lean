import FleetScore.Order.Ascending
import FleetScore.Failure

/-!
# Parity of two lists of feature names

A model may be served only if the serving side looks up exactly the features that
training produced.  Two lists of names are in *parity* when both name the same
features and neither names one twice; their order does not matter.

When they are not, the difference is told from the side of training: `missing` are
the names the other list lacks, and `extra` those it has beyond training.  A name
that is repeated counts against the list that repeats it: as missing if training
does, as extra if the other list does.
-/

namespace FleetScore
namespace Parity

/-- The names of a list that another list lacks, ascending. -/
def lacking (names others : List String) : List String :=
  ascending (names.filter fun n => !others.contains n)

/-- How a list of names differs from the names of training. -/
def difference (training manifest : List String) : NameDifference where
  missing := ascending (lacking training manifest ++ repeated training)
  extra := ascending (lacking manifest training ++ repeated manifest)

/-- Whether there is no difference. -/
def isNone (d : NameDifference) : Bool := d.missing.isEmpty && d.extra.isEmpty

/-- Checks that two lists of names are in parity. -/
def verify (training manifest : List String) : Except NameDifference Unit :=
  let d := difference training manifest
  if isNone d then .ok () else .error d

end Parity
end FleetScore
