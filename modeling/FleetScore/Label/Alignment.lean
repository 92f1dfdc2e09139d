import FleetScore.Label.Score

/-!
# Pairing vectors with labels

Feature vectors and labels are computed apart, so before they meet they are paired
by server and not by position.  The pairs come in the order of the vectors,
whatever the order of the labels.

A server on one side only is an *orphan*, and orphans refuse the pairing: a vector
without a label, or a label without a vector, would silently be lost otherwise.  So
does a server that occurs twice on a side, which is no orphan.
-/

namespace FleetScore

/-- A feature vector with the label of the same server. -/
structure Example (R : Type) where
  features : FeatureVector R
  label : R

namespace Alignment

variable {R : Type}

/-- The identifiers in a list that another list lacks, ascending. -/
def orphans (ids others : List Int64) : List Int64 :=
  (ascending ids).filter fun id => !others.contains id

/-- Whether every identifier occurs once. -/
def isDistinct (ids : List Int64) : Bool := (ascending ids).length == ids.length

/-- The vectors with the labels of their servers; a vector without one is left out. -/
def pairs (features : List (FeatureVector R)) (labels : List (Label R)) : List (Example R) :=
  features.filterMap fun f =>
    (labels.find? fun l => decide (l.serverId = f.serverId)).map fun l => ⟨f, l.score⟩

/-- Pairs feature vectors with labels by server. -/
def align (features : List (FeatureVector R)) (labels : List (Label R)) :
    Except Failure (List (Example R)) :=
  let featureIds := features.map FeatureVector.serverId
  let labelIds := labels.map Label.serverId
  let orphanedFeatures := orphans featureIds labelIds
  let orphanedLabels := orphans labelIds featureIds
  if orphanedFeatures.isEmpty && orphanedLabels.isEmpty && isDistinct featureIds
      && isDistinct labelIds then
    .ok (pairs features labels)
  else .error (.labelAlignment orphanedFeatures orphanedLabels)

end Alignment
end FleetScore
