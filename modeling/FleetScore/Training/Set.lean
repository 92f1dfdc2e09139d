import FleetScore.Label.Alignment

/-!
# Training sets

A training set is three lists that belong together by position: servers, their
feature rows and their labels.  The length of a set is that of its rows.

To validate a model, every `every`-th example is held back.  Where this would leave
nothing to learn from or nothing to validate on --- fewer than two examples, or every
first one held back, or none --- the same examples serve for both.

A set that was put together by hand may have rows without a label or a server.  Such
a set cannot be split: `split?` is then `none`.  A set that comes from paired
examples always can.
-/

namespace FleetScore

/-- Rows and labels of servers, by position. -/
structure TrainingSet (R : Type) where
  serverIds : List Int64
  x : List (FeatureRow R)
  y : List R

namespace TrainingSet

variable {R : Type}

/-- How many examples there are. -/
def size (s : TrainingSet R) : Nat := s.x.length

/-- Whether there are no examples. -/
def isEmpty (s : TrainingSet R) : Bool := s.x.isEmpty

/-- The training set of paired examples. -/
def ofExamples [Scalar R] (examples : List (Example R)) : TrainingSet R where
  serverIds := examples.map fun e => e.features.serverId
  x := examples.map fun e => e.features.toRow
  y := examples.map fun e => e.label

/-- The examples at some positions; `none` when one of them is incomplete. -/
def at? (s : TrainingSet R) (positions : List Nat) : Option (TrainingSet R) := do
  some {
    serverIds := ← positions.mapM fun i => s.serverIds[i]?
    x := ← positions.mapM fun i => s.x[i]?
    y := ← positions.mapM fun i => s.y[i]? }

/-- Whether the example at a position is held back. -/
def isHeldBack (every position : Nat) : Bool := (position + 1) % every == 0

/-- The two halves of a set: what is learned from, and what is validated on. -/
structure Halves (R : Type) where
  train : TrainingSet R
  validation : TrainingSet R

/-- Splits a set; `none` when an example is incomplete. -/
def split? (s : TrainingSet R) (every : Nat) : Option (Halves R) :=
  if s.size < 2 ∨ every < 2 then some ⟨s, s⟩
  else do
    let positions := List.range s.size
    let train ← s.at? (positions.filter fun i => !isHeldBack every i)
    let validation ← s.at? (positions.filter fun i => isHeldBack every i)
    some ⟨train, if validation.isEmpty then train else validation⟩

end TrainingSet
end FleetScore
