import FleetScore.Pipeline.Run
import FleetScore.Proofs.Order.Groups

/-!
# What is computed, server by server

`compute?` groups rows by server twice, once for the vectors and once for the labels, and gives
up as soon as one server has too many connections.  Every statement about it wants the same two
things instead: when it answers, and what it answers for one server.

* `Fits` --- the connections of each server fit 64 bits.  This is when it answers.
* `computed` --- the answer, as one function applied to each server and its rows.

`compute?_eq` says that these two are `compute?`, and `compute?_eq_some_iff` is the form in which
it is used.  The vector of a server is `reduced`, which is `vector?` without the test.
-/

namespace FleetScore
namespace Aggregation

variable {R : Type}

/-- The rows of one server. -/
def ofServer (serverId : Int64) (rows : List (Row R)) : List (Row R) :=
  rows.filter fun row => decide (row.serverId = serverId)

/-- The servers that have rows, ascending. -/
def serversOf (rows : List (Row R)) : List Int64 := ascending (rows.map Row.serverId)

/-- Whether the connections of each server fit 64 bits. -/
def Fits (rows : List (Row R)) : Prop :=
  ∀ id ∈ serversOf rows, totalConnections (ofServer id rows) < Word.bound

instance (rows : List (Row R)) : Decidable (Fits rows) :=
  List.decidableBAll (fun id => totalConnections (ofServer id rows) < Word.bound)
    (serversOf rows)

theorem mem_serversOf {rows : List (Row R)} {id : Int64} :
    id ∈ serversOf rows ↔ ∃ row ∈ rows, row.serverId = id := by
  rw [serversOf, mem_ascending, List.mem_map]

theorem byServer_eq (rows : List (Row R)) :
    byServer rows = (serversOf rows).map fun id => (id, ofServer id rows) := rfl

variable [Scalar R]

/-- The vector of a server whose connections fit 64 bits, and whether its error rate was
guarded. -/
def reduced (serverId : Int64) (rows : List (Row R)) : Reduced R where
  vector := {
    serverId := serverId
    cpuUsage := (Statistics.mean (rows.filterMap Row.cpuUsage)).getD 0.0
    memoryUsage := (Statistics.mean (rows.filterMap Row.memoryUsage)).getD 0.0
    activeConns := UInt64.ofNat (totalConnections rows)
    errorRate := (errorRate rows).value
    responseP95 := responseP95 rows
    capacity := (rows.head?.map Row.capacity).getD 0 }
  guarded := (errorRate rows : Statistics.Ratio R).guarded

theorem vector?_eq (serverId : Int64) (rows : List (Row R)) :
    vector? serverId rows =
      if totalConnections rows < Word.bound then some (reduced serverId rows) else none := rfl

theorem guarded_errorRate (rows : List (Row R)) :
    (errorRate rows : Statistics.Ratio R).guarded = decide (totalConnections rows = 0) := by
  rw [errorRate, Statistics.guardedRatio]
  by_cases h : totalConnections rows = 0
  · rw [if_pos h, decide_eq_true h]
    rfl
  · rw [if_neg h, decide_eq_false h]
    rfl

/-- **A guarded division is seen in the vector**, if the connections fit. -/
theorem guarded_reduced {id : Int64} {rows : List (Row R)}
    (hfits : totalConnections rows < Word.bound) :
    (reduced id rows : Reduced R).guarded =
      decide ((reduced id rows : Reduced R).vector.activeConns = 0) := by
  show (errorRate rows : Statistics.Ratio R).guarded =
    decide (UInt64.ofNat (totalConnections rows) = 0)
  rw [guarded_errorRate, decide_eq_decide, ← UInt64.toNat_inj, UInt64.toNat_ofNat_of_lt' hfits]
  rfl

/-- All servers have a vector exactly if the connections of all of them fit. -/
theorem mapM_vector? (rows : List (Row R)) :
    ((byServer rows).mapM fun group => vector? group.1 group.2) =
      if Fits rows then some ((serversOf rows).map fun id => reduced id (ofServer id rows))
      else none := by
  rw [byServer_eq, List.mapM_map]
  split
  · rename_i hfits
    refine mapM_eq_some_map fun id hid => ?_
    exact if_pos (hfits id hid)
  · rename_i hfits
    obtain ⟨id, hid, hbound⟩ : ∃ id ∈ serversOf rows,
        ¬ totalConnections (ofServer id rows) < Word.bound := by
      rw [Fits] at hfits
      push Not at hfits ⊢
      exact hfits
    exact mapM_eq_none hid (if_neg hbound)

end Aggregation

open Aggregation

variable {R : Type} [Scalar R]

/-- What is computed from rows whose connections fit 64 bits: a vector and a label for each
server, each from the rows of that server. -/
def computed (rows : List (Row R)) : Computed R where
  aggregation := {
    vectors := (serversOf rows).map fun id => (reduced id (ofServer id rows)).vector
    guarded := (serversOf rows).filter fun id => (reduced id (ofServer id rows)).guarded
    nullMetricRows := rows.countP fun row => !row.hasMetrics }
  labels := (serversOf rows).map fun id => ⟨id, Label.scoreGroup (ofServer id rows)⟩

/-- **Features and labels are computed server by server**, and are missing only where the
connections of a server do not fit 64 bits. -/
theorem compute?_eq (rows : List (Row R)) :
    compute? rows = if Fits rows then some (computed rows) else none := by
  rw [compute?, aggregate?, mapM_vector?]
  split
  · show some _ = some _
    rw [computed, Label.scoreAll, byServer_eq, List.map_map, List.map_map, List.filter_map,
      List.map_map]
    have hguarded : ((fun r => r.vector.serverId) ∘ fun id => reduced id (ofServer id rows)) =
        id := rfl
    rw [hguarded, List.map_id]
    rfl
  · rfl

theorem map_serverId_vectors (rows : List (Row R)) :
    (computed rows).aggregation.vectors.map FeatureVector.serverId = serversOf rows := by
  rw [computed, List.map_map]
  exact List.map_id _

theorem map_serverId_labels (rows : List (Row R)) :
    (computed rows).labels.map Label.serverId = serversOf rows := by
  rw [computed, List.map_map]
  exact List.map_id _

theorem compute?_eq_some_iff {rows : List (Row R)} {c : Computed R} :
    compute? rows = some c ↔ Fits rows ∧ c = computed rows := by
  rw [compute?_eq]
  by_cases hfits : Fits rows
  · rw [if_pos hfits, Option.some_inj]
    exact ⟨fun h => ⟨hfits, h.symm⟩, fun h => h.2.symm⟩
  · rw [if_neg hfits]
    exact ⟨fun h => absurd h.symm (Option.some_ne_none c), fun h => absurd h.1 hfits⟩

end FleetScore
