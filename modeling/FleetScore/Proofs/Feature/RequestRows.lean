import FleetScore.Label.Score
import FleetScore.Proofs.Store.Matching

/-!
# Rows that come from requests

The rows of a server are not any rows.  They were made from its requests: each request
contributes one row for each of its snapshots, or a single row without metrics.  Features and
labels are computed from the rows, so a request with three snapshots is there three times.  This
file says what the rules make of that.

## 1.  One request

`rowsOf r server ms` are the rows of a request `r` with snapshots `ms`.  Some rules see every
row: the loads are those of all snapshots (`filterMap_rowsOf`), the connections are the request
counts of all snapshots, or one (`totalConnections_rowsOf`), and a failed request counts once for
each row (`failures_rowsOf`).  Two rules see the request: its response time is taken once, and
its score is taken once, from the mean of its loads (`scoreRows?_rowsOf`).

## 2.  Many requests

The rules that see rows add up (`totalConnections_flatMap`, `failures_flatMap`).  The rules that
see requests group the rows by request identifier first.  Where the identifiers are distinct,
the groups are the requests again, in ascending order of their identifiers
(`responseTimes_flatMap`, `requestScores_flatMap`).
-/

namespace FleetScore

open Join

variable {R : Type}

/-! ## 1.  The rows of one request -/

theorem rowsOf_ne_nil (request : Request R) (server : Server) (ms : List (Snapshot R)) :
    rowsOf request server ms ≠ [] := by
  cases ms with
  | nil => exact List.cons_ne_nil _ _
  | cons m ms => exact List.cons_ne_nil _ _

theorem length_rowsOf (request : Request R) (server : Server) (ms : List (Snapshot R)) :
    (rowsOf request server ms).length = max 1 ms.length := by
  cases ms with
  | nil => rfl
  | cons m ms =>
    show ((m :: ms).map _).length = max 1 (ms.length + 1)
    rw [List.length_map, List.length_cons]
    omega

theorem exists_of_mem_rowsOf {request : Request R} {server : Server} {ms : List (Snapshot R)}
    {row : Row R} (hrow : row ∈ rowsOf request server ms) :
    ∃ m, row = rowOf request server m := by
  rw [rowsOf] at hrow
  split at hrow
  · exact ⟨none, List.mem_singleton.mp hrow⟩
  · obtain ⟨m, -, rfl⟩ := List.mem_map.mp hrow
    exact ⟨some m, rfl⟩

theorem requestId_of_mem_rowsOf {request : Request R} {server : Server}
    {ms : List (Snapshot R)} {row : Row R} (hrow : row ∈ rowsOf request server ms) :
    row.requestId = request.requestId := by
  obtain ⟨m, rfl⟩ := exists_of_mem_rowsOf hrow
  rfl

theorem serverId_of_mem_rowsOf {request : Request R} {server : Server}
    {ms : List (Snapshot R)} {row : Row R} (hrow : row ∈ rowsOf request server ms) :
    row.serverId = request.serverId := by
  obtain ⟨m, rfl⟩ := exists_of_mem_rowsOf hrow
  rfl

theorem head?_rowsOf (request : Request R) (server : Server) (ms : List (Snapshot R)) :
    (rowsOf request server ms).head? = some (rowOf request server ms.head?) := by
  cases ms with
  | nil => rfl
  | cons m ms => rfl

/-- **What is read off the snapshots of a request** is what is read off its rows, if nothing is
read off a row without metrics. -/
theorem filterMap_rowsOf {β : Type} {ofRow : Row R → Option β} {ofSnapshot : Snapshot R → β}
    (hnone : ∀ r server, ofRow (rowOf r server none) = none)
    (hsome : ∀ r server m, ofRow (rowOf r server (some m)) = some (ofSnapshot m))
    (request : Request R) (server : Server) (ms : List (Snapshot R)) :
    (rowsOf request server ms).filterMap ofRow = ms.map ofSnapshot := by
  rw [rowsOf]
  split
  · rename_i hempty
    rw [List.isEmpty_iff.mp hempty, List.filterMap_cons_none (hnone _ _)]
    rfl
  · rw [List.filterMap_map, ← List.filterMap_eq_map]
    congr 1
    funext m
    exact hsome request server m

/-- The rows of a request that carry metrics. -/
def measuredRows (request : Request R) (server : Server) (ms : List (Snapshot R)) :
    List (Row R) :=
  if ms.isEmpty then [] else rowsOf request server ms

/-- The rows of a request carry metrics all together or not at all. -/
theorem filter_hasMetrics_rowsOf (request : Request R) (server : Server)
    (ms : List (Snapshot R)) :
    (rowsOf request server ms).filter Row.hasMetrics = measuredRows request server ms := by
  rw [rowsOf, measuredRows]
  cases ms with
  | nil => rfl
  | cons m ms =>
    refine List.filter_eq_self.mpr fun row hrow => ?_
    obtain ⟨m, -, rfl⟩ := List.mem_map.mp hrow
    rfl

theorem isEmpty_measuredRows (request : Request R) (server : Server) (ms : List (Snapshot R)) :
    (measuredRows request server ms).isEmpty = ms.isEmpty := by
  cases ms with
  | nil => rfl
  | cons m ms => rfl

/-- The connections of a request: the request counts of its snapshots, negative ones as none;
one without a snapshot. -/
def connectionsOf (ms : List (Snapshot R)) : Nat :=
  if ms.isEmpty then 1 else (ms.map fun m => m.requestCount.toInt.toNat).sum

/-- The rows that count for the error rate if a request failed. -/
def failuresOf (request : Request R) (ms : List (Snapshot R)) : Nat :=
  if request.status.failed then max 1 ms.length else 0

namespace Aggregation

theorem totalConnections_eq_sum (rows : List (Row R)) :
    totalConnections rows = (rows.map connections).sum := by
  rw [totalConnections]
  induction rows with
  | nil => rfl
  | cons row rows ih => rw [List.foldr_cons, ih, List.map_cons, List.sum_cons]

theorem totalConnections_rowsOf (request : Request R) (server : Server)
    (ms : List (Snapshot R)) :
    totalConnections (rowsOf request server ms) = connectionsOf ms := by
  rw [totalConnections_eq_sum, rowsOf, connectionsOf]
  split
  · rfl
  · rw [List.map_map]
    rfl

theorem failures_rowsOf (request : Request R) (server : Server) (ms : List (Snapshot R)) :
    failures (rowsOf request server ms) = failuresOf request ms := by
  have hstatus : ∀ row ∈ rowsOf request server ms,
      row.status.failed = request.status.failed := by
    intro row hrow
    obtain ⟨m, rfl⟩ := exists_of_mem_rowsOf hrow
    rfl
  rw [failures, failuresOf]
  split
  · rename_i hfailed
    rw [List.countP_eq_length.mpr fun row hrow => (hstatus row hrow).trans hfailed,
      length_rowsOf]
  · rename_i hfailed
    refine List.countP_eq_zero.mpr fun row hrow => ?_
    rw [hstatus row hrow]
    exact hfailed

/-! ## 2.  The rows of many requests -/

theorem totalConnections_flatMap (server : Server) (found : Request R → List (Snapshot R))
    (rs : List (Request R)) :
    totalConnections (rs.flatMap fun r => rowsOf r server (found r)) =
      (rs.map fun r => connectionsOf (found r)).sum := by
  induction rs with
  | nil => rfl
  | cons r rs ih =>
    rw [totalConnections_eq_sum] at ih ⊢
    rw [List.flatMap_cons, List.map_append, List.sum_append, ih, ← totalConnections_eq_sum,
      totalConnections_rowsOf, List.map_cons, List.sum_cons]

theorem failures_flatMap (server : Server) (found : Request R → List (Snapshot R))
    (rs : List (Request R)) :
    failures (rs.flatMap fun r => rowsOf r server (found r)) =
      (rs.map fun r => failuresOf r (found r)).sum := by
  rw [failures, List.countP_flatMap]
  congr 1
  refine List.map_congr_left fun r _ => ?_
  exact failures_rowsOf r server (found r)

end Aggregation

/-! ## 3.  Requests told apart by their identifiers -/

/-- Requests in ascending order of their identifiers. -/
def byId (rs : List (Request R)) : List (Request R) :=
  rs.mergeSort fun a b => decide (a.requestId ≤ b.requestId)

theorem sorts_requestId : Sorts fun a b : Request R => decide (a.requestId ≤ b.requestId) where
  trans a b c hab hbc := by
    rw [decide_eq_true_eq] at hab hbc ⊢
    exact Int64.le_trans hab hbc
  total a b := by
    rw [Bool.or_eq_true, decide_eq_true_eq, decide_eq_true_eq]
    exact Int64.le_total a.requestId b.requestId

theorem byId_perm (rs : List (Request R)) : (byId rs).Perm rs := List.mergeSort_perm rs _

theorem mem_byId {rs : List (Request R)} {r : Request R} : r ∈ byId rs ↔ r ∈ rs :=
  List.mem_mergeSort

theorem pairwise_byId {rs : List (Request R)} (hnodup : (rs.map Request.requestId).Nodup) :
    ((byId rs).map Request.requestId).Pairwise (· < ·) := by
  have hne := ((byId_perm rs).map Request.requestId).nodup_iff.mpr hnodup
  rw [List.pairwise_map]
  refine (sorts_requestId.pairwise rs).imp₂ (fun {a b} hle hne => ?_) (List.pairwise_map.mp hne)
  exact Int64.lt_of_le_of_ne (of_decide_eq_true hle) hne

/-- **The response times** are those of the requests that snapshots were found for. -/
theorem Aggregation.responseTimes_flatMap (server : Server)
    (found : Request R → List (Snapshot R)) {rs : List (Request R)}
    (hnodup : (rs.map Request.requestId).Nodup) :
    responseTimes (rs.flatMap fun r => rowsOf r server (found r)) =
      (byId (rs.filter fun r => !(found r).isEmpty)).map Request.responseTime := by
  have hkey : ∀ r ∈ rs, ∀ row ∈ measuredRows r server (found r),
      row.requestId = r.requestId := by
    intro r _ row hrow
    rw [measuredRows] at hrow
    split at hrow
    · exact absurd hrow List.not_mem_nil
    · exact requestId_of_mem_rowsOf hrow
  have hperm : (byId (rs.filter fun r => !(found r).isEmpty)).Perm
      (rs.filter fun r => !(measuredRows r server (found r)).isEmpty) := by
    refine (byId_perm _).trans (List.Perm.of_eq (List.filter_congr fun r _ => ?_))
    rw [isEmpty_measuredRows]
  have hlt := pairwise_byId (hnodup.sublist
    (List.filter_sublist (p := fun r => !(found r).isEmpty).map _))
  rw [responseTimes, List.filter_flatMap]
  simp only [filter_hasMetrics_rowsOf]
  rw [grouped_flatMap hkey hperm hlt hnodup, List.filterMap_map, ← List.filterMap_eq_map]
  refine List.filterMap_congr fun r hr => ?_
  have hfound := (List.mem_filter.mp (mem_byId.mp hr)).2
  rw [Function.comp_apply, measuredRows, if_neg (by simpa using hfound), head?_rowsOf]
  rfl

variable [Scalar R]

/-- The score of a request that snapshots were found for: seven tenths of its response time, two
tenths of its mean processor load, and a tenth if it failed. -/
def scoreOf (request : Request R) (ms : List (Snapshot R)) : R :=
  0.7 * request.responseTime
    + 0.2 * (Statistics.mean (ms.map Snapshot.cpuUsage)).getD 0.0
    + 0.1 * if request.status.failed then 1.0 else 0.0

/-- The rows of a request have a score if they carry metrics, and then that of the request. -/
theorem scoreRows?_rowsOf (request : Request R) (server : Server) (ms : List (Snapshot R)) :
    Label.scoreRows? (rowsOf request server ms) =
      if ms.isEmpty then none else some (scoreOf request ms) := by
  have hcpu : (rowsOf request server ms).filterMap Row.cpuUsage = ms.map Snapshot.cpuUsage :=
    filterMap_rowsOf (fun _ _ => rfl) (fun _ _ _ => rfl) request server ms
  rw [Label.scoreRows?, head?_rowsOf, hcpu]
  cases ms with
  | nil => rfl
  | cons m ms => rfl

/-- **The scores of requests** are those of the requests that snapshots were found for. -/
theorem Label.requestScores_flatMap (server : Server) (found : Request R → List (Snapshot R))
    {rs : List (Request R)} (hnodup : (rs.map Request.requestId).Nodup) :
    requestScores (rs.flatMap fun r => rowsOf r server (found r)) =
      (byId (rs.filter fun r => !(found r).isEmpty)).map fun r => scoreOf r (found r) := by
  have hkey : ∀ r ∈ rs, ∀ row ∈ rowsOf r server (found r), row.requestId = r.requestId :=
    fun r _ row hrow => requestId_of_mem_rowsOf hrow
  have hperm : (byId rs).Perm (rs.filter fun r => !(rowsOf r server (found r)).isEmpty) := by
    refine (byId_perm rs).trans (List.Perm.of_eq (List.filter_eq_self.mpr fun r _ => ?_).symm)
    simpa using rowsOf_ne_nil r server (found r)
  rw [requestScores, grouped_flatMap hkey hperm (pairwise_byId hnodup) hnodup,
    List.filterMap_map, byId, byId, ← filter_mergeSort sorts_requestId, ← List.filterMap_eq_map,
    List.filterMap_filter]
  refine List.filterMap_congr fun r _ => ?_
  rw [Function.comp_apply, scoreRows?_rowsOf]
  cases (found r).isEmpty with
  | true => rfl
  | false => rfl

end FleetScore
