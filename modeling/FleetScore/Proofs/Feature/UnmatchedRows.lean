import FleetScore.Proofs.Feature.RequestRows
import FleetScore.Proofs.Pipeline.Partition

/-!
# Unmatched requests leave no trace in the metrics

A request that no snapshot was found for has a row all the same, and the row counts as a
connection.  Nothing else may come of it.  Means leave out what is absent, the response times leave
out rows without a snapshot, and the label leaves out requests without a load; these are three
tests of three different fields, made in five places.

`compute?_inserted` puts them side by side.  Take the rows of a server and insert rows of
unmatched requests, as many and wherever one likes.  The loads, the response time and the label
stay the same scalars, whatever the scalars are, and connections and rows without metrics are more
by the number of rows that were inserted.

A list with members inserted is a list of its own, so `Inserts` is a relation between two lists,
and what a rule makes of it is proved along the relation.  The one rule that is not a walk along
the list is grouping.  Inserted rows bring groups of their own, because their requests are new, and
these groups have no score (`Inserts.filterMap_grouped`).
-/

namespace FleetScore

open Aggregation

/-! ## 1.  Lists with members inserted -/

section

variable {α β κ : Type}

/-- Whether the second list is the first with so many members inserted, each of which passes a
test. -/
inductive Inserts (p : α → Prop) : ℕ → List α → List α → Prop where
  | nil : Inserts p 0 [] []
  | keep {k : ℕ} {xs ys : List α} (x : α) : Inserts p k xs ys → Inserts p k (x :: xs) (x :: ys)
  | insert {k : ℕ} {xs ys : List α} {y : α} : p y → Inserts p k xs ys →
      Inserts p (k + 1) xs (y :: ys)

namespace Inserts

variable {p : α → Prop} {k : ℕ} {xs ys : List α} (h : Inserts p k xs ys)

include h

theorem sublist : xs.Sublist ys := by
  induction h with
  | nil => exact List.Sublist.refl []
  | keep x _ ih => exact ih.cons_cons x
  | insert _ _ ih => exact ih.cons _

theorem mem_or {y : α} (hy : y ∈ ys) : y ∈ xs ∨ p y := by
  induction h with
  | nil => exact absurd hy List.not_mem_nil
  | keep x _ ih =>
    rcases List.mem_cons.mp hy with rfl | hy
    · exact .inl List.mem_cons_self
    · exact (ih hy).imp_left (List.mem_cons_of_mem x)
  | insert hp _ ih =>
    rcases List.mem_cons.mp hy with rfl | hy
    · exact .inr hp
    · exact ih hy

/-- **What is read off the members is the same** if nothing is read off those inserted. -/
theorem filterMap_eq {f : α → Option β} (hf : ∀ y, p y → f y = none) :
    ys.filterMap f = xs.filterMap f := by
  induction h with
  | nil => rfl
  | keep x _ ih => rw [List.filterMap_cons, List.filterMap_cons, ih]
  | insert hp _ ih => rw [List.filterMap_cons_none (hf _ hp), ih]

theorem filter_eq {q : α → Bool} (hq : ∀ y, p y → q y = false) : ys.filter q = xs.filter q := by
  rw [← List.filterMap_eq_filter, h.filterMap_eq fun y hy => ?_]
  rw [Option.guard, if_neg (by rw [hq y hy]; exact Bool.false_ne_true)]

theorem sum_map_eq {weight : α → ℕ} (hweight : ∀ y, p y → weight y = 1) :
    (ys.map weight).sum = (xs.map weight).sum + k := by
  induction h with
  | nil => rfl
  | keep x _ ih => rw [List.map_cons, List.map_cons, List.sum_cons, List.sum_cons, ih, add_assoc]
  | insert hp _ ih => rw [List.map_cons, List.sum_cons, hweight _ hp, ih, add_comm, add_assoc]

theorem countP_eq {q : α → Bool} (hq : ∀ y, p y → q y = true) : ys.countP q = xs.countP q + k := by
  induction h with
  | nil => rfl
  | keep x _ ih => rw [List.countP_cons, List.countP_cons, ih, add_right_comm]
  | insert hp _ ih => rw [List.countP_cons_of_pos (hq _ hp), ih, add_assoc]

/-- **What is asked of the groups is answered the same** if the inserted members have keys of their
own, and there is no answer for a group of inserted members. -/
theorem filterMap_grouped [DecidableEq κ] [LT κ] [DecidableLT κ] [IsStrictTotalOrder κ (· < ·)]
    {key : α → κ} {answer : List α → Option β} (hnew : ∀ y, p y → ∀ x ∈ xs, key x ≠ key y)
    (hnone : ∀ zs, (∀ z ∈ zs, p z) → answer zs = none) :
    ((grouped key ys).filterMap fun group => answer group.2) =
      (grouped key xs).filterMap fun group => answer group.2 := by
  have hkeys : ascending (xs.map key) =
      (ascending (ys.map key)).filter fun a => decide (a ∈ xs.map key) := by
    refine ascending_eq_of_pairwise ((pairwise_ascending _).filter _) fun a => ?_
    rw [List.mem_filter, mem_ascending, decide_eq_true_eq]
    exact ⟨fun ha => ⟨(h.sublist.map key).subset ha, ha⟩, And.right⟩
  rw [grouped, grouped, hkeys, List.filterMap_map, List.filterMap_map, List.filterMap_filter]
  refine List.filterMap_congr fun a _ => ?_
  rw [Function.comp_apply]
  split
  · -- An old key has the group that it had.
    rename_i hold
    obtain ⟨x, hx, rfl⟩ := List.mem_map.mp (of_decide_eq_true hold)
    dsimp only [Function.comp_apply]
    rw [h.filter_eq fun y hy => decide_eq_false (hnew y hy x hx).symm]
  · rename_i hnot
    refine hnone _ fun z hz => ?_
    obtain ⟨hz, hkey⟩ := List.mem_filter.mp hz
    refine (h.mem_or hz).resolve_left fun hmem => hnot (decide_eq_true ?_)
    exact List.mem_map.mpr ⟨z, hmem, of_decide_eq_true hkey⟩

end Inserts

end

/-! ## 2.  Rows of unmatched requests -/

variable {R : Type}

/-- Whether a row carries nothing of a snapshot. -/
structure Row.IsBare (row : Row R) : Prop where
  metricTimestamp : row.metricTimestamp = none
  cpuUsage : row.cpuUsage = none
  memoryUsage : row.memoryUsage = none
  requestCount : row.requestCount = none

theorem Row.isBare_unmatched (request : Request R) (server : Server) :
    (Row.unmatched request server).IsBare :=
  ⟨rfl, rfl, rfl, rfl⟩

theorem Row.IsBare.hasMetrics {row : Row R} (h : row.IsBare) : row.hasMetrics = false := by
  rw [Row.hasMetrics, h.metricTimestamp, Option.isSome_none]

theorem Row.IsBare.connections {row : Row R} (h : row.IsBare) : connections row = 1 := by
  rw [Aggregation.connections, h.requestCount]

/-- Whether rows are other rows with so many rows of unmatched requests inserted.  None of these
requests has a row among the others. -/
def InsertsUnmatched (k : ℕ) (rows rows' : List (Row R)) : Prop :=
  Inserts (fun row => row.IsBare ∧ ∀ other ∈ rows, other.requestId ≠ row.requestId) k rows rows'

section

variable {k : ℕ} {rows rows' : List (Row R)} (h : InsertsUnmatched k rows rows')

include h

theorem InsertsUnmatched.totalConnections :
    totalConnections rows' = totalConnections rows + k := by
  rw [totalConnections_eq_sum, totalConnections_eq_sum]
  exact Inserts.sum_map_eq h fun _ hrow => hrow.1.connections

theorem InsertsUnmatched.responseTimes : responseTimes rows' = responseTimes rows := by
  rw [Aggregation.responseTimes, Aggregation.responseTimes,
    Inserts.filter_eq h fun _ hrow => hrow.1.hasMetrics]

variable [Scalar R]

theorem InsertsUnmatched.requestScores : Label.requestScores rows' = Label.requestScores rows := by
  refine Inserts.filterMap_grouped h (fun _ hrow => hrow.2) fun group hgroup => ?_
  have hloads : group.filterMap Row.cpuUsage = [] :=
    List.filterMap_eq_nil_iff.mpr fun row hrow => (hgroup row hrow).1.cpuUsage
  rw [Label.scoreRows?, hloads, Statistics.mean_nil]
  cases group.head? <;> rfl

theorem InsertsUnmatched.scoreGroup : Label.scoreGroup rows' = Label.scoreGroup rows := by
  rw [Label.scoreGroup, Label.scoreGroup, h.requestScores]

end

/-! ## 3.  One server -/

section

variable {server : Int64} {rows : List (Row R)} (hne : rows ≠ [])
  (hserver : ∀ row ∈ rows, row.serverId = server)

include hne hserver

theorem ofServer_of_single : ofServer server rows = rows ∧ serversOf rows = [server] := by
  have hpiece : ofServer server rows = rows :=
    List.filter_eq_self.mpr fun row hrow => decide_eq_true (hserver row hrow)
  have hid : server ∈ serversOf rows := mem_serversOf_iff.mpr (hpiece.symm ▸ hne)
  have hservers := serversOf_ofServer hid
  rw [hpiece] at hservers
  exact ⟨hpiece, hservers⟩

variable [Scalar R]

theorem scoreAll_of_single : Label.scoreAll rows = [⟨server, Label.scoreGroup rows⟩] := by
  obtain ⟨hpiece, hservers⟩ := ofServer_of_single hne hserver
  rw [Label.scoreAll, byServer_eq, hservers, List.map_singleton, List.map_singleton, hpiece]

/-- **What is computed from rows of one server**: a vector and a label. -/
theorem compute?_of_single :
    compute? rows =
      if totalConnections rows < Word.bound then some {
        aggregation := {
          vectors := [(reduced server rows).vector]
          guarded := [server].filter fun _ => (reduced server rows).guarded
          nullMetricRows := rows.countP fun row => !row.hasMetrics }
        labels := [⟨server, Label.scoreGroup rows⟩] }
      else none := by
  obtain ⟨hpiece, hservers⟩ := ofServer_of_single hne hserver
  have hfits : Fits rows ↔ totalConnections rows < Word.bound := by
    rw [Fits, hservers, List.forall_mem_singleton, hpiece]
  have hguarded : ([server].filter fun id => (reduced id (ofServer id rows)).guarded) =
      [server].filter fun _ => (reduced server rows).guarded := by
    refine List.filter_congr fun id hid => ?_
    rw [List.mem_singleton.mp hid, hpiece]
  rw [compute?_eq, computed, hservers, hguarded, List.map_singleton, List.map_singleton, hpiece]
  exact if_congr hfits rfl rfl

end

variable [Scalar R]

/-- Whether two vectors of a server have the same metrics, and the second has so many connections
more. -/
structure FeatureVector.OnlyAddsConnections (k : ℕ) (v v' : FeatureVector R) : Prop where
  serverId : v'.serverId = v.serverId
  cpuUsage : v'.cpuUsage = v.cpuUsage
  memoryUsage : v'.memoryUsage = v.memoryUsage
  responseP95 : v'.responseP95 = v.responseP95
  activeConns : v'.activeConns.toNat = v.activeConns.toNat + k

/-- **Unmatched requests do not get into the metrics or the label.**  Rows of one server, and the
same rows with `k` rows of unmatched requests inserted, have the same labels.  If the connections
still fit 64 bits there are vectors of both; their loads and their response time are the same, and
the second has `k` connections and `k` rows without metrics more.  If they do not fit, the second
rows have no vector. -/
theorem compute?_inserted {server : Int64} {k : ℕ} {rows rows' : List (Row R)} (hne : rows ≠ [])
    (hserver : ∀ row ∈ rows', row.serverId = server) (hinserts : InsertsUnmatched k rows rows') :
    Label.scoreAll rows' = Label.scoreAll rows ∧
      (totalConnections rows + k < Word.bound →
        ∃ c c' v v' label, compute? rows = some c ∧ compute? rows' = some c' ∧
          c.aggregation.vectors = [v] ∧ c'.aggregation.vectors = [v'] ∧
          v.serverId = server ∧ v.OnlyAddsConnections k v' ∧
          c.labels = [label] ∧ c'.labels = [label] ∧
          c'.aggregation.nullMetricRows = c.aggregation.nullMetricRows + k) ∧
      (Word.bound ≤ totalConnections rows + k → compute? rows' = none) := by
  have hsublist : rows.Sublist rows' := Inserts.sublist hinserts
  have hserver' : ∀ row ∈ rows, row.serverId = server :=
    fun row hrow => hserver row (hsublist.subset hrow)
  have hne' : rows' ≠ [] := fun hnil => hne (List.sublist_nil.mp (hnil ▸ hsublist))
  have hconnections := hinserts.totalConnections
  refine ⟨?_, fun hfits => ?_, fun hlarge => ?_⟩
  · rw [scoreAll_of_single hne' hserver, scoreAll_of_single hne hserver', hinserts.scoreGroup]
  · have hold : totalConnections rows < Word.bound := by omega
    have hnew : totalConnections rows' < Word.bound := by omega
    have hlabel : (⟨server, Label.scoreGroup rows'⟩ : Label R) = ⟨server, Label.scoreGroup rows⟩ := by
      rw [hinserts.scoreGroup]
    refine ⟨_, _, _, _, _, (compute?_of_single hne hserver').trans (if_pos hold),
      (compute?_of_single hne' hserver).trans (if_pos hnew), rfl, rfl, rfl, ?_, rfl,
      congrArg (fun label => [label]) hlabel,
      Inserts.countP_eq hinserts fun row hrow => by rw [hrow.1.hasMetrics]; rfl⟩
    constructor
    · rfl
    · simp only [reduced, Inserts.filterMap_eq hinserts fun _ hrow => hrow.1.cpuUsage]
    · simp only [reduced, Inserts.filterMap_eq hinserts fun _ hrow => hrow.1.memoryUsage]
    · simp only [reduced, responseP95, hinserts.responseTimes]
    · show (UInt64.ofNat _).toNat = (UInt64.ofNat _).toNat + k
      rw [UInt64.toNat_ofNat_of_lt' hnew, UInt64.toNat_ofNat_of_lt' hold, hconnections]
  · rw [compute?_of_single hne' hserver, if_neg (by omega)]

/-- The row of a request with a snapshot. -/
def measuredRow : Row Float :=
  .matched ⟨2, 7, .earliest, 120, .failure⟩ ⟨7, 100, none⟩ ⟨7, .earliest, 50, 25, 3⟩

/-- The row of a request without a snapshot. -/
def bareRow (requestId : Int64) : Row Float :=
  .unmatched ⟨requestId, 7, .earliest, 9000, .success⟩ ⟨7, 5, none⟩

/-- Two unmatched requests, one of them with two rows, before and behind a row with metrics. -/
theorem compute?_inserted_measuredRow :
    ∃ c c' v v' label, compute? [measuredRow] = some c ∧
      compute? [bareRow 1, measuredRow, bareRow 3, bareRow 3] = some c' ∧
      c.aggregation.vectors = [v] ∧ c'.aggregation.vectors = [v'] ∧
      v.OnlyAddsConnections 3 v' ∧ c.labels = [label] ∧ c'.labels = [label] := by
  have hnew : ∀ id, id ≠ 2 → (bareRow id).IsBare ∧
      ∀ other ∈ [measuredRow], other.requestId ≠ (bareRow id).requestId := by
    intro id hid
    refine ⟨Row.isBare_unmatched _ _, fun other hother => ?_⟩
    rw [List.mem_singleton.mp hother]
    exact hid.symm
  have hinserts : InsertsUnmatched 3 [measuredRow]
      [bareRow 1, measuredRow, bareRow 3, bareRow 3] :=
    .insert (hnew 1 (by decide)) (.keep _ (.insert (hnew 3 (by decide))
      (.insert (hnew 3 (by decide)) .nil)))
  have hserver : ∀ row ∈ [bareRow 1, measuredRow, bareRow 3, bareRow 3], row.serverId = 7 := by
    simp [bareRow, measuredRow, Row.unmatched, Row.matched]
  obtain ⟨c, c', v, v', label, hc, hc', hv, hv', -, hadds, hlabel, hlabel', -⟩ :=
    (compute?_inserted (List.cons_ne_nil _ _) hserver hinserts).2.1 (by decide)
  exact ⟨c, c', v, v', label, hc, hc', hv, hv', hadds, hlabel, hlabel'⟩

end FleetScore
