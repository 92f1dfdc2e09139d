import FleetScore.Proofs.Feature.RequestRows
import FleetScore.Proofs.Numeric.Doubles
import FleetScore.Proofs.Pipeline.PerServer

/-!
# Features and labels, defined on the raw events

Features and labels are computed from rows, and rows are what is left of the raw events after a
filter, a join and two groupings.  This file defines both on the raw events, without any row,
and proves that the computation meets the definition.

For a store, `recent` are the requests in the lookback window, and `snapshotsOf r` are the
snapshots of a request: those of its server taken at most the tolerance before it.  Of a server,

* the connections are the request counts of all snapshots of all requests, where a request
  without a snapshot counts as one;
* the failures are the failed requests, each once for every snapshot and at least once;
* the loads are means over all pairs of a request and one of its snapshots;
* the response time is a percentile over requests that have a snapshot, each taken once;
* the score is a mean over the same requests, each with its mean load.

So some features weigh a request by its snapshots, and the last two do not.

`compute?_fetch` is the main result.  It asks that identifiers of recent requests are distinct:
two requests with one identifier would be told apart here, and not by their rows.
-/

namespace FleetScore
namespace MemoryStore

open Aggregation

variable {R : Type}

/-! ## 1.  The definition -/

/-- The requests in the lookback window, by exact arithmetic. -/
def recent (s : MemoryStore R) : List (Request R) :=
  s.requests.filter fun r => decide (s.now.keyBefore s.settings.lookback ≤ r.timestamp.key)

/-- The snapshots of a request, in order of time. -/
def snapshotsOf (s : MemoryStore R) (request : Request R) : List (Snapshot R) :=
  Join.matching s.settings.tolerance s.snapshots request

/-- The recent requests of a server, in order of time and identifier. -/
def requestsOf (s : MemoryStore R) (serverId : Int64) : List (Request R) :=
  (s.recent.filter fun r => decide (r.serverId = serverId)).mergeSort Join.requestLe

/-- The recent requests of a server that have a snapshot. -/
def measured (s : MemoryStore R) (serverId : Int64) : List (Request R) :=
  (s.requestsOf serverId).filter fun r => !(s.snapshotsOf r).isEmpty

/-- The recent requests of a server, each with each of its snapshots. -/
def pairs (s : MemoryStore R) (serverId : Int64) : List (Request R × Snapshot R) :=
  (s.requestsOf serverId).flatMap fun r => (s.snapshotsOf r).map fun m => (r, m)

/-- The connections of a server. -/
def connections (s : MemoryStore R) (serverId : Int64) : Nat :=
  ((s.requestsOf serverId).map fun r => connectionsOf (s.snapshotsOf r)).sum

/-- The failures of a server. -/
def failures (s : MemoryStore R) (serverId : Int64) : Nat :=
  ((s.requestsOf serverId).map fun r => failuresOf r (s.snapshotsOf r)).sum

/-- The servers that have a record and a recent request, ascending. -/
def observed (s : MemoryStore R) : List Int64 :=
  ascending ((s.recent.filter fun r => (Join.lastRecord? s.servers r.serverId).isSome).map
    Request.serverId)

section

variable [Scalar R]

/-- The failures by the connections, at most one; zero without connections. -/
def errorRate (s : MemoryStore R) (serverId : Int64) : R :=
  let quotient : R := Scalar.ofNat (s.failures serverId) / Scalar.ofNat (s.connections serverId)
  if s.connections serverId = 0 then 0.0
  else if Scalar.less 1.0 quotient then 1.0
  else quotient

/-- The 95th percentile of the response times, zero if it is negative or there is none. -/
def responseP95 (s : MemoryStore R) (serverId : Int64) : R :=
  match Statistics.percentile ((s.measured serverId).map Request.responseTime) 95.0 with
  | none => 0.0
  | some p => Scalar.larger p 0.0

/-- The feature vector of a server. -/
def vector (s : MemoryStore R) (serverId : Int64) : FeatureVector R where
  serverId := serverId
  cpuUsage := (Statistics.mean ((s.pairs serverId).map fun p => p.2.cpuUsage)).getD 0.0
  memoryUsage := (Statistics.mean ((s.pairs serverId).map fun p => p.2.memoryUsage)).getD 0.0
  activeConns := UInt64.ofNat (s.connections serverId)
  errorRate := s.errorRate serverId
  responseP95 := s.responseP95 serverId
  capacity := ((Join.lastRecord? s.servers serverId).map Server.capacity).getD 0

/-- The label of a server: the mean score of its requests in order of their identifiers, zero
without scores. -/
def label (s : MemoryStore R) (serverId : Int64) : Label R where
  serverId := serverId
  score := (Statistics.mean
    ((byId (s.measured serverId)).map fun r => scoreOf r (s.snapshotsOf r))).getD 0.0

end

/-! ## 2.  The rows of a store -/

/-- The calendar does not matter for which requests are recent. -/
theorem inWindow_eq_recent (s : MemoryStore R) : s.inWindow = s.recent := by
  refine List.filter_congr fun r _ => ?_
  rw [Bool.eq_iff_iff, decide_eq_true_eq]
  exact Instant.back_le_iff s.now r.timestamp s.settings.lookback

theorem fetch_of_available {s : MemoryStore R} (havailable : s.unavailable = none) :
    (Source.memory s).fetch = (.ok s.joined.rows, [s.joined.event]) := by
  rw [Source.fetch, havailable]

theorem joined_rows (s : MemoryStore R) :
    s.joined.rows = (s.recent.mergeSort Join.requestLe).flatMap fun r =>
      Join.replacement s.servers (s.snapshotsOf r) r := by
  rw [joined, Join.join_rows, inWindow_eq_recent]
  rfl

theorem serverId_of_mem_replacement {servers : List Server} {ms : List (Snapshot R)}
    {request : Request R} {row : Row R} (hrow : row ∈ Join.replacement servers ms request) :
    row.serverId = request.serverId := by
  rw [Join.replacement] at hrow
  split at hrow
  · exact absurd hrow List.not_mem_nil
  · exact serverId_of_mem_rowsOf hrow

/-- A request is replaced by nothing exactly if its server has no record. -/
theorem replacement_eq_nil_iff (servers : List Server) (ms : List (Snapshot R))
    (request : Request R) :
    Join.replacement servers ms request = [] ↔
      Join.lastRecord? servers request.serverId = none := by
  rw [Join.replacement]
  split
  · rename_i h
    rw [h]
    exact iff_of_true rfl rfl
  · rename_i server h
    rw [h]
    exact iff_of_false (rowsOf_ne_nil request server ms) (Option.some_ne_none server)

/-- **The servers with rows** are those that have a record and a recent request. -/
theorem serversOf_joined (s : MemoryStore R) : serversOf s.joined.rows = s.observed := by
  refine ascending_congr fun id => ?_
  rw [List.mem_map, List.mem_map, joined_rows]
  constructor
  · rintro ⟨row, hrow, rfl⟩
    obtain ⟨r, hr, hrow⟩ := List.mem_flatMap.mp hrow
    refine ⟨r, List.mem_filter.mpr ⟨List.mem_mergeSort.mp hr, ?_⟩,
      (serverId_of_mem_replacement hrow).symm⟩
    rw [Option.isSome_iff_ne_none, ne_eq, ← replacement_eq_nil_iff s.servers (s.snapshotsOf r)]
    exact List.ne_nil_of_mem hrow
  · rintro ⟨r, hr, rfl⟩
    obtain ⟨hr, hrecord⟩ := List.mem_filter.mp hr
    rw [Option.isSome_iff_ne_none, ne_eq,
      ← replacement_eq_nil_iff s.servers (s.snapshotsOf r)] at hrecord
    obtain ⟨row, hrow⟩ := List.exists_mem_of_ne_nil _ hrecord
    exact ⟨row, List.mem_flatMap.mpr ⟨r, List.mem_mergeSort.mpr hr, hrow⟩,
      serverId_of_mem_replacement hrow⟩

/-- **The rows of a server** are those of its recent requests, in their order. -/
theorem ofServer_joined (s : MemoryStore R) {serverId : Int64} {server : Server}
    (hrecord : Join.lastRecord? s.servers serverId = some server) :
    ofServer serverId s.joined.rows =
      (s.requestsOf serverId).flatMap fun r => Join.rowsOf r server (s.snapshotsOf r) := by
  have hkey : ∀ r ∈ s.recent.mergeSort Join.requestLe,
      ∀ row ∈ Join.replacement s.servers (s.snapshotsOf r) r, row.serverId = r.serverId :=
    fun r _ row hrow => serverId_of_mem_replacement hrow
  rw [joined_rows, ofServer, filter_flatMap_key hkey, filter_mergeSort Join.sorts_requestLe,
    requestsOf]
  refine List.flatMap_congr fun r hr => ?_
  have hid : r.serverId = serverId :=
    of_decide_eq_true (List.mem_filter.mp (List.mem_mergeSort.mp hr)).2
  rw [Join.replacement, hid, hrecord]

theorem mem_requestsOf {s : MemoryStore R} {serverId : Int64} {r : Request R} :
    r ∈ s.requestsOf serverId ↔ r ∈ s.recent ∧ r.serverId = serverId := by
  rw [requestsOf, List.mem_mergeSort, List.mem_filter, decide_eq_true_eq]

theorem requestsOf_ne_nil_iff {s : MemoryStore R} {serverId : Int64} :
    s.requestsOf serverId ≠ [] ↔ ∃ r ∈ s.requests, r.serverId = serverId ∧
      s.now.keyBefore s.settings.lookback ≤ r.timestamp.key := by
  constructor
  · intro hne
    obtain ⟨r, hr⟩ := List.exists_mem_of_ne_nil _ hne
    obtain ⟨hrecent, hid⟩ := mem_requestsOf.mp hr
    obtain ⟨hmem, hlate⟩ := List.mem_filter.mp hrecent
    exact ⟨r, hmem, hid, of_decide_eq_true hlate⟩
  · rintro ⟨r, hmem, hid, hlate⟩
    exact List.ne_nil_of_mem
      (mem_requestsOf.mpr ⟨List.mem_filter.mpr ⟨hmem, decide_eq_true hlate⟩, hid⟩)

/-- Requests of one server are distinct where all recent requests are. -/
theorem nodup_requestsOf {s : MemoryStore R} (hnodup : (s.recent.map Request.requestId).Nodup)
    (serverId : Int64) : ((s.requestsOf serverId).map Request.requestId).Nodup := by
  rw [requestsOf, ((List.mergeSort_perm _ _).map _).nodup_iff]
  exact hnodup.sublist (List.filter_sublist.map _)

/-- **A server is observed** exactly if it has a record and a recent request. -/
theorem mem_observed {s : MemoryStore R} {id : Int64} :
    id ∈ s.observed ↔
      (∃ server, Join.lastRecord? s.servers id = some server) ∧ s.requestsOf id ≠ [] := by
  rw [observed, mem_ascending, List.mem_map]
  constructor
  · rintro ⟨r, hr, rfl⟩
    obtain ⟨hr, hrecord⟩ := List.mem_filter.mp hr
    exact ⟨Option.isSome_iff_exists.mp hrecord,
      List.ne_nil_of_mem (mem_requestsOf.mpr ⟨hr, rfl⟩)⟩
  · rintro ⟨hrecord, hne⟩
    obtain ⟨r, hr⟩ := List.exists_mem_of_ne_nil _ hne
    obtain ⟨hrecent, rfl⟩ := mem_requestsOf.mp hr
    exact ⟨r, List.mem_filter.mpr ⟨hrecent, Option.isSome_iff_exists.mpr hrecord⟩, rfl⟩

theorem exists_lastRecord?_iff {servers : List Server} {id : Int64} :
    (∃ server, Join.lastRecord? servers id = some server) ↔
      ∃ server ∈ servers, server.serverId = id := by
  rw [← Option.isSome_iff_exists, Join.lastRecord?, Option.isSome_iff_ne_none, ne_eq,
    List.getLast?_eq_none_iff, List.filter_eq_nil_iff]
  simp

/-! ## 3.  One server -/

section

variable {s : MemoryStore R} {serverId : Int64} {server : Server}
  (hrecord : Join.lastRecord? s.servers serverId = some server)

include hrecord

theorem totalConnections_joined :
    totalConnections (ofServer serverId s.joined.rows) = s.connections serverId := by
  rw [ofServer_joined s hrecord, totalConnections_flatMap]
  rfl

/-- **A load of the rows is a load of the pairs.** -/
theorem filterMap_joined {ofRow : Row R → Option R} {ofSnapshot : Snapshot R → R}
    (hnone : ∀ r server, ofRow (Join.rowOf r server none) = none)
    (hsome : ∀ r server m, ofRow (Join.rowOf r server (some m)) = some (ofSnapshot m)) :
    (ofServer serverId s.joined.rows).filterMap ofRow =
      (s.pairs serverId).map fun p => ofSnapshot p.2 := by
  rw [ofServer_joined s hrecord, List.filterMap_flatMap, pairs, List.map_flatMap]
  refine List.flatMap_congr fun r _ => ?_
  rw [filterMap_rowsOf hnone hsome, List.map_map]
  rfl

theorem capacity_joined (hne : s.requestsOf serverId ≠ []) :
    ((ofServer serverId s.joined.rows).head?.map Row.capacity).getD 0 = server.capacity := by
  rw [ofServer_joined s hrecord]
  obtain ⟨r, rest, hrequests⟩ := List.exists_cons_of_ne_nil hne
  rw [hrequests, List.flatMap_cons, List.head?_append, head?_rowsOf]
  rfl

/-- **The label of a server** is the one defined on the raw events. -/
theorem scoreGroup_joined [Scalar R] (hnodup : (s.recent.map Request.requestId).Nodup) :
    Label.scoreGroup (ofServer serverId s.joined.rows) = (s.label serverId).score := by
  rw [ofServer_joined s hrecord, Label.scoreGroup,
    Label.requestScores_flatMap server s.snapshotsOf (nodup_requestsOf hnodup serverId)]
  rfl

theorem failures_joined :
    Aggregation.failures (ofServer serverId s.joined.rows) = s.failures serverId := by
  rw [ofServer_joined s hrecord, failures_flatMap]
  rfl

end

section

variable {s : MemoryStore Float} {serverId : Int64} {server : Server}
  (hrecord : Join.lastRecord? s.servers serverId = some server)

include hrecord

/-- **The error rate of a server** is the one defined on the raw events. -/
theorem errorRate_joined :
    (Aggregation.errorRate (ofServer serverId s.joined.rows)).value = s.errorRate serverId := by
  rw [Aggregation.errorRate, failures_joined hrecord, totalConnections_joined hrecord, errorRate,
    Statistics.guardedRatio]
  by_cases hzero : s.connections serverId = 0
  · rw [if_pos hzero, if_pos hzero]
    rfl
  · rw [if_neg hzero, if_neg hzero]
    exact Binary64.clamp_quotient _ _

/-- **The response time of a server** is the one defined on the raw events.  The rows bring the
response times in order of their identifiers, which a percentile cannot see. -/
theorem responseP95_joined (hnodup : (s.recent.map Request.requestId).Nodup) :
    Aggregation.responseP95 (ofServer serverId s.joined.rows) = s.responseP95 serverId := by
  have htimes : Statistics.percentile (responseTimes (ofServer serverId s.joined.rows))
      Aggregation.percentile =
        Statistics.percentile ((s.measured serverId).map Request.responseTime) 95.0 := by
    rw [ofServer_joined s hrecord,
      responseTimes_flatMap server s.snapshotsOf (nodup_requestsOf hnodup serverId)]
    exact Binary64.percentile_eq_of_perm ((byId_perm _).map _) _
  rw [Aggregation.responseP95, htimes, responseP95]
  cases Statistics.percentile ((s.measured serverId).map Request.responseTime) 95.0 with
  | none => exact Scalar.larger_self 0.0
  | some p => rfl

/-- **The vector of a server** is the one defined on the raw events. -/
theorem vector_joined (hnodup : (s.recent.map Request.requestId).Nodup)
    (hne : s.requestsOf serverId ≠ []) :
    (reduced serverId (ofServer serverId s.joined.rows)).vector = s.vector serverId := by
  have hcpu : (ofServer serverId s.joined.rows).filterMap Row.cpuUsage =
      (s.pairs serverId).map fun p => p.2.cpuUsage :=
    filterMap_joined hrecord (fun _ _ => rfl) fun _ _ _ => rfl
  have hmemory : (ofServer serverId s.joined.rows).filterMap Row.memoryUsage =
      (s.pairs serverId).map fun p => p.2.memoryUsage :=
    filterMap_joined hrecord (fun _ _ => rfl) fun _ _ _ => rfl
  rw [reduced, vector, hcpu, hmemory, totalConnections_joined hrecord, errorRate_joined hrecord,
    responseP95_joined hrecord hnodup, capacity_joined hrecord hne, hrecord]
  rfl

end

/-! ## 4.  The computation -/

theorem fits_joined {R : Type} {s : MemoryStore R}
    (hfits : ∀ id ∈ s.observed, s.connections id < Word.bound) : Fits s.joined.rows := by
  intro id hid
  rw [serversOf_joined] at hid
  obtain ⟨⟨server, hrecord⟩, -⟩ := mem_observed.mp hid
  rw [totalConnections_joined hrecord]
  exact hfits id hid

/-- **Features and labels computed from the rows of a store are those defined on its raw
events.**  A store that can be read, whose recent requests have distinct identifiers, and whose
connections fit 64 bits for each server, has exactly one vector and one label for each server
with a record and a recent request, and none for any other. -/
theorem compute?_fetch (s : MemoryStore Float) (havailable : s.unavailable = none)
    (hnodup : (s.recent.map Request.requestId).Nodup)
    (hfits : ∀ id ∈ s.observed, s.connections id < Word.bound) :
    ∃ rows events c, (Source.memory s).fetch = (.ok rows, events) ∧ compute? rows = some c ∧
      c.aggregation.vectors = s.observed.map s.vector ∧
      c.labels = s.observed.map s.label ∧
      s.observed.Pairwise (· < ·) ∧
      (∀ id, id ∈ s.observed ↔ (∃ server ∈ s.servers, server.serverId = id) ∧
        ∃ r ∈ s.requests, r.serverId = id ∧
          s.now.keyBefore s.settings.lookback ≤ r.timestamp.key) ∧
      ∀ id ∈ s.observed, (s.vector id).activeConns.toNat = s.connections id := by
  have hserver : ∀ id ∈ s.observed, ∃ server, Join.lastRecord? s.servers id = some server :=
    fun id hid => (mem_observed.mp hid).1
  refine ⟨s.joined.rows, [s.joined.event], computed s.joined.rows, ?_, ?_, ?_, ?_, ?_, ?_, ?_⟩
  · rw [Source.fetch, havailable]
  · exact compute?_eq_some_iff.mpr ⟨fits_joined hfits, rfl⟩
  · show (serversOf s.joined.rows).map _ = _
    rw [serversOf_joined]
    refine List.map_congr_left fun id hid => ?_
    obtain ⟨server, hrecord⟩ := hserver id hid
    exact vector_joined hrecord hnodup (mem_observed.mp hid).2
  · show (serversOf s.joined.rows).map _ = _
    rw [serversOf_joined]
    refine List.map_congr_left fun id hid => ?_
    obtain ⟨server, hrecord⟩ := hserver id hid
    rw [scoreGroup_joined hrecord hnodup]
    rfl
  · exact pairwise_ascending _
  · intro id
    rw [mem_observed, exists_lastRecord?_iff, requestsOf_ne_nil_iff]
  · intro id hid
    exact UInt64.toNat_ofNat_of_lt (hfits id hid)

/-- A store with two requests of server 7, of which one failed and has two snapshots, a request
of server 8 without a snapshot, one of server 9 without a record, and one from long ago. -/
def sampleStore : MemoryStore Float where
  settings := .standard
  requests := [
    ⟨3, 7, .orEarliest 1000 0, 40, .failure⟩,
    ⟨1, 7, .orEarliest 2000 0, 80, .success⟩,
    ⟨2, 8, .orEarliest 1500 0, 10, .success⟩,
    ⟨4, 9, .orEarliest 1500 0, 10, .success⟩,
    ⟨1, 7, .orEarliest (-700000) 0, 10, .success⟩]
  snapshots := [
    ⟨7, .orEarliest 990 0, 50, 25, 3⟩,
    ⟨7, .orEarliest 940 0, 30, 35, -4⟩,
    ⟨7, .orEarliest 1001 0, 70, 75, 100⟩]
  servers := [⟨7, 100, none⟩, ⟨8, 50, none⟩, ⟨7, 200, none⟩, ⟨10, 5, none⟩]
  now := .orEarliest 3000 0
  unavailable := none

theorem sampleStore_observed : sampleStore.observed = [7, 8] := by cbv

theorem sampleStore_fits :
    ∀ id ∈ sampleStore.observed, sampleStore.connections id < Word.bound := by
  have hseven : sampleStore.connections 7 = 4 := by cbv
  have height : sampleStore.connections 8 = 1 := by cbv
  rw [sampleStore_observed]
  intro id hid
  rcases List.mem_pair.mp hid with rfl | rfl
  · rw [hseven]
    decide
  · rw [height]
    decide

/-- The sample store has vectors and labels of servers 7 and 8, with four connections and one. -/
theorem compute?_fetch_sampleStore :
    (sampleStore.unavailable = none ∧ (sampleStore.recent.map Request.requestId).Nodup ∧
      ∀ id ∈ sampleStore.observed, sampleStore.connections id < Word.bound) ∧
    ∃ rows events c, (Source.memory sampleStore).fetch = (.ok rows, events) ∧
      compute? rows = some c ∧
      c.aggregation.vectors = [sampleStore.vector 7, sampleStore.vector 8] ∧
      c.labels = [sampleStore.label 7, sampleStore.label 8] ∧
      sampleStore.connections 7 = 4 ∧ sampleStore.connections 8 = 1 ∧
      sampleStore.failures 7 = 2 := by
  have hnodup : (sampleStore.recent.map Request.requestId).Nodup := by decide
  obtain ⟨rows, events, c, hfetch, hc, hvectors, hlabels, -, -, -⟩ :=
    compute?_fetch sampleStore rfl hnodup sampleStore_fits
  rw [sampleStore_observed] at hvectors hlabels
  exact ⟨⟨rfl, hnodup, sampleStore_fits⟩, rows, events, c, hfetch, hc, hvectors, hlabels,
    by cbv, by cbv, by cbv⟩

end MemoryStore
end FleetScore
