import FleetScore.Proofs.Store.Matching

/-!
# The join is the naive join

The naive join has no index, no window and no calendar.  Time is an integer, the nanoseconds
from 1970, and for each request *all* snapshots are looked through:

    those of its server with  t - tolerance ≤ time ≤ t.

The requests come in order of time and identifier, ties as they were given; the snapshots of a
request in order of time, ties as they were given.  A request whose server has no record is
dropped; one that no snapshot was found for gets one row without metrics; and of several
records of a server the last one counts.

`join_eq_naiveJoin` says that the join answers exactly these rows, for every tolerance and
every store without leap seconds.  Two more facts stand beside it, because the integers of the
naive join hide what the program does: the saturated lower end of a window admits exactly the
snapshots that unbounded subtraction admits, and the metrics of a row are all present or all
absent, and if present taken within the tolerance before its request.
-/

namespace FleetScore
namespace Join

variable {R : Type}

/-- The snapshots of a request by plain arithmetic on nanoseconds, in order of time. -/
def naiveMatching (tolerance : Span) (snapshots : List (Snapshot R)) (request : Request R) :
    List (Snapshot R) :=
  (snapshots.filter fun s => decide (s.serverId = request.serverId ∧
      request.timestamp.nanoseconds - tolerance.nanoseconds ≤ s.timestamp.nanoseconds ∧
      s.timestamp.nanoseconds ≤ request.timestamp.nanoseconds)).mergeSort
    fun a b => decide (a.timestamp.nanoseconds ≤ b.timestamp.nanoseconds)

/-- Whether a request does not come after another: by nanoseconds, then by identifier. -/
def naiveRequestLe (a b : Request R) : Bool :=
  decide (a.timestamp.nanoseconds < b.timestamp.nanoseconds ∨
    a.timestamp.nanoseconds = b.timestamp.nanoseconds ∧ a.requestId ≤ b.requestId)

/-- The naive join. -/
def naiveJoin (tolerance : Span) (requests : List (Request R)) (snapshots : List (Snapshot R))
    (servers : List Server) : List (Row R) :=
  (requests.mergeSort naiveRequestLe).flatMap fun r =>
    replacement servers (naiveMatching tolerance snapshots r) r

/-- Without leap seconds the snapshots of a request are those found by plain arithmetic. -/
theorem matching_eq_naiveMatching {tolerance : Span} {snapshots : List (Snapshot R)}
    {request : Request R} (hrequest : request.timestamp.IsPlain)
    (hsnapshots : ∀ s ∈ snapshots, s.timestamp.IsPlain) :
    matching tolerance snapshots request = naiveMatching tolerance snapshots request := by
  have hfits : snapshots.filter (fits tolerance request) =
      snapshots.filter fun s => decide (s.serverId = request.serverId ∧
        request.timestamp.nanoseconds - tolerance.nanoseconds ≤ s.timestamp.nanoseconds ∧
        s.timestamp.nanoseconds ≤ request.timestamp.nanoseconds) := by
    refine List.filter_congr fun s hs => ?_
    rw [fits, Bool.eq_iff_iff, decide_eq_true_eq, decide_eq_true_eq,
      Instant.keyBefore_le_key_iff hrequest (hsnapshots s hs),
      Instant.key_le_key_iff (hsnapshots s hs) hrequest]
  rw [matching, naiveMatching, hfits]
  refine mergeSort_congr fun a ha b hb => ?_
  rw [Bool.eq_iff_iff, decide_eq_true_eq, Instant.le_iff]
  exact Instant.key_le_key_iff (hsnapshots a (List.mem_filter.mp ha).1)
    (hsnapshots b (List.mem_filter.mp hb).1)

/-- Without leap seconds requests are ordered by their nanoseconds. -/
theorem requestLe_eq_naiveRequestLe {a b : Request R} (ha : a.timestamp.IsPlain)
    (hb : b.timestamp.IsPlain) : requestLe a b = naiveRequestLe a b := by
  have hab := Instant.key_le_key_iff ha hb
  have hba := Instant.key_le_key_iff hb ha
  have hlt : a.timestamp.key < b.timestamp.key ↔
      a.timestamp.nanoseconds < b.timestamp.nanoseconds := by omega
  have heq : a.timestamp.key = b.timestamp.key ↔
      a.timestamp.nanoseconds = b.timestamp.nanoseconds := by omega
  rw [Bool.eq_iff_iff, requestLe_iff, naiveRequestLe, decide_eq_true_eq, hlt, heq]

theorem join_rows_eq_naive {tolerance : Span} {requests : List (Request R)}
    {snapshots : List (Snapshot R)} {servers : List Server}
    (hrequests : ∀ r ∈ requests, r.timestamp.IsPlain)
    (hsnapshots : ∀ s ∈ snapshots, s.timestamp.IsPlain) :
    (join tolerance requests snapshots servers).rows =
      naiveJoin tolerance requests snapshots servers := by
  rw [join_rows, naiveJoin, mergeSort_congr fun a ha b hb =>
    requestLe_eq_naiveRequestLe (hrequests a ha) (hrequests b hb)]
  refine List.flatMap_congr fun r hr => ?_
  rw [matching_eq_naiveMatching (hrequests r (List.mem_mergeSort.mp hr)) hsnapshots]

/-! ## The metrics of a row -/

/-- Whether the metrics of a row are one snapshot, taken within the tolerance before its
request, or are all absent. -/
def MetricsBelong (tolerance : Span) (row : Row R) : Prop :=
  (row.cpuUsage.isSome = row.metricTimestamp.isSome ∧
    row.memoryUsage.isSome = row.metricTimestamp.isSome ∧
    row.requestCount.isSome = row.metricTimestamp.isSome) ∧
  ∀ taken, row.metricTimestamp = some taken →
    row.timestamp.nanoseconds - tolerance.nanoseconds ≤ taken.nanoseconds ∧
      taken.nanoseconds ≤ row.timestamp.nanoseconds

theorem metricsBelong_of_mem_naiveJoin {tolerance : Span} {requests : List (Request R)}
    {snapshots : List (Snapshot R)} {servers : List Server} {row : Row R}
    (hrow : row ∈ naiveJoin tolerance requests snapshots servers) :
    MetricsBelong tolerance row := by
  obtain ⟨r, -, hrow⟩ := List.mem_flatMap.mp hrow
  rw [replacement] at hrow
  split at hrow
  · exact absurd hrow List.not_mem_nil
  · rename_i server _
    rw [rowsOf] at hrow
    split at hrow
    · rw [List.mem_singleton.mp hrow]
      exact ⟨⟨rfl, rfl, rfl⟩, fun taken h => absurd h.symm (Option.some_ne_none taken)⟩
    · obtain ⟨s, hs, rfl⟩ := List.mem_map.mp hrow
      have hs := (List.mem_filter.mp (List.mem_mergeSort.mp hs)).2
      rw [decide_eq_true_eq] at hs
      refine ⟨⟨rfl, rfl, rfl⟩, fun taken h => ?_⟩
      rw [← Option.some.inj h]
      exact hs.2

/-- **The join is the naive join.**  For every tolerance and all records outside of leap
seconds the rows are those of the naive join; the lower end of every window is exact; and the
metrics of every row belong to its request. -/
theorem join_eq_naiveJoin (tolerance : Span) (requests : List (Request R))
    (snapshots : List (Snapshot R)) (servers : List Server)
    (hrequests : ∀ r ∈ requests, r.timestamp.IsPlain)
    (hsnapshots : ∀ s ∈ snapshots, s.timestamp.IsPlain) :
    (join tolerance requests snapshots servers).rows =
        naiveJoin tolerance requests snapshots servers ∧
      (∀ r ∈ requests, ∀ s ∈ snapshots,
        (r.timestamp.back tolerance).le s.timestamp = true ↔
          r.timestamp.nanoseconds - tolerance.nanoseconds ≤ s.timestamp.nanoseconds) ∧
      ∀ row ∈ (join tolerance requests snapshots servers).rows,
        MetricsBelong tolerance row := by
  refine ⟨join_rows_eq_naive hrequests hsnapshots, fun r hr s hs => ?_, fun row hrow => ?_⟩
  · rw [Instant.back_le_iff]
    exact Instant.keyBefore_le_key_iff (hrequests r hr) (hsnapshots s hs) tolerance
  · rw [join_rows_eq_naive hrequests hsnapshots] at hrow
    exact metricsBelong_of_mem_naiveJoin hrow

/-! ### A tolerance beyond the calendar -/

/-- The longest tolerance there is. -/
def endlessTolerance : Span := .ofSeconds 18446744073709551615

/-- A request two minutes into 1970. -/
def earlyRequests : List (Request Nat) :=
  [⟨1, 7, .orEarliest 120 0, 5, .success⟩]

/-- Snapshots at the request, a nanosecond after it, at the first instant of all, and one of
another server. -/
def farSnapshots : List (Snapshot Nat) :=
  [⟨7, .orEarliest 120 0, 1, 2, 3⟩, ⟨7, .orEarliest 120 1, 1, 2, 3⟩,
    ⟨7, .earliest, 4, 5, 6⟩, ⟨8, .earliest, 7, 8, 9⟩]

/-- Two records of one server. -/
def repeatedServers : List Server := [⟨7, 100, none⟩, ⟨7, 200, some 3⟩]

/-- Going back for longer than there is a calendar finds the first instant of all, leaves the
snapshot after the request out, and takes the capacity from the second record. -/
theorem join_eq_naiveJoin_endless :
    ((∀ r ∈ earlyRequests, r.timestamp.IsPlain) ∧ ∀ s ∈ farSnapshots, s.timestamp.IsPlain) ∧
      (join endlessTolerance earlyRequests farSnapshots repeatedServers).rows =
        naiveJoin endlessTolerance earlyRequests farSnapshots repeatedServers ∧
      (∀ r ∈ earlyRequests, ∀ s ∈ farSnapshots,
        (r.timestamp.back endlessTolerance).le s.timestamp = true ↔
          r.timestamp.nanoseconds - endlessTolerance.nanoseconds ≤ s.timestamp.nanoseconds) ∧
      (∀ row ∈ (join endlessTolerance earlyRequests farSnapshots repeatedServers).rows,
        MetricsBelong endlessTolerance row) ∧
      ((join endlessTolerance earlyRequests farSnapshots repeatedServers).rows.map fun row =>
        (row.metricTimestamp.map Instant.nanoseconds, row.capacity)) =
        [(some (-8334601228800000000000), 200), (some 120000000000, 200)] := by
  have hrequests : ∀ r ∈ earlyRequests, r.timestamp.IsPlain := by decide
  have hsnapshots : ∀ s ∈ farSnapshots, s.timestamp.IsPlain := by decide
  obtain ⟨hrows, hlower, hmetrics⟩ := join_eq_naiveJoin endlessTolerance earlyRequests
    farSnapshots repeatedServers hrequests hsnapshots
  exact ⟨⟨hrequests, hsnapshots⟩, hrows, hlower, hmetrics, by cbv⟩

end Join
end FleetScore
