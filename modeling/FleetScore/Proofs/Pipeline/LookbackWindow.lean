import FleetScore.Proofs.Pipeline.RawEvents

/-!
# The lookback window and the join

A store first leaves out the requests before its window and then joins the rest.  One may as well
join everything and then leave out rows: a row has the instant of its request, so a request is
replaced by rows that are all in the window or all before it, and whatever is found for a request
is found in all snapshots and does not depend on which other requests there are.

* `Join.filter_join_rows` --- leaving out rows by their instants is leaving out requests by
  theirs, whatever the test;
* `MemoryStore.joined_rows_eq_filter` --- so the rows of a store are those of all its requests
  that are at or after the exact start of its window.  The start is a position without bounds, by
  `inWindow_eq_recent`: neither the longest span nor the end of the calendar can be seen.

## The length of the window

The rows come in order of their instants (`Join.pairwise_join_rows`).  A window of another length
is another test of the same rows, and a shorter window is a stricter one, so its rows are the last
ones of a longer window (`MemoryStore.joined_withLookback_isSuffix`).
-/

namespace FleetScore
namespace Join

variable {R : Type}

/-! ## 1.  The instants of rows -/

theorem timestamp_of_mem_replacement {servers : List Server} {ms : List (Snapshot R)}
    {request : Request R} {row : Row R} (hrow : row ∈ replacement servers ms request) :
    row.timestamp = request.timestamp := by
  rw [replacement] at hrow
  split at hrow
  · exact absurd hrow List.not_mem_nil
  · obtain ⟨m, rfl⟩ := exists_of_mem_rowsOf hrow
    rfl

/-- **Leaving out rows by their instants is leaving out requests**, before they are joined. -/
theorem filter_join_rows (keep : Instant → Bool) (tolerance : Span)
    (requests : List (Request R)) (snapshots : List (Snapshot R)) (servers : List Server) :
    ((join tolerance requests snapshots servers).rows.filter fun row => keep row.timestamp) =
      (join tolerance (requests.filter fun r => keep r.timestamp) snapshots servers).rows := by
  rw [join_rows, join_rows, ← filter_mergeSort sorts_requestLe]
  refine filter_flatMap_block fun r _ row hrow => ?_
  rw [timestamp_of_mem_replacement hrow]

/-- **The rows of a join come in order of their instants.** -/
theorem pairwise_join_rows (tolerance : Span) (requests : List (Request R))
    (snapshots : List (Snapshot R)) (servers : List Server) :
    (join tolerance requests snapshots servers).rows.Pairwise fun a b =>
      a.timestamp.key ≤ b.timestamp.key := by
  rw [join_rows, List.pairwise_flatMap]
  constructor
  · -- the rows of one request share its instant
    intro r _
    refine List.pairwise_of_forall_mem_list ?_
    intro a ha b hb
    rw [timestamp_of_mem_replacement ha, timestamp_of_mem_replacement hb]
  · refine (sorts_requestLe.pairwise requests).imp ?_
    intro r r' hle a ha b hb
    rw [timestamp_of_mem_replacement ha, timestamp_of_mem_replacement hb]
    rcases (requestLe_iff r r').mp hle with h | ⟨h, -⟩
    · exact Int.le_of_lt h
    · exact Int.le_of_eq h

end Join

namespace MemoryStore

variable {R : Type}

/-! ## 2.  The window of a store -/

/-- The rows of all requests of a store, however old. -/
def allRows (s : MemoryStore R) : List (Row R) :=
  (Join.join s.settings.tolerance s.requests s.snapshots s.servers).rows

/-- The store with another lookback window. -/
def withLookback (s : MemoryStore R) (lookback : Span) : MemoryStore R :=
  { s with settings := { s.settings with lookback := lookback } }

/-- **The window may be cut after the join.**  Its start is an exact position. -/
theorem joined_rows_eq_filter (s : MemoryStore R) :
    s.joined.rows = s.allRows.filter fun row =>
      decide (s.now.keyBefore s.settings.lookback ≤ row.timestamp.key) := by
  have hfilter := Join.filter_join_rows
    (fun t => decide (s.now.keyBefore s.settings.lookback ≤ t.key)) s.settings.tolerance
    s.requests s.snapshots s.servers
  rw [joined, inWindow_eq_recent, allRows, hfilter, recent]

theorem exists_request_of_mem_allRows {s : MemoryStore R} {row : Row R} (hrow : row ∈ s.allRows) :
    ∃ r ∈ s.requests, row.timestamp = r.timestamp := by
  rw [allRows, Join.join_rows] at hrow
  obtain ⟨r, hr, hrow⟩ := List.mem_flatMap.mp hrow
  exact ⟨r, List.mem_mergeSort.mp hr, Join.timestamp_of_mem_replacement hrow⟩

/-- **A recent request has a row for each snapshot that fits it**, however old the snapshot. -/
theorem matched_mem_joined {s : MemoryStore R} {request : Request R} {server : Server}
    {snapshot : Snapshot R} (hrequest : request ∈ s.recent)
    (hrecord : Join.lastRecord? s.servers request.serverId = some server)
    (hsnapshot : snapshot ∈ s.snapshots)
    (hfits : Join.fits s.settings.tolerance request snapshot = true) :
    Row.matched request server snapshot ∈ s.joined.rows := by
  have hmatching : snapshot ∈ s.snapshotsOf request :=
    List.mem_mergeSort.mpr (List.mem_filter.mpr ⟨hsnapshot, hfits⟩)
  rw [joined_rows, List.mem_flatMap]
  refine ⟨request, List.mem_mergeSort.mpr hrequest, ?_⟩
  rw [Join.replacement, hrecord]
  show Row.matched request server snapshot ∈ Join.rowsOf request server (s.snapshotsOf request)
  rw [Join.rowsOf, if_neg (by simpa using List.ne_nil_of_mem hmatching)]
  exact List.mem_map.mpr ⟨snapshot, hmatching, rfl⟩

/-- **A shorter window has the last rows of a longer one.** -/
theorem joined_withLookback_isSuffix (s : MemoryStore R) {shorter longer : Span}
    (h : shorter.nanoseconds ≤ longer.nanoseconds) :
    (s.withLookback shorter).joined.rows <:+ (s.withLookback longer).joined.rows := by
  rw [joined_rows_eq_filter, joined_rows_eq_filter]
  have hantitone := s.now.keyBefore_antitone h
  refine filter_isSuffix_filter ?_ ?_
  · refine (Join.pairwise_join_rows _ _ _ _).imp ?_
    intro a b hab ha
    rw [decide_eq_true_eq] at ha ⊢
    exact Int.le_trans ha hab
  · intro row hrow
    rw [decide_eq_true_eq] at hrow ⊢
    exact Int.le_trans hantitone hrow

/-- **The lookback window commutes with the join.**  In a store that can be read, whose instants
are outside of leap seconds, let the window start at now less the lookback, an integer of
nanoseconds without bounds.

* What is fetched is the join of all requests, less the rows before the start.
* The instant that requests are compared with may be another one, because the lookback counts as
  the longest span or because the calendar ends.  No request can tell.
* A request in the window is matched with each snapshot of its server that was taken at most the
  tolerance before it, also with one from before the window.
* Rows from now on are all fetched, although they are later than the end of the window.
* What is fetched with a shorter lookback is the end of what is fetched with a longer one. -/
theorem fetch_lookback {s : MemoryStore R} (havailable : s.unavailable = none)
    (hnow : s.now.IsPlain) (hrequests : ∀ r ∈ s.requests, r.timestamp.IsPlain)
    (hsnapshots : ∀ m ∈ s.snapshots, m.timestamp.IsPlain) :
    ∃ rows, (Source.memory s).fetch.1 = .ok rows ∧
      (rows = s.allRows.filter fun row => decide (s.now.nanoseconds -
        s.settings.lookback.nanoseconds ≤ row.timestamp.nanoseconds)) ∧
      (∀ r ∈ s.requests, s.cutoff.le r.timestamp = true ↔
        s.now.nanoseconds - s.settings.lookback.nanoseconds ≤ r.timestamp.nanoseconds) ∧
      (∀ r ∈ s.requests,
        s.now.nanoseconds - s.settings.lookback.nanoseconds ≤ r.timestamp.nanoseconds →
        ∀ server, Join.lastRecord? s.servers r.serverId = some server →
        ∀ m ∈ s.snapshots, m.serverId = r.serverId →
        r.timestamp.nanoseconds - s.settings.tolerance.nanoseconds ≤ m.timestamp.nanoseconds →
        m.timestamp.nanoseconds ≤ r.timestamp.nanoseconds → Row.matched r server m ∈ rows) ∧
      (∀ row ∈ s.allRows, s.now.nanoseconds ≤ row.timestamp.nanoseconds → row ∈ rows) ∧
      ∀ shorter longer : Span, shorter.nanoseconds ≤ longer.nanoseconds →
        ∃ last all, (Source.memory (s.withLookback shorter)).fetch.1 = .ok last ∧
          (Source.memory (s.withLookback longer)).fetch.1 = .ok all ∧ last <:+ all := by
  have hstart : ∀ t : Instant, t.IsPlain → (s.now.keyBefore s.settings.lookback ≤ t.key ↔
      s.now.nanoseconds - s.settings.lookback.nanoseconds ≤ t.nanoseconds) :=
    fun t ht => Instant.keyBefore_le_key_iff hnow ht s.settings.lookback
  have hrows : s.joined.rows = s.allRows.filter fun row => decide (s.now.nanoseconds -
      s.settings.lookback.nanoseconds ≤ row.timestamp.nanoseconds) := by
    rw [joined_rows_eq_filter]
    refine List.filter_congr fun row hrow => decide_eq_decide.mpr ?_
    obtain ⟨r, hr, htimestamp⟩ := exists_request_of_mem_allRows hrow
    rw [htimestamp]
    exact hstart r.timestamp (hrequests r hr)
  refine ⟨s.joined.rows, ?_, hrows, ?_, ?_, ?_, ?_⟩
  · rw [fetch_of_available havailable]
  · intro r hr
    rw [cutoff, Instant.back_le_iff]
    exact hstart r.timestamp (hrequests r hr)
  · intro r hr hlate server hrecord m hm hserver hafter hbefore
    refine matched_mem_joined (List.mem_filter.mpr ⟨hr, ?_⟩) hrecord hm ?_
    · exact decide_eq_true ((hstart r.timestamp (hrequests r hr)).mpr hlate)
    · rw [Join.fits, decide_eq_true_eq]
      refine ⟨hserver, ?_, ?_⟩
      · exact (Instant.keyBefore_le_key_iff (hrequests r hr) (hsnapshots m hm) _).mpr hafter
      · exact (Instant.key_le_key_iff (hsnapshots m hm) (hrequests r hr)).mpr hbefore
  · intro row hrow hlater
    rw [hrows, List.mem_filter, decide_eq_true_eq]
    refine ⟨hrow, ?_⟩
    have hpositive : 0 ≤ s.settings.lookback.nanoseconds := by
      rw [Span.nanoseconds]
      omega
    omega
  · intro shorter longer h
    refine ⟨_, _, ?_, ?_, joined_withLookback_isSuffix s h⟩
    · exact congrArg Prod.fst (fetch_of_available (s := s.withLookback shorter) havailable)
    · exact congrArg Prod.fst (fetch_of_available (s := s.withLookback longer) havailable)

/-! ### A store with records at both ends of its window -/

/-- A store with a window of 100 seconds before second 1000.  One request is in the window, and its
snapshot from before the window; one is before the window and one after now. -/
def marginStore : MemoryStore Float where
  settings := { StoreSettings.standard with lookback := .ofSeconds 100 }
  requests := [
    ⟨3, 7, .orEarliest 1200 0, 40, .failure⟩,
    ⟨1, 7, .orEarliest 950 0, 80, .success⟩,
    ⟨2, 7, .orEarliest 800 0, 10, .success⟩]
  snapshots := [⟨7, .orEarliest 895 0, 50, 25, 3⟩]
  servers := [⟨7, 100, none⟩]
  now := .orEarliest 1000 0
  unavailable := none

/-- The longest span that can be configured. -/
def endless : Span := .ofParts 18446744073709551615 999999999

/-- The request in the window is fetched with its snapshot and the later one without any.  With an
endless lookback the earlier one is fetched as well, and comes before them. -/
theorem fetch_lookback_marginStore :
    (marginStore.unavailable = none ∧ marginStore.now.IsPlain ∧
      (∀ r ∈ marginStore.requests, r.timestamp.IsPlain) ∧
      ∀ m ∈ marginStore.snapshots, m.timestamp.IsPlain) ∧
    (marginStore.withLookback endless).cutoff = Instant.earliest ∧
    ∃ last all, (Source.memory marginStore).fetch.1 = .ok last ∧
      (Source.memory (marginStore.withLookback endless)).fetch.1 = .ok all ∧ last <:+ all ∧
      (last.map fun row => (row.requestId, row.metricTimestamp.map Instant.nanoseconds)) =
        [(1, some 895000000000), (3, none)] ∧
      (all.map fun row => (row.requestId, row.metricTimestamp.map Instant.nanoseconds)) =
        [(2, none), (1, some 895000000000), (3, none)] := by
  have hrequests : ∀ r ∈ marginStore.requests, r.timestamp.IsPlain := by decide
  have hsnapshots : ∀ m ∈ marginStore.snapshots, m.timestamp.IsPlain := by decide
  obtain ⟨rows, hfetch, -, -, -, -, hsuffix⟩ :=
    fetch_lookback (s := marginStore) rfl (by decide) hrequests hsnapshots
  obtain ⟨last, all, hlast, hall, h⟩ := hsuffix (.ofSeconds 100) endless (by decide)
  refine ⟨⟨rfl, by decide, hrequests, hsnapshots⟩, by decide, last, all, hlast, hall, h, ?_, ?_⟩
  · obtain rfl := Except.ok.inj hlast
    cbv
  · obtain rfl := Except.ok.inj hall
    cbv

end MemoryStore
end FleetScore
