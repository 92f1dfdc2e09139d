import FleetScore.Store.Join
import FleetScore.Proofs.Order.Groups
import FleetScore.Proofs.Order.StableOrder
import FleetScore.Proofs.Time.Backwards

/-!
# What the join answers for one request

`Join.join` builds an index of all snapshots by server, puts each series in order of time, and
cuts a window out of a series for each request.  Nothing of this is visible in the answer.
What is visible is a choice: `matching` chooses the snapshots of a request from *all*
snapshots by one test, `fits`, and puts what was chosen in order of time.

* `window_seriesOf` --- the window that is cut out of the index is `matching`.  The index is
  opened by `lookup_grouped`; the two ends of the window become two filters because a series
  is in order; choosing and sorting commute; and the lower end is exact by
  `Instant.back_le_iff`, wherever the calendar ends.
* `serverRecord?_eq_lastRecord?` --- the record that counts is the last one listed.
* `join_rows` --- so the rows are those of the requests in order, each request replaced on its
  own by `replacement`.
-/

namespace FleetScore
namespace Join

variable {R : Type}

/-- Whether a snapshot is one of a request: it is of the same server, and it was taken at the
instant of the request or at most the tolerance before. -/
def fits (tolerance : Span) (request : Request R) (snapshot : Snapshot R) : Bool :=
  decide (snapshot.serverId = request.serverId ∧
    request.timestamp.keyBefore tolerance ≤ snapshot.timestamp.key ∧
    snapshot.timestamp.key ≤ request.timestamp.key)

/-- The snapshots of a request in order of time. -/
def matching (tolerance : Span) (snapshots : List (Snapshot R)) (request : Request R) :
    List (Snapshot R) :=
  (snapshots.filter (fits tolerance request)).mergeSort fun a b => a.timestamp.le b.timestamp

/-- The last record listed of a server. -/
def lastRecord? (servers : List Server) (serverId : Int64) : Option Server :=
  (servers.filter fun s => decide (s.serverId = serverId)).getLast?

/-- The row of a request with a snapshot, or with none. -/
def rowOf (request : Request R) (server : Server) (snapshot : Option (Snapshot R)) : Row R where
  requestId := request.requestId
  serverId := request.serverId
  timestamp := request.timestamp
  responseTime := request.responseTime
  status := request.status
  capacity := server.capacity
  weight := server.weight
  metricTimestamp := snapshot.map Snapshot.timestamp
  cpuUsage := snapshot.map Snapshot.cpuUsage
  memoryUsage := snapshot.map Snapshot.memoryUsage
  requestCount := snapshot.map Snapshot.requestCount

/-- The rows of a request whose server is known: one for each snapshot, or a single one. -/
def rowsOf (request : Request R) (server : Server) (snapshots : List (Snapshot R)) :
    List (Row R) :=
  if snapshots.isEmpty then [rowOf request server none]
  else snapshots.map fun snapshot => rowOf request server (some snapshot)

/-- What a request is replaced by: nothing if its server has no record. -/
def replacement (servers : List Server) (snapshots : List (Snapshot R)) (request : Request R) :
    List (Row R) :=
  match lastRecord? servers request.serverId with
  | none => []
  | some server => rowsOf request server snapshots

/-! ## The orders of the join -/

theorem sorts_timestamp : Sorts fun a b : Snapshot R => a.timestamp.le b.timestamp where
  trans a b c := Instant.le_trans a.timestamp b.timestamp c.timestamp
  total a b := Instant.le_total a.timestamp b.timestamp

theorem requestLe_iff (a b : Request R) :
    requestLe a b = true ↔ a.timestamp.key < b.timestamp.key ∨
      a.timestamp.key = b.timestamp.key ∧ a.requestId ≤ b.requestId := by
  rw [requestLe, Bool.or_eq_true, Bool.and_eq_true, Instant.lt_iff, Instant.le_iff,
    decide_eq_true_eq]
  constructor
  · rintro (h | ⟨h, hid⟩)
    · exact Or.inl h
    · rcases Int.lt_or_eq_of_le h with h | h
      · exact Or.inl h
      · exact Or.inr ⟨h, hid⟩
  · rintro (h | ⟨h, hid⟩)
    · exact Or.inl h
    · exact Or.inr ⟨Int.le_of_eq h, hid⟩

theorem sorts_requestLe : Sorts (requestLe : Request R → Request R → Bool) where
  trans a b c hab hbc := by
    rw [requestLe_iff] at hab hbc ⊢
    rcases hab with hab | ⟨hab, hid⟩
    · rcases hbc with hbc | ⟨hbc, -⟩ <;> exact Or.inl (by omega)
    · rcases hbc with hbc | ⟨hbc, hid'⟩
      · exact Or.inl (by omega)
      · exact Or.inr ⟨hab.trans hbc, Int64.le_trans hid hid'⟩
  total a b := by
    rw [Bool.or_eq_true, requestLe_iff, requestLe_iff]
    rcases lt_trichotomy a.timestamp.key b.timestamp.key with h | h | h
    · exact Or.inl (Or.inl h)
    · rcases Int64.le_total a.requestId b.requestId with hid | hid
      · exact Or.inl (Or.inr ⟨h, hid⟩)
      · exact Or.inr (Or.inr ⟨h.symm, hid⟩)
    · exact Or.inr (Or.inl h)

/-! ## The index and its windows -/

/-- A series of the index is the snapshots of its server, in order of time. -/
theorem seriesOf_series (snapshots : List (Snapshot R)) (serverId : Int64) :
    seriesOf (series snapshots) serverId =
      (snapshots.filter fun s => decide (s.serverId = serverId)).mergeSort
        fun a b => a.timestamp.le b.timestamp := by
  have hlookup : ∀ groups : List (Int64 × List (Snapshot R)),
      seriesOf (groups.map fun group =>
          (group.1, group.2.mergeSort fun a b => a.timestamp.le b.timestamp)) serverId =
        ((groups.lookup serverId).getD []).mergeSort fun a b => a.timestamp.le b.timestamp := by
    intro groups
    rw [seriesOf]
    induction groups with
    | nil => exact List.mergeSort_nil.symm
    | cons group groups ih =>
      obtain ⟨id, members⟩ := group
      rw [List.map_cons, List.lookup_cons, List.lookup_cons]
      cases serverId == id with
      | true => rfl
      | false => exact ih
  rw [series, hlookup, lookup_grouped]

/-- A window is cut out of a series in order of time by its two ends. -/
theorem window_eq_filter {lower upper : Instant} {series : List (Snapshot R)}
    (hsorted : series.Pairwise fun a b => a.timestamp.le b.timestamp = true) :
    window lower upper series =
      series.filter fun s => s.timestamp.le upper && !s.timestamp.lt lower := by
  -- once a snapshot is late enough, so are all that follow
  have hlower : series.Pairwise fun a b =>
      b.timestamp.lt lower = true → a.timestamp.lt lower = true := by
    refine hsorted.imp fun {a b} hab hb => ?_
    rw [Instant.le_iff] at hab
    rw [Instant.lt_iff] at hb ⊢
    omega
  have hupper : series.Pairwise fun a b =>
      b.timestamp.le upper = true → a.timestamp.le upper = true :=
    hsorted.imp fun {a b} hab hb => Instant.le_trans _ _ _ hab hb
  rw [window, dropWhile_eq_filter hlower, takeWhile_eq_filter (hupper.filter _),
    List.filter_filter]

/-- **The window of a request holds the snapshots that fit it**, in order of time. -/
theorem window_seriesOf (tolerance : Span) (snapshots : List (Snapshot R))
    (request : Request R) :
    window (request.timestamp.back tolerance) request.timestamp
        (seriesOf (series snapshots) request.serverId) =
      matching tolerance snapshots request := by
  rw [seriesOf_series, window_eq_filter (sorts_timestamp.pairwise _),
    filter_mergeSort sorts_timestamp, List.filter_filter, matching]
  congr 1
  refine List.filter_congr fun s _ => ?_
  have hlate : (!s.timestamp.lt (request.timestamp.back tolerance)) = true ↔
      request.timestamp.keyBefore tolerance ≤ s.timestamp.key := by
    rw [← Instant.back_le_iff, Instant.le_iff, Bool.not_eq_true', ← Bool.not_eq_true,
      Instant.lt_iff, Int.not_lt]
  rw [Bool.eq_iff_iff, fits, decide_eq_true_eq, Bool.and_eq_true, Bool.and_eq_true,
    decide_eq_true_eq, hlate, Instant.le_iff]
  tauto

/-! ## The rows -/

theorem serverRecord?_eq_lastRecord? (servers : List Server) (serverId : Int64) :
    serverRecord? servers serverId = lastRecord? servers serverId := by
  rw [serverRecord?, lastRecord?, ← List.head?_filter, List.filter_reverse, List.head?_reverse]

theorem rows_find (tolerance : Span) (servers : List Server) (snapshots : List (Snapshot R))
    (request : Request R) :
    (find tolerance servers (series snapshots) request).rows request =
      replacement servers (matching tolerance snapshots request) request := by
  rw [find, replacement, window_seriesOf, serverRecord?_eq_lastRecord?]
  cases lastRecord? servers request.serverId with
  | none => rfl
  | some server =>
    cases matching tolerance snapshots request with
    | nil => rfl
    | cons snapshot rest => rfl

/-- **The join replaces each request on its own**, in the order of the requests. -/
theorem join_rows (tolerance : Span) (requests : List (Request R))
    (snapshots : List (Snapshot R)) (servers : List Server) :
    (join tolerance requests snapshots servers).rows =
      (requests.mergeSort requestLe).flatMap fun r =>
        replacement servers (matching tolerance snapshots r) r := by
  rw [join]
  dsimp only
  rw [List.flatMap_map]
  refine List.flatMap_congr fun r _ => ?_
  exact rows_find tolerance servers snapshots r

end Join
end FleetScore
