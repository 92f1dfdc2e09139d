import FleetScore.Proofs.Pipeline.Courses

/-!
# What a run on a store ends with

Which of its courses a run takes is decided by its store in two steps.  A store that cannot be read
ends the run, with the store's reason.  A store that has nothing to join --- no recent request has a
server with a record --- ends it with an empty report.  Otherwise the run has rows, and either it
finishes with a report that describes the servers of the store, with a model and its files, or it
fails in one of three ways: `Failure.IsLate` names them.

## Rows without metrics

They are counted where rows are made, where they are logged, where they are reduced, and in the
report.  The join counts requests, and everybody else counts rows.  It is the same, because a
request without a snapshot has one row and a request with snapshots has no row without metrics
(`Join.nullRows_join`).
-/

namespace FleetScore

open Aggregation

/-! ## 1.  Rows without metrics -/

namespace Join

variable {R : Type}

/-- Of one request, the row without metrics is there exactly if no snapshot is. -/
theorem nullRows_found (request : Request R) (found : Found R) :
    nullRows (found.rows request) = found.isUnmatched.toNat := by
  cases found with
  | orphaned => rfl
  | known server snapshots =>
    cases snapshots with
    | nil => rfl
    | cons m ms =>
      refine List.countP_eq_zero.mpr fun row hrow => ?_
      obtain ⟨m', -, rfl⟩ := List.mem_map.mp hrow
      exact Bool.false_ne_true

/-- **Rows without metrics are requests without a snapshot.** -/
theorem nullRows_join (tolerance : Span) (requests : List (Request R))
    (snapshots : List (Snapshot R)) (servers : List Server) :
    nullRows (join tolerance requests snapshots servers).rows =
      (join tolerance requests snapshots servers).unmatched := by
  rw [join]
  dsimp only
  generalize (requests.mergeSort requestLe).map
    (fun r => (r, find tolerance servers (series snapshots) r)) = found
  induction found with
  | nil => rfl
  | cons f found ih =>
    have hhead := nullRows_found f.1 f.2
    rw [nullRows] at ih hhead ⊢
    rw [List.flatMap_cons, List.countP_append, List.countP_cons, ih, hhead, Nat.add_comm]
    cases f.2.isUnmatched <;> rfl

end Join

/-! ## 2.  What is there to be said of a run -/

/-- Whether a failure is one that a run ends with after it had rows: training diverges, parity
blocks the export, or a file stands in its way. -/
def Failure.IsLate : Failure → Prop
  | .training (.diverged _) => True
  | .featureSetMismatch _ => True
  | .artifact _ _ => True
  | _ => False

/-- Whether a report describes the rows of a store: it counts them, and has a vector and a label for
each server with a record and a recent request, and for no other, and it has a model and its
files. -/
structure RunReport.Describes (report : RunReport) (s : MemoryStore Float) : Prop where
  dataset : report.dataset = .populated s.joined.rows.length
  rows : 0 < s.joined.rows.length
  ascending : (report.features.map FeatureVector.serverId).Pairwise (· < ·)
  servers : ∀ id, id ∈ report.features.map FeatureVector.serverId ↔
    (∃ server ∈ s.servers, server.serverId = id) ∧ ∃ r ∈ s.inWindow, r.serverId = id
  labels : report.labels.map Label.serverId = report.features.map FeatureVector.serverId
  trained : report.trained.isSome = true
  exported : report.exported.isSome = true

/-- Whether everybody who counts the rows without metrics of a store in a run counts the same:
the join, whoever counts them in the rows, the log, where the join and the run speak one after
the other, the gauge, the aggregation and the report. -/
structure RunOutcome.AgreesOn (o : RunOutcome) (log : RunLog) (s : MemoryStore Float) : Prop where
  counted : nullRows s.joined.rows = s.joined.unmatched
  logged : ∃ started rest, o.events = started :: s.joined.event ::
    log.dataset s.joined.rows.length s.joined.unmatched :: rest
  gauged : o.state.metrics.nullMetricRows = s.joined.unmatched
  aggregated : ∃ c, compute? s.joined.rows = some c ∧
    c.aggregation.nullMetricRows = s.joined.unmatched
  reported : ∀ report, o.result = .ok report → report.nullMetricRows = s.joined.unmatched

/-! ## 3.  Runs on a store -/

namespace MemoryStore

/-- **A store has no rows exactly if no recent request has a server with a record.** -/
theorem joined_rows_eq_nil_iff {R : Type} {s : MemoryStore R} :
    s.joined.rows = [] ↔
      ∀ r ∈ s.inWindow, ∀ server ∈ s.servers, server.serverId ≠ r.serverId := by
  rw [joined_rows, List.flatMap_eq_nil_iff, inWindow_eq_recent]
  refine forall_congr' fun r => ?_
  rw [List.mem_mergeSort, replacement_eq_nil_iff, ← Option.not_isSome_iff_eq_none,
    Option.isSome_iff_exists, exists_lastRecord?_iff]
  push Not
  exact Iff.rfl

/-- **The servers that are described** are those with a record and a recent request. -/
theorem mem_serversOf_joined {R : Type} {s : MemoryStore R} {id : Int64} :
    id ∈ serversOf s.joined.rows ↔
      (∃ server ∈ s.servers, server.serverId = id) ∧ ∃ r ∈ s.inWindow, r.serverId = id := by
  rw [serversOf_joined, mem_observed, exists_lastRecord?_iff, inWindow_eq_recent]
  refine and_congr_right fun _ => ?_
  constructor
  · intro hne
    obtain ⟨r, hr⟩ := List.exists_mem_of_ne_nil _ hne
    exact ⟨r, mem_requestsOf.mp hr⟩
  · rintro ⟨r, hr⟩
    exact List.ne_nil_of_mem (mem_requestsOf.mpr hr)

theorem nullRows_joined {R : Type} (s : MemoryStore R) :
    nullRows s.joined.rows = s.joined.unmatched :=
  Join.nullRows_join _ _ _ _

end MemoryStore

namespace Pipeline

section

variable {s : MemoryStore Float} {training : Training.Config Float} {exporter : Exporter}
  {log : RunLog} {now : Instant} {state : ProcessState} {e : RunOutcome}

theorem eq_of_fetch (havailable : s.unavailable = none)
    {fetched : Except StoreFault (List (Row Float))} {events : List Event}
    (hfetch : (⟨.memory s, training, exporter⟩ : Pipeline).source.fetch = (fetched, events)) :
    fetched = .ok s.joined.rows ∧ events = [s.joined.event] := by
  obtain ⟨hfetched, hevents⟩ :=
    Prod.mk.inj ((MemoryStore.fetch_of_available havailable).symm.trans hfetch)
  exact ⟨hfetched.symm, hevents.symm⟩

theorem Fetches.eq_joined (havailable : s.unavailable = none) {rows : List (Row Float)}
    {events : List Event} (h : (⟨.memory s, training, exporter⟩ : Pipeline).Fetches rows events) :
    rows = s.joined.rows ∧ events = [s.joined.event] := by
  obtain ⟨hrows, hevents⟩ := eq_of_fetch havailable h.fetch
  exact ⟨Except.ok.inj hrows, hevents⟩

/-- A run on a store that cannot be read takes the first course, with the store's reason. -/
theorem Course.result_of_unavailable {reason : String} (hreason : s.unavailable = some reason)
    (h : Course ⟨.memory s, training, exporter⟩ log now state e) :
    e.result = .error (.storeUnavailable (.refused reason)) := by
  have hfetch : (⟨.memory s, training, exporter⟩ : Pipeline).source.fetch =
      (.error (.refused reason), []) := by
    rw [Source.fetch, hreason]
  cases h with
  | unavailable h =>
    rw [hfetch] at h
    cases h
    rfl
  | empty h =>
    rw [hfetch] at h
    cases h
  | diverged hrows _ | blocked hrows _ _ | obstructed hrows _ _ | exported hrows _ _ =>
    have h := hrows.fetch
    rw [hfetch] at h
    cases h

/-- **A run on a store that can be read** ends with the empty report if the store has no rows, and
otherwise with a report that describes the store or with a late failure. -/
theorem Course.result_of_available (havailable : s.unavailable = none)
    (h : Course ⟨.memory s, training, exporter⟩ log now state e) :
    (s.joined.rows = [] ∧ e.result = .ok (emptyReport log.runId)) ∨
      s.joined.rows ≠ [] ∧ ((∃ report, e.result = .ok report ∧ report.Describes s) ∨
        ∃ failure, e.result = .error failure ∧ failure.IsLate) := by
  cases h with
  | unavailable hfetch => cases (eq_of_fetch havailable hfetch).1
  | empty hfetch => exact .inl ⟨(Except.ok.inj (eq_of_fetch havailable hfetch).1).symm, rfl⟩
  | diverged hrows _ | blocked hrows _ _ | obstructed hrows _ _ =>
    obtain ⟨rfl, -⟩ := hrows.eq_joined havailable
    exact .inr ⟨hrows.ne_nil, .inr ⟨_, rfl, trivial⟩⟩
  | exported hrows _ _ =>
    obtain ⟨rfl, -⟩ := hrows.eq_joined havailable
    refine .inr ⟨hrows.ne_nil, .inl ⟨_, rfl, ?_⟩⟩
    have hservers : (computed s.joined.rows).aggregation.vectors.map FeatureVector.serverId =
        serversOf s.joined.rows := map_serverId_vectors s.joined.rows
    constructor
    · rfl
    · exact List.length_pos_iff.mpr hrows.ne_nil
    · exact hservers ▸ pairwise_ascending _
    · intro id
      exact hservers ▸ MemoryStore.mem_serversOf_joined
    · exact (map_serverId_labels s.joined.rows).trans hservers.symm
    · rfl
    · rfl

/-- **In every course that has read the store, rows without metrics are counted alike.** -/
theorem Course.nullRows_of_available (havailable : s.unavailable = none)
    (h : Course ⟨.memory s, training, exporter⟩ log now state e) :
    (∃ rest, e.events = s.joined.event ::
        log.dataset s.joined.rows.length s.joined.unmatched :: rest) ∧
      e.state.metrics.nullMetricRows = s.joined.unmatched ∧
      ∀ report, e.result = .ok report → report.nullMetricRows = s.joined.unmatched := by
  have hcount : nullRows s.joined.rows = s.joined.unmatched := s.nullRows_joined
  cases h with
  | unavailable hfetch => cases (eq_of_fetch havailable hfetch).1
  | empty hfetch =>
    obtain ⟨hrows, rfl⟩ := eq_of_fetch havailable hfetch
    rw [← Except.ok.inj hrows] at hcount ⊢
    rw [← hcount]
    refine ⟨⟨_, rfl⟩, rfl, ?_⟩
    intro report hreport
    rw [← Except.ok.inj hreport]
    rfl
  | diverged hrows _ | blocked hrows _ _ | obstructed hrows _ _ =>
    obtain ⟨rfl, rfl⟩ := hrows.eq_joined havailable
    rw [← hcount]
    refine ⟨⟨_, rfl⟩, rfl, ?_⟩
    intro report hreport
    cases hreport
  | exported hrows _ _ =>
    obtain ⟨rfl, rfl⟩ := hrows.eq_joined havailable
    rw [← hcount]
    refine ⟨⟨_, rfl⟩, rfl, ?_⟩
    intro report hreport
    rw [← Except.ok.inj hreport]
    rfl

/-- Nothing that happens at the end of a run changes this. -/
theorem agreesOn_concluded {clock : Clock} (havailable : s.unavailable = none)
    (hfits : Fits s.joined.rows)
    (h : Course ⟨.memory s, training, exporter⟩ ⟨runId clock.started⟩ now state e) :
    (concluded ⟨.memory s, training, exporter⟩ clock e).AgreesOn ⟨runId clock.started⟩ s := by
  obtain ⟨⟨rest, hlogged⟩, hgauged, hreported⟩ := h.nullRows_of_available havailable
  constructor
  · exact s.nullRows_joined
  · rw [concluded, hlogged]
    exact ⟨_, _, rfl⟩
  · rw [concluded, countFailure_eq]
    exact hgauged
  · exact ⟨_, compute?_eq_some_iff.mpr ⟨hfits, rfl⟩, s.nullRows_joined⟩
  · exact hreported

end

end Pipeline

/-- **The outcome of a run is consistent.**  Let a pipeline run on a store whose connections fit 64
bits for each server, with whatever training, exporter, files and metrics.  The run has an outcome.

* It says that the source is unavailable exactly if the store cannot be read, with its reason.
* It is a report of an empty dataset exactly if the store can be read and no recent request has a
  server with a record.  This report has nothing but its name.
* If the store can be read and some recent request has such a server, the run finishes with a report
  that describes the store, or fails late.
* If the store can be read, everybody counts the same number of rows without metrics. -/
theorem run?_consistent {s : MemoryStore Float} (training : Training.Config Float)
    (exporter : Exporter) (clock : Clock) (state : ProcessState)
    (hfits : s.unavailable = none → ∀ id ∈ s.observed, s.connections id < Word.bound) :
    ∃ o, (⟨.memory s, training, exporter⟩ : Pipeline).run? clock state = some o ∧
      (∀ fault, o.result = .error (.storeUnavailable fault) ↔
        ∃ reason, s.unavailable = some reason ∧ fault = .refused reason) ∧
      ((∃ report, o.result = .ok report ∧ report.dataset = .empty) ↔
        s.unavailable = none ∧
          ∀ r ∈ s.inWindow, ∀ server ∈ s.servers, server.serverId ≠ r.serverId) ∧
      (∀ report, o.result = .ok report → report.dataset = .empty →
        report = ⟨Pipeline.runId clock.started, .empty, [], [], 0, 0, none, none⟩) ∧
      (s.unavailable = none →
        (∃ r ∈ s.inWindow, ∃ server ∈ s.servers, server.serverId = r.serverId) →
        (∃ report, o.result = .ok report ∧ report.Describes s) ∨
          ∃ failure, o.result = .error failure ∧ failure.IsLate) ∧
      (s.unavailable = none → o.AgreesOn ⟨Pipeline.runId clock.started⟩ s) := by
  have hfetched : ∀ rows events, (⟨.memory s, training, exporter⟩ : Pipeline).source.fetch =
      (.ok rows, events) → Fits rows := by
    intro rows events hfetch
    cases hreason : s.unavailable with
    | some reason =>
      rw [Source.fetch, hreason] at hfetch
      cases hfetch
    | none =>
      rw [Except.ok.inj (Pipeline.eq_of_fetch hreason hfetch).1]
      exact MemoryStore.fits_joined (hfits hreason)
  obtain ⟨o, hrun⟩ := Pipeline.exists_run? clock state hfetched
  obtain ⟨e, hcourse, rfl⟩ := Pipeline.run?_course hrun
  refine ⟨_, hrun, ?_⟩
  cases hreason : s.unavailable with
  | some reason =>
    have hresult := hcourse.result_of_unavailable hreason
    have hfailed : ∀ report, e.result ≠ .ok report := by
      intro report h
      cases hresult.symm.trans h
    refine ⟨?_, ?_, ?_, ?_, ?_⟩
    · intro fault
      constructor
      · intro h
        cases hresult.symm.trans h
        exact ⟨reason, rfl, rfl⟩
      · rintro ⟨reason', hreason', rfl⟩
        obtain rfl : reason = reason' := Option.some.inj hreason'
        exact hresult
    · refine iff_of_false ?_ ?_
      · rintro ⟨report, h, -⟩
        exact hfailed report h
      · rintro ⟨h, -⟩
        cases h
    · intro report h
      exact absurd h (hfailed report)
    · intro h
      cases h
    · intro h
      cases h
  | none =>
    have hagrees := Pipeline.agreesOn_concluded hreason
      (MemoryStore.fits_joined (hfits hreason)) hcourse
    obtain ⟨hnil, hresult⟩ | ⟨hne, hresult⟩ := hcourse.result_of_available hreason
    · have hnone := MemoryStore.joined_rows_eq_nil_iff.mp hnil
      refine ⟨?_, ?_, ?_, ?_, fun _ => hagrees⟩
      · simp [Pipeline.concluded, hresult]
      · exact iff_of_true ⟨_, hresult, rfl⟩ ⟨rfl, hnone⟩
      · intro report hreport _
        exact (Except.ok.inj (hresult.symm.trans hreport)).symm
      · rintro - ⟨r, hr, server, hserver, h⟩
        exact absurd h (hnone r hr server hserver)
    · have hrecord : ¬ ∀ r ∈ s.inWindow, ∀ server ∈ s.servers, server.serverId ≠ r.serverId :=
        fun hnone => hne (MemoryStore.joined_rows_eq_nil_iff.mpr hnone)
      have hstore : ∀ fault, e.result ≠ .error (.storeUnavailable fault) := by
        intro fault h
        obtain ⟨report, hreport, -⟩ | ⟨failure, hfailure, hlate⟩ := hresult
        · cases hreport.symm.trans h
        · obtain rfl := Except.error.inj (hfailure.symm.trans h)
          exact hlate
      have hdataset : ∀ report, e.result = .ok report → report.dataset ≠ .empty := by
        intro report h hempty
        obtain ⟨report', hreport, hdescribes⟩ | ⟨failure, hfailure, -⟩ := hresult
        · obtain rfl := Except.ok.inj (hreport.symm.trans h)
          cases hempty.symm.trans hdescribes.dataset
        · cases hfailure.symm.trans h
      refine ⟨?_, ?_, ?_, fun _ _ => hresult, fun _ => hagrees⟩
      · intro fault
        refine iff_of_false (hstore fault) ?_
        rintro ⟨reason, h, -⟩
        cases h
      · refine iff_of_false ?_ fun h => hrecord h.2
        rintro ⟨report, hreport, hempty⟩
        exact hdataset report hreport hempty
      · intro report hreport hempty
        exact absurd hempty (hdataset report hreport)

/-! ### The sample store -/

/-- The sample store has two requests without a snapshot, and everybody counts two rows. -/
theorem run?_consistent_sampleStore :
    (MemoryStore.sampleStore.unavailable = none → ∀ id ∈ MemoryStore.sampleStore.observed,
      MemoryStore.sampleStore.connections id < Word.bound) ∧
    ∃ o, samplePipeline.run? ⟨.earliest, .earliest, .ofSeconds 1⟩ ⟨⟨[]⟩, .zero⟩ = some o ∧
      ((∃ report, o.result = .ok report ∧ report.Describes MemoryStore.sampleStore) ∨
        ∃ failure, o.result = .error failure ∧ failure.IsLate) ∧
      o.AgreesOn ⟨Pipeline.runId .earliest⟩ MemoryStore.sampleStore ∧
      o.state.metrics.nullMetricRows = 2 := by
  have hfits := MemoryStore.sampleStore_fits
  obtain ⟨o, hrun, -, -, -, hresult, hagrees⟩ :=
    run?_consistent .standard ⟨⟨"artifacts"⟩, none⟩ ⟨.earliest, .earliest, .ofSeconds 1⟩
      ⟨⟨[]⟩, .zero⟩ fun _ => hfits
  have hcount : MemoryStore.sampleStore.joined.unmatched = 2 := by cbv
  have hrecord : ∃ r ∈ MemoryStore.sampleStore.inWindow,
      ∃ server ∈ MemoryStore.sampleStore.servers, server.serverId = r.serverId := by
    decide
  exact ⟨fun _ => hfits, o, hrun, hresult rfl hrecord, hagrees rfl,
    (hagrees rfl).gauged.trans hcount⟩

end FleetScore
