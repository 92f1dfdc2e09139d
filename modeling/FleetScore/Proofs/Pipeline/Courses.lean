import FleetScore.Proofs.Pipeline.Correspondence

/-!
# The courses of a run

A run can go six ways.  Its source cannot be read; or it answers no rows; or rows come, their
servers are described, and then training diverges, or a model is trained and parity blocks its
export, or a file stands in the way, or the model is exported.  Each way changes the files and the
metrics, reports events and ends with a result, and `Pipeline.Course` writes all of this down for
each of the six, without a condition that is left to be decided.

`Pipeline.run?_course` says that there is no seventh way.  What is asked of runs after this, such as
what they count or what they log, is asked of each of the six.

What happens at the two ends of a run is the same for all of them and is `Pipeline.concluded`.
-/

namespace FleetScore

open Aggregation

/-- The number of rows without metrics. -/
def nullRows {R : Type} (rows : List (Row R)) : Nat := rows.countP fun row => !row.hasMetrics

/-- An outcome with events that were reported before. -/
def RunOutcome.after (o : RunOutcome) (events : List Event) : RunOutcome :=
  { o with events := events ++ o.events }

namespace Pipeline

/-! ## 1.  What the courses share -/

/-- Whether a source answers rows that can be processed: there are some, and the connections of
each server fit 64 bits. -/
structure Fetches (p : Pipeline) (rows : List (Row Float)) (events : List Event) : Prop where
  fetch : p.source.fetch = (.ok rows, events)
  ne_nil : rows ≠ []
  fits : Fits rows

/-- The metrics after rows were fetched and their servers were described. -/
def described (rows : List (Row Float)) (m : Metrics) : Metrics :=
  ((m.setRows rows.length (nullRows rows)).setServers
    (computed rows).aggregation.vectors.length).addGuards
      (computed rows).aggregation.divisionGuards

/-- What is reported until the servers of some rows are described. -/
def description (log : RunLog) (rows : List (Row Float)) (events : List Event) : List Event :=
  events ++ [log.dataset rows.length (nullRows rows)] ++ ((computed rows).aggregation.events ++
    [log.features (computed rows).aggregation.vectors.length (computed rows).labels.length
      (computed rows).aggregation.divisionGuards])

/-- The report of a run that has described the servers of some rows, without a model. -/
def partialReport (log : RunLog) (rows : List (Row Float)) : RunReport where
  runId := log.runId
  dataset := .populated rows.length
  features := (computed rows).aggregation.vectors
  labels := (computed rows).labels
  divisionGuards := (computed rows).aggregation.divisionGuards
  nullMetricRows := (computed rows).aggregation.nullMetricRows
  trained := none
  exported := none

/-! ## 2.  The six courses -/

/-- How a run can go between its first and its last event: the source cannot be read, or has no
rows; training diverges; parity blocks the export, or a file stands in its way; or the model is
exported. -/
inductive Course (p : Pipeline) (log : RunLog) (now : Instant) (s : ProcessState) :
    RunOutcome → Prop where
  | unavailable {fault : StoreFault} {events : List Event}
      (hfetch : p.source.fetch = (.error fault, events)) :
      Course p log now s ⟨s, events, .error (.storeUnavailable fault)⟩
  | empty {events : List Event} (hfetch : p.source.fetch = (.ok [], events)) :
      Course p log now s ⟨⟨s.files, (s.metrics.setRows 0 0).setServers 0⟩,
        events ++ [log.dataset 0 0] ++ [log.skipped "empty dataset"], .ok (emptyReport log.runId)⟩
  | diverged {rows : List (Row Float)} {events : List Event} {epoch : Nat}
      (hrows : p.Fetches rows events)
      (htrain : p.train? (computed rows) = some (.error (.training (.diverged epoch)))) :
      Course p log now s ⟨⟨s.files, described rows s.metrics⟩, description log rows events,
        .error (.training (.diverged epoch))⟩
  | blocked {rows : List (Row Float)} {events : List Event} {t : Training.Trained Float}
      {difference : NameDifference} (hrows : p.Fetches rows events)
      (htrain : p.train? (computed rows) = some (.ok t))
      (hexport : p.exporter.run t now s.files = ⟨s.files, .error (.featureSetMismatch difference),
        [Exporter.blockedEvent (.featureSetMismatch difference)]⟩) :
      Course p log now s
        ⟨⟨s.files, ((described rows s.metrics).setMae t.evaluation.mae).addParityFailure⟩,
          description log rows events ++
            [t.event, Exporter.blockedEvent (.featureSetMismatch difference),
              log.parity p.exporter.dir.text (some (.featureSetMismatch difference))],
          .error (.featureSetMismatch difference)⟩
  | obstructed {rows : List (Row Float)} {events : List Event} {t : Training.Trained Float}
      {path : Path} {fault : FileFault} {files : FileTree} (hrows : p.Fetches rows events)
      (htrain : p.train? (computed rows) = some (.ok t))
      (hexport : p.exporter.run t now s.files = ⟨files, .error (.artifact path fault), []⟩) :
      Course p log now s ⟨⟨files, (described rows s.metrics).setMae t.evaluation.mae⟩,
        description log rows events ++ [t.event], .error (.artifact path fault)⟩
  | exported {rows : List (Row Float)} {events : List Event} {t : Training.Trained Float}
      {summary : ExportSummary} {files : FileTree} (hrows : p.Fetches rows events)
      (htrain : p.train? (computed rows) = some (.ok t))
      (hexport : p.exporter.run t now s.files =
        ⟨files, .ok summary, [p.exporter.exportedEvent summary]⟩) :
      Course p log now s ⟨⟨files, (described rows s.metrics).setMae t.evaluation.mae⟩,
        description log rows events ++
          [t.event, p.exporter.exportedEvent summary, log.parity p.exporter.dir.text none,
            log.exported p.exporter.dir.text Training.modelVersion Label.version
              summary.modelSha256],
        .ok { partialReport log rows with trained := some t, exported := some summary }⟩

variable {p : Pipeline} {log : RunLog} {now : Instant} {s : ProcessState}

/-- A trained model goes one of the last three ways. -/
theorem exportModel_course {rows : List (Row Float)} {events : List Event}
    {t : Training.Trained Float} (hrows : p.Fetches rows events)
    (htrain : p.train? (computed rows) = some (.ok t)) :
    Course p log now s ((p.exportModel log now (partialReport log rows) t
      ⟨s.files, (described rows s.metrics).setMae t.evaluation.mae⟩).after
        (description log rows events ++ [t.event])) := by
  obtain ⟨difference, -, hexport⟩ | ⟨-, ⟨path, fault, -, hexport⟩ | ⟨-, hexport⟩⟩ :=
    p.exporter.run_cases t now s.files
  · simp only [exportModel, hexport, RunOutcome.after, List.append_assoc]
    exact .blocked hrows htrain hexport
  · simp only [exportModel, hexport, RunOutcome.after, List.append_nil]
    exact .obstructed hrows htrain hexport
  · simp only [exportModel, hexport, RunOutcome.after, List.append_assoc]
    exact .exported hrows htrain hexport

/-- Rows that are processed go one of the last four ways. -/
theorem process?_course {rows : List (Row Float)} {events : List Event}
    (hfetch : p.source.fetch = (.ok rows, events)) (hne : rows ≠ []) {o : RunOutcome}
    (h : p.process? log now rows
      ⟨s.files, s.metrics.setRows rows.length (nullRows rows)⟩ = some o) :
    Course p log now s (o.after (events ++ [log.dataset rows.length (nullRows rows)])) := by
  rw [process?] at h
  obtain ⟨c, hc, h⟩ := Option.bind_eq_some_iff.mp h
  obtain ⟨result, htrain, h⟩ := Option.bind_eq_some_iff.mp h
  obtain ⟨hfits, rfl⟩ := compute?_eq_some_iff.mp hc
  have hrows : p.Fetches rows events := ⟨hfetch, hne, hfits⟩
  cases result with
  | error failure =>
    obtain rfl := Option.some.inj h
    obtain ⟨result, htrain', hdiverged⟩ := p.train?_computed hne
    obtain rfl : result = .error failure := Option.some.inj (htrain'.symm.trans htrain)
    obtain ⟨epoch, rfl⟩ := hdiverged failure rfl
    exact .diverged hrows htrain
  | ok t =>
    obtain rfl := Option.some.inj h
    have hcourse : Course p log now s _ := exportModel_course hrows htrain
    rw [RunOutcome.after, description, List.append_assoc, List.append_assoc] at hcourse
    exact hcourse

/-- **What is executed goes one of the six ways.** -/
theorem execute?_course {o : RunOutcome} (h : p.execute? log now s = some o) :
    Course p log now s o := by
  rw [execute?] at h
  rcases hfetch : p.source.fetch with ⟨fetched, events⟩
  rw [hfetch] at h
  cases fetched with
  | error fault =>
    obtain rfl := Option.some.inj h
    exact .unavailable hfetch
  | ok rows =>
    cases rows with
    | nil =>
      obtain rfl := Option.some.inj h
      exact .empty hfetch
    | cons row rows =>
      obtain ⟨processed, hprocess, rfl⟩ := Option.map_eq_some_iff.mp h
      exact process?_course hfetch (List.cons_ne_nil row rows) hprocess

/-! ## 3.  Both ends of a run -/

/-- Whether a result says that the source could not be read. -/
def isUnavailable : Except Failure RunReport → Bool
  | .error (.storeUnavailable _) => true
  | _ => false

/-- At the end of a run one figure at most is changed. -/
theorem countFailure_eq (m : Metrics) (result : Except Failure RunReport) :
    countFailure m result =
      { m with storeErrors := m.storeErrors + (isUnavailable result).toNat } := by
  cases result with
  | ok report => rfl
  | error failure => cases failure <;> rfl

/-- A run around what it has executed: the duration is observed, a source that could not be read is
counted, and two events are added. -/
def concluded (p : Pipeline) (clock : Clock) (o : RunOutcome) : RunOutcome where
  state := {
    files := o.state.files
    metrics := countFailure (o.state.metrics.observeRun (secondsOf clock.elapsed)) o.result }
  events := RunLog.started ⟨runId clock.started⟩ p.source.name p.exporter.dir.text
    :: (o.events ++ [lastEvent ⟨runId clock.started⟩ clock o.result])
  result := o.result

theorem run?_eq (p : Pipeline) (clock : Clock) (s : ProcessState) :
    p.run? clock s =
      (p.execute? ⟨runId clock.started⟩ clock.exported s).map (p.concluded clock) := rfl

/-- **A run goes one of the six ways.** -/
theorem run?_course {clock : Clock} {o : RunOutcome} (h : p.run? clock s = some o) :
    ∃ e, Course p ⟨runId clock.started⟩ clock.exported s e ∧ o = p.concluded clock e := by
  rw [run?_eq] at h
  obtain ⟨e, hexecute, rfl⟩ := Option.map_eq_some_iff.mp h
  exact ⟨e, execute?_course hexecute, rfl⟩

/-- **A run has an outcome** if no connections of a server are too many for 64 bits. -/
theorem exists_run? (clock : Clock) (s : ProcessState)
    (hfits : ∀ rows events, p.source.fetch = (.ok rows, events) → Fits rows) :
    ∃ o, p.run? clock s = some o := by
  rcases hfetch : p.source.fetch with ⟨fetched, events⟩
  cases fetched with
  | error fault =>
    rw [run?_eq, execute?, hfetch]
    exact ⟨_, rfl⟩
  | ok rows =>
    obtain ⟨o, hrun, -⟩ := p.run?_fetched hfetch (hfits rows events hfetch) clock s
    exact ⟨o, hrun⟩

end Pipeline
end FleetScore
