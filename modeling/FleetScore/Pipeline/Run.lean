import FleetScore.Store.Source
import FleetScore.Artifact.Export
import FleetScore.Telemetry.Metrics
import FleetScore.Telemetry.RunLog

/-!
# A run of the pipeline

One run is a straight line: fetch rows, reduce them to features, score labels, pair
the two, train, check parity, export.  It stops at the first step that refuses, and
nothing is written unless every step before the export succeeded.

A run is a function.  It is given what it depends on --- a source, a configuration, an
exporter, the readings of the clock, the files and the metrics --- and answers the
files and metrics afterwards, what it has to report, and its result.  Several runs of
one process are several applications, each to the state the one before left.

There is one thing that a run has no answer to: connections of a server that do not
fit 64 bits.  Then `run?` is `none`.

What is reported is complete but for one kind of event.  Training reports every epoch at
the level of debugging, and these reports are left out.
-/

namespace FleetScore

/-- What is read off the clock during a run: when it began, when the artifacts were written, and
how long it took. -/
structure Clock where
  started : Instant
  exported : Instant
  elapsed : Span

/-- What a run changes: the files, and the metrics of the process. -/
structure ProcessState where
  files : FileTree
  metrics : Metrics

/-- Whether the source had any rows; to have none is no failure. -/
inductive DatasetState where
  | empty
  | populated (rows : Nat)
  deriving DecidableEq, Repr

/-- What a finished run has to show.  There are one vector and one label for each server; for an
empty dataset no model is trained, and nothing is exported. -/
structure RunReport where
  runId : String
  dataset : DatasetState
  features : List (FeatureVector Float)
  labels : List (Label Float)
  divisionGuards : Nat
  nullMetricRows : Nat
  trained : Option (Training.Trained Float)
  exported : Option ExportSummary

/-- What a run leaves behind: the files and metrics, what was reported, in order, but for the
epochs of the training, and the report, or why the run failed. -/
structure RunOutcome where
  state : ProcessState
  events : List Event
  result : Except Failure RunReport

/-- Features and labels, computed from the same rows. -/
structure Computed (R : Type) where
  aggregation : Aggregation R
  labels : List (Label R)

/-- Computes features and labels; `none` when the connections of a server do not fit
64 bits. -/
def compute? {R : Type} [Scalar R] (rows : List (Row R)) : Option (Computed R) := do
  let aggregation ← Aggregation.aggregate? rows
  some ⟨aggregation, Label.scoreAll rows⟩

/-- A pipeline, ready to run: where rows come from, and how models are trained and where they
are exported. -/
structure Pipeline where
  source : Source Float
  training : Training.Config Float
  exporter : Exporter

namespace Pipeline

/-- The identifier of a run that began at an instant. -/
def runId (t : Instant) : String :=
  let date := Timestamp.dateOf t
  let clock := Timestamp.clockOf t
  "run-" ++ Timestamp.yearText date.year ++ Timestamp.padded 2 date.month
    ++ Timestamp.padded 2 date.day ++ "T" ++ Timestamp.padded 2 (clock / 3600)
    ++ Timestamp.padded 2 (clock / 60 % 60) ++ Timestamp.padded 2 (clock % 60) ++ "."
    ++ Timestamp.padded 3 (t.nano % 1000000000 / 1000000) ++ "Z"

/-- A span in seconds. -/
def secondsOf (d : Span) : Float := Float.ofNat d.seconds + Float.ofNat d.nanos / 1000000000.0

/-- The report of a run without rows. -/
def emptyReport (runId : String) : RunReport := ⟨runId, .empty, [], [], 0, 0, none, none⟩

/-- Trains a model on computed features and labels. -/
def train? (p : Pipeline) (c : Computed Float) :
    Option (Except Failure (Training.Trained Float)) :=
  match Alignment.align c.aggregation.vectors c.labels with
  | .error failure => some (.error failure)
  | .ok examples =>
      (Training.train? p.training (.ofExamples examples)).map fun result =>
        result.mapError Failure.training

/-- Exports a trained model. -/
def exportModel (p : Pipeline) (log : RunLog) (now : Instant) (report : RunReport)
    (trained : Training.Trained Float) (s : ProcessState) : RunOutcome :=
  let dir := p.exporter.dir.text
  let outcome := p.exporter.run trained now s.files
  let s := { s with files := outcome.files }
  match outcome.result with
  | .ok summary =>
      ⟨s,
        outcome.events ++ [log.parity dir none,
          log.exported dir Training.modelVersion Label.version summary.modelSha256],
        .ok { report with trained := some trained, exported := some summary }⟩
  | .error (.featureSetMismatch difference) =>
      ⟨{ s with metrics := s.metrics.addParityFailure },
        outcome.events ++ [log.parity dir (some (.featureSetMismatch difference))],
        .error (.featureSetMismatch difference)⟩
  | .error failure => ⟨s, outcome.events, .error failure⟩

/-- Everything after the source was read and found to have rows. -/
def process? (p : Pipeline) (log : RunLog) (now : Instant) (rows : List (Row Float))
    (s : ProcessState) : Option RunOutcome := do
  let c ← compute? rows
  let a := c.aggregation
  let metrics := (s.metrics.setServers a.vectors.length).addGuards a.divisionGuards
  let s := { s with metrics := metrics }
  let before := a.events ++ [log.features a.vectors.length c.labels.length a.divisionGuards]
  match ← p.train? c with
  | .error failure => some ⟨s, before, .error failure⟩
  | .ok trained =>
      let s := { s with metrics := s.metrics.setMae trained.evaluation.mae }
      let report : RunReport :=
        ⟨log.runId, .populated rows.length, a.vectors, c.labels, a.divisionGuards,
          a.nullMetricRows, none, none⟩
      let outcome := p.exportModel log now report trained s
      some { outcome with events := before ++ trained.event :: outcome.events }

/-- Everything between the beginning and the end of a run. -/
def execute? (p : Pipeline) (log : RunLog) (now : Instant) (s : ProcessState) :
    Option RunOutcome :=
  let fetched := p.source.fetch
  match fetched.1 with
  | .error fault => some ⟨s, fetched.2, .error (.storeUnavailable fault)⟩
  | .ok rows =>
      let nullMetricRows := rows.countP fun row => !row.hasMetrics
      let before := fetched.2 ++ [log.dataset rows.length nullMetricRows]
      let s := { s with metrics := s.metrics.setRows rows.length nullMetricRows }
      if rows.isEmpty then
        some ⟨{ s with metrics := s.metrics.setServers 0 },
          before ++ [log.skipped "empty dataset"], .ok (emptyReport log.runId)⟩
      else
        (p.process? log now rows s).map fun outcome =>
          { outcome with events := before ++ outcome.events }

/-- The last event of a run. -/
def lastEvent (log : RunLog) (clock : Clock) : Except Failure RunReport → Event
  | .ok _ => log.finished clock.elapsed.milliseconds
  | .error failure => log.aborted failure

/-- What a result adds to the metrics at the end of a run. -/
def countFailure (m : Metrics) : Except Failure RunReport → Metrics
  | .error (.storeUnavailable _) => m.addStoreError
  | _ => m

/-- Runs a pipeline; `none` when the connections of a server do not fit 64 bits. -/
def run? (p : Pipeline) (clock : Clock) (s : ProcessState) : Option RunOutcome :=
  let log : RunLog := ⟨runId clock.started⟩
  (p.execute? log clock.exported s).map fun outcome =>
    let metrics := outcome.state.metrics.observeRun (secondsOf clock.elapsed)
    { state := { outcome.state with metrics := countFailure metrics outcome.result }
      events := log.started p.source.name p.exporter.dir.text
        :: (outcome.events ++ [lastEvent log clock outcome.result])
      result := outcome.result }

end Pipeline
end FleetScore
