import FleetScore.Storage.Plan
import FleetScore.Decimal.Layout
import FleetScore.Failure
import FleetScore.Telemetry.Event

/-!
# Metrics

Eight figures tell an operator how the runs of this process go: a histogram of their
durations, three gauges that describe the last run, three counters, and the error of
the last trained model.

Figures are values and grow without bound; only their exposition is confined to
64-bit words.  So what is counted is counted exactly, and a theorem about a counter
needs no hypothesis on how long the process has lived.

The exposition lists the metrics in ascending order of their names, each with a line
of help, a line of its type, and its samples.
-/

namespace FleetScore

/-- A histogram: how many observations there were, how many of them are at most each
bound, and their sum. -/
structure Histogram where
  atMost : List Nat
  sum : Float
  count : Nat

/-- The figures of a process.  The durations of its runs are in seconds.  Rows and servers are
those of the last run, the error is that of the last trained model, and the guards, failures and
errors are counted over all runs. -/
structure Metrics where
  runDuration : Histogram
  rowsFetched : Nat
  nullMetricRows : Nat
  serversFeatured : Nat
  divisionGuards : Nat
  parityFailures : Nat
  storeErrors : Nat
  validationMae : Float

namespace Histogram

/-- The bounds of the duration histogram, in seconds. -/
def bounds : List Float := [0.1, 0.5, 1.0, 5.0, 10.0, 30.0, 60.0, 300.0, 900.0]

/-- A histogram without observations. -/
def empty : Histogram := ⟨bounds.map fun _ => 0, 0.0, 0⟩

/-- Adds an observation. -/
def observe (h : Histogram) (x : Float) : Histogram where
  atMost := List.zipWith (fun bound n => if Scalar.atMost x bound then n + 1 else n) bounds h.atMost
  sum := h.sum + x
  count := h.count + 1

end Histogram

namespace Metrics

/-- The figures of a process that has not run yet. -/
def zero : Metrics := ⟨.empty, 0, 0, 0, 0, 0, 0, 0.0⟩

/-! ## What happens to them -/

/-- A run took some seconds. -/
def observeRun (m : Metrics) (seconds : Float) : Metrics :=
  { m with runDuration := m.runDuration.observe seconds }

/-- A run fetched rows. -/
def setRows (m : Metrics) (rows nullMetricRows : Nat) : Metrics :=
  { m with rowsFetched := rows, nullMetricRows := nullMetricRows }

/-- A run described servers. -/
def setServers (m : Metrics) (count : Nat) : Metrics := { m with serversFeatured := count }

/-- A run guarded divisions. -/
def addGuards (m : Metrics) (count : Nat) : Metrics :=
  { m with divisionGuards := m.divisionGuards + count }

/-- A parity check failed. -/
def addParityFailure (m : Metrics) : Metrics := { m with parityFailures := m.parityFailures + 1 }

/-- A source could not be read. -/
def addStoreError (m : Metrics) : Metrics := { m with storeErrors := m.storeErrors + 1 }

/-- A model was trained. -/
def setMae (m : Metrics) (mae : Float) : Metrics := { m with validationMae := mae }

/-! ## Exposition -/

/-- The text of a counter: its lowest 64 bits. -/
def counterText (n : Nat) : String := Decimal.sampleText (Float.ofNat (n % Word.bound))

/-- The text of a gauge of a count: its lowest 64 bits, read with a sign. -/
def gaugeText (n : Nat) : String := Decimal.sampleText (Float.ofInt (Int.bmod n Word.bound))

/-- One metric in the exposition, with its samples: what stands behind the name, and the value. -/
structure Exposed where
  name : String
  help : String
  kind : String
  samples : List (String × String)

/-- The samples of a histogram. -/
def histogramSamples (h : Histogram) : List (String × String) :=
  List.zipWith
      (fun bound n => ("_bucket\x7ble=\"" ++ Decimal.sampleText bound ++ "\"\x7d", counterText n))
      Histogram.bounds h.atMost
    ++ [("_bucket\x7ble=\"+Inf\"\x7d", counterText h.count),
      ("_sum", Decimal.sampleText h.sum),
      ("_count", counterText h.count)]

/-- All metrics in ascending order of their names. -/
def exposed (m : Metrics) : List Exposed := [
  { name := "nb_pipeline_division_guards_total"
    help := "Error-rate computations where the zero-guard substituted a denominator of 1"
    kind := "counter"
    samples := [("", counterText m.divisionGuards)] },
  { name := "nb_pipeline_null_metric_rows"
    help := "Joined rows with no metric snapshot in the last run"
    kind := "gauge"
    samples := [("", gaugeText m.nullMetricRows)] },
  { name := "nb_pipeline_parity_failures_total"
    help := "Feature manifest parity checks that failed"
    kind := "counter"
    samples := [("", counterText m.parityFailures)] },
  { name := "nb_pipeline_rows_fetched"
    help := "Joined rows returned by the event store in the last run"
    kind := "gauge"
    samples := [("", gaugeText m.rowsFetched)] },
  { name := "nb_pipeline_run_duration_seconds"
    help := "Wall time of a full pipeline run"
    kind := "histogram"
    samples := histogramSamples m.runDuration },
  { name := "nb_pipeline_servers_featured"
    help := "Servers with a feature vector in the last run"
    kind := "gauge"
    samples := [("", gaugeText m.serversFeatured)] },
  { name := "nb_pipeline_store_errors_total"
    help := "Runs aborted because the event store was unavailable"
    kind := "counter"
    samples := [("", counterText m.storeErrors)] },
  { name := "nb_pipeline_validation_mae"
    help := "Mean absolute error of the last trained model on validation data"
    kind := "gauge"
    samples := [("", Decimal.sampleText m.validationMae)] }]

/-- The two lines that describe a metric. -/
def Exposed.header (e : Exposed) : List String :=
  ["# HELP " ++ e.name ++ " " ++ e.help, "# TYPE " ++ e.name ++ " " ++ e.kind]

/-- The lines of the samples of a metric. -/
def Exposed.lines (e : Exposed) : List String :=
  e.samples.map fun s => e.name ++ s.1 ++ " " ++ s.2

/-- The lines of the exposition. -/
def lines (m : Metrics) : List String := m.exposed.flatMap fun e => e.header ++ e.lines

/-- The exposition. -/
def render (m : Metrics) : String := String.join (m.lines.map fun line => line ++ "\n")

/-! ## Into a file -/

/-- The extension of the file an exposition is first written to. -/
def temporaryExtension : String := "prom.tmp"

/-- The report of a written exposition. -/
def writtenEvent (path : Path) : Event where
  level := .debug
  target := "pipeline_lib::observability"
  message := "Metrics textfile written"
  fields := [("path", .text path.text)]

/-- Writes the exposition to a file; the last part is what is reported. -/
def writeTextfile (m : Metrics) (path : Path) (files : FileTree) :
    FileTree × Except Failure Unit × List Event :=
  let plan := Plan.replaceQuickly path (path.withExtension temporaryExtension) m.render.toUTF8
  let outcome := plan.run files
  match outcome.fault with
  | some (blamed, fault) => (outcome.tree, .error (.artifact blamed fault), [])
  | none => (outcome.tree, .ok (), [writtenEvent path])

end Metrics
end FleetScore
