import FleetScore.Pipeline.Run
import FleetScore.Manifest.Verification
import FleetScore.Settings.TrainerSettings
import FleetScore.Telemetry.Filter
import FleetScore.Json.Printer

/-!
# The trainer

One call of the trainer is one run of the pipeline on the database.  It reads its
settings, loads the serving manifest if it was told where it is, runs, writes the
metrics if it was told where to, and then says how the run ended.

The metrics are written whether or not the run succeeded: a run that failed is what
an operator wants to see there.  If they cannot be written, that is reported and
nothing more, for it is no reason to call a good run bad.

What ends a call early is worded in one line, without what caused it; the causes are
in the log.
-/

namespace FleetScore
namespace Trainer

/-- The version of the program. -/
def version : String := "0.1.0"

/-- The target of the reports of this module. -/
def target : String := "feature_trainer"

/-- What a call leaves behind: the files and the metrics, what is reported, in order, and why it
failed, if it did. -/
structure Outcome where
  state : ProcessState
  events : List Event
  complaint : Option String

/-- The exit code of a call. -/
def Outcome.exitCode (o : Outcome) : Nat := if o.complaint.isSome then 1 else 0

/-- The report that the trainer starts. -/
def startingEvent : Event where
  level := .info
  target := target
  message := "Starting feature-trainer"
  fields := [("version", .text version)]

/-- The report of the settings. -/
def configuredEvent (s : TrainerSettings) : Event where
  level := .info
  target := target
  message := "Trainer configured"
  fields := [
    ("artifact_dir", .text s.artifactDir.text),
    ("lookback_window_secs", .integer s.lookbackSeconds),
    ("metric_tolerance_secs", .integer s.toleranceSeconds)]

/-- The report of metrics that could not be written. -/
def unwrittenEvent (path : Path) (failure : Failure) : Event where
  level := .warn
  target := target
  message := "Failed to write metrics textfile"
  fields := [("error", .text failure.message), ("path", .text path.text)]

/-- The report of a finished run. -/
def completeEvent (r : RunReport) : Event :=
  match r.dataset with
  | .empty =>
      { level := .info
        target := target
        message := "No data in window, nothing exported"
        fields := [("run_id", .text r.runId)] }
  | .populated rows =>
      { level := .info
        target := target
        message := "Run complete"
        fields := [
          ("run_id", .text r.runId), ("rows", .integer rows),
          ("servers", .integer r.features.length)] }

/-- The exporter that the settings ask for, or the path of a serving manifest that
cannot be loaded; the events are none, loading is silent. -/
def exporter (s : TrainerSettings) (files : FileTree) : Except Path Exporter :=
  match s.servingManifest with
  | none => .ok ⟨s.artifactDir, none⟩
  | some path =>
      match FeatureManifest.load files path with
      | .ok manifest => .ok ⟨s.artifactDir, some manifest⟩
      | .error _ => .error path

/-- Writes the metrics where the settings say. -/
def writeMetrics (s : TrainerSettings) (state : ProcessState) : ProcessState × List Event :=
  match s.metricsTextfile with
  | none => (state, [])
  | some path =>
      match state.metrics.writeTextfile path state.files with
      | (files, .ok (), events) => ({ state with files := files }, events)
      | (files, .error failure, events) =>
          ({ state with files := files }, events ++ [unwrittenEvent path failure])

/-- What is left to say after the metrics were written. -/
def conclusion : Except Failure RunReport → List Event × Option String
  | .ok report => ([completeEvent report], none)
  | .error _ => ([], some "Feature pipeline run aborted")

/-- A call with its settings and its exporter; `none` when the connections of a server
do not fit 64 bits. -/
def runWith? (s : TrainerSettings) (e : Exporter) (clock : Clock) (state : ProcessState)
    (reply : Database.Reply Float) : Option Outcome := do
  let pipeline : Pipeline := ⟨.database s.store reply, s.training, e⟩
  let outcome ← pipeline.run? clock state
  let written := writeMetrics s outcome.state
  let last := conclusion outcome.result
  some ⟨written.1, outcome.events ++ written.2 ++ last.1, last.2⟩

/-- A call of the trainer; `none` when the connections of a server do not fit 64 bits, or
the name of a setting has an index that finds no place. -/
def run? (env : Environment) (clock : Clock) (state : ProcessState)
    (reply : Database.Reply Float := .unreachable none)
    (formats : SettingsFormats := .jsonOnly) : Option Outcome := do
  match ← TrainerSettings.load? state.files env formats with
  | .error fault => some ⟨state, [startingEvent], some fault.message⟩
  | .ok s =>
      let before := [startingEvent, configuredEvent s]
      match exporter s state.files with
      | .error path =>
          some ⟨state, before, some ("Failed to load serving manifest " ++ path.text)⟩
      | .ok e =>
          (runWith? s e clock state reply).map fun o => { o with events := before ++ o.events }

/-- The record of a value in a log line. -/
def valueJson : FieldValue → Json
  | .text s => .text s
  | .integer n => .int n
  | .measure x => .float x

/-- The record of an event in a log line. -/
def eventJson (e : Event) : Json :=
  .record [
    ("level", .text e.level.name),
    ("fields", .record (("message", .text e.message)
      :: e.fields.map fun f => (f.1, valueJson f.2))),
    ("target", .text e.target)]

end Trainer
end FleetScore
