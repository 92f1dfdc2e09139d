import FleetScore.Failure
import FleetScore.Telemetry.Event

/-!
# The log of a run

A run tells its story in a few events, each with a name of its own and the identifier
of the run.  From the names alone one can tell how the run ended.
-/

namespace FleetScore

/-- The log of one run, which has an identifier. -/
structure RunLog where
  runId : String

namespace RunLog

/-- Who speaks. -/
def target : String := "pipeline_lib::observability"

/-- An event of a run. -/
def event (log : RunLog) (level : Level) (name message : String)
    (fields : List (String × FieldValue)) : Event where
  level := level
  target := target
  message := message
  fields := ("event", .text name) :: ("run_id", .text log.runId) :: fields

/-- A run began. -/
def started (log : RunLog) (source artifactDir : String) : Event :=
  log.event .info "run_started" "Feature pipeline run started"
    [("source", .text source), ("artifact_dir", .text artifactDir)]

/-- The source was read. -/
def dataset (log : RunLog) (rows nullMetricRows : Nat) : Event :=
  if rows = 0 then
    log.event .info "empty_dataset"
      "Event store returned no rows, emitting empty features and labels" []
  else
    log.event .info "dataset_fetched" "Joined rows fetched"
      [("rows", .integer rows), ("null_metric_rows", .integer nullMetricRows)]

/-- Features and labels were computed. -/
def features (log : RunLog) (servers labels divisionGuards : Nat) : Event :=
  log.event .info "features_computed" "Feature vectors and labels computed"
    [("servers", .integer servers), ("labels", .integer labels),
      ("division_guards", .integer divisionGuards)]

/-- Training and serving use the same features, or a failure says how they differ. -/
def parity (log : RunLog) (manifest : String) : Option Failure → Event
  | none =>
      log.event .info "parity_verified" "Training and serving feature sets match"
        [("manifest", .text manifest)]
  | some failure =>
      log.event .warn "parity_violation"
        "Training and serving feature sets differ, export blocked"
        [("manifest", .text manifest), ("error", .text failure.message)]

/-- The artifacts were written. -/
def exported (log : RunLog) (dir modelVersion labelVersion checksum : String) : Event :=
  log.event .info "artifacts_exported" "Model, scaler and feature manifest exported"
    [("dir", .text dir), ("model_version", .text modelVersion),
      ("label_version", .text labelVersion), ("checksum", .text checksum)]

/-- There was nothing to train on. -/
def skipped (log : RunLog) (reason : String) : Event :=
  log.event .info "training_skipped" "Training skipped" [("reason", .text reason)]

/-- The run failed. -/
def aborted (log : RunLog) (failure : Failure) : Event :=
  log.event .warn "run_aborted" "Feature pipeline run aborted, no artifacts written"
    [("error", .text failure.message)]

/-- The run ended. -/
def finished (log : RunLog) (elapsedMs : Nat) : Event :=
  log.event .info "run_finished" "Feature pipeline run finished"
    [("elapsed_ms", .integer elapsedMs)]

end RunLog
end FleetScore
