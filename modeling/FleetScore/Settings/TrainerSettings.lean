import FleetScore.Settings.SettingsLayer
import FleetScore.Store.Source
import FleetScore.Training.Train

/-!
# The settings of the trainer

Where the trainer finds its database, how far it looks back, where it writes, and how
it trains.  Every setting has a default, so that no file and no variable is needed.

Settings come in two layers, the file and above it the variables, and are put one
after another into one table; so a variable wins over the file.  A file may be written in several
formats, of which JSON is read here unless others are given.  Names are taken without
regard to case.  What is named nowhere has its default, and what is named but unknown is
nobody's business.

Two things can go wrong, and they are told apart: the file could not be read at all, or
a setting is not of the kind it has to be.  A setting that is wrong in the file does no
harm if a variable overrides it.  A name whose index finds no place is neither: it
leaves no settings at all.
-/

namespace FleetScore

/-- Why there are no settings: the file is absent, of an unknown format or malformed, or a
setting is of the wrong kind. -/
inductive SettingsFault where
  | unreadable
  | invalid
  deriving DecidableEq, Repr

/-- A fault of the settings in words. -/
def SettingsFault.message : SettingsFault → String
  | .unreadable => "Failed to read trainer configuration"
  | .invalid => "Invalid trainer configuration"

/-- The settings of the trainer: how the database is reached, how far back requests are fetched,
how long before a request its snapshots may lie, and how long a query may take; where artifacts
and metrics are written, and the manifest that serving runs with; and how models are trained,
every so many examples one being held back for validation. -/
structure TrainerSettings where
  databaseUrl : String
  lookbackSeconds : Nat
  toleranceSeconds : Nat
  timeoutSeconds : Nat
  artifactDir : Path
  servingManifest : Option Path
  metricsTextfile : Option Path
  epochs : Nat
  learningRate : Float
  weightDecay : Float
  validationEvery : Nat

namespace TrainerSettings

/-- What holds where nothing is set. -/
def standard : TrainerSettings where
  databaseUrl := ""
  lookbackSeconds := 604800
  toleranceSeconds := 60
  timeoutSeconds := 30
  artifactDir := ⟨"ml/models"⟩
  servingManifest := none
  metricsTextfile := none
  epochs := 100
  learningRate := 0.01
  weightDecay := 0.01
  validationEvery := 5

/-- One setting: its value where it is set, and else its default. -/
def setting {α : Type} (table : Setting) (name : String) (decode : Setting → Option α)
    (default : α) : Option α :=
  match table.member? name with
  | some s => decode s
  | none => some default

/-- All settings of a table; `none` if one is of the wrong kind. -/
def ofTable? (table : Setting) : Option TrainerSettings := do
  let path (s : Setting) : Option Path := s.toText?.map Path.mk
  some {
    databaseUrl := ← setting table "database_url" Setting.toText? standard.databaseUrl
    lookbackSeconds :=
      ← setting table "lookback_window_secs" Setting.toCount? standard.lookbackSeconds
    toleranceSeconds :=
      ← setting table "metric_tolerance_secs" Setting.toCount? standard.toleranceSeconds
    timeoutSeconds :=
      ← setting table "query_timeout_secs" Setting.toCount? standard.timeoutSeconds
    artifactDir := ← setting table "artifact_dir" path standard.artifactDir
    servingManifest :=
      ← setting table "serving_manifest_path" (Setting.toOption? path) standard.servingManifest
    metricsTextfile :=
      ← setting table "metrics_textfile" (Setting.toOption? path) standard.metricsTextfile
    epochs := ← setting table "epochs" Setting.toCount? standard.epochs
    learningRate := ← setting table "learning_rate" Setting.toReal? standard.learningRate
    weightDecay := ← setting table "weight_decay" Setting.toReal? standard.weightDecay
    validationEvery :=
      ← setting table "validation_every" Setting.toCount? standard.validationEvery }

/-- The settings from a file, if one is named, and the environment; `none` if an index
finds no place. -/
def ofSources? (files : FileTree) (file : Option Path) (env : Environment)
    (formats : SettingsFormats := .jsonOnly) : Option (Except SettingsFault TrainerSettings) :=
  let base := match file with
    | none => some []
    | some path => formats.ofFile? files path
  match base with
  | none => some (.error .unreadable)
  | some base =>
      (SettingsLayer.putInto? (base ++ SettingsLayer.ofEnvironment env) (.table [])).map
        fun table =>
          match ofTable? table with
          | none => .error .invalid
          | some settings => .ok settings

/-- The variable that names the settings file. -/
def fileVariable : String := "TRAINER_CONFIG"

/-- The settings from the environment and the file it names; `none` if an index finds
no place. -/
def load? (files : FileTree) (env : Environment) (formats : SettingsFormats := .jsonOnly) :
    Option (Except SettingsFault TrainerSettings) :=
  ofSources? files ((env.lookup fileVariable).map Path.mk) env formats

/-- How the database is read. -/
def store (s : TrainerSettings) : StoreSettings where
  lookback := .ofSeconds s.lookbackSeconds
  tolerance := .ofSeconds s.toleranceSeconds
  timeout := .ofSeconds s.timeoutSeconds
  credentials := ⟨s.databaseUrl⟩

/-- How the model is trained. -/
def training (s : TrainerSettings) : Training.Config Float where
  descent := ⟨s.epochs, s.learningRate, s.weightDecay⟩
  validationEvery := s.validationEvery

end TrainerSettings
end FleetScore
