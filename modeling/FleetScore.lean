import FleetScore.Artifact.Export
import FleetScore.Artifact.ModelRecord
import FleetScore.Console.Artifacts
import FleetScore.Console.CommandLine
import FleetScore.Console.Features
import FleetScore.Console.Glyph
import FleetScore.Console.Program
import FleetScore.Console.Screen
import FleetScore.Console.Style
import FleetScore.Console.Table
import FleetScore.Console.Width
import FleetScore.Decimal.Entry
import FleetScore.Decimal.Layout
import FleetScore.Decimal.Natural
import FleetScore.Decimal.Numeral
import FleetScore.Decimal.Reading
import FleetScore.Decimal.Shortest
import FleetScore.Digest.Sha256
import FleetScore.Failure
import FleetScore.Feature.Aggregation
import FleetScore.Feature.Name
import FleetScore.Feature.Parity
import FleetScore.Feature.Vector
import FleetScore.Json.Decode
import FleetScore.Json.Printer
import FleetScore.Json.Reader
import FleetScore.Json.Value
import FleetScore.Label.Alignment
import FleetScore.Label.Score
import FleetScore.Main
import FleetScore.Manifest.FeatureManifest
import FleetScore.Manifest.Verification
import FleetScore.Numeric.Binary64
import FleetScore.Numeric.Scalar
import FleetScore.Numeric.Statistics
import FleetScore.Numeric.Word
import FleetScore.Order.Ascending
import FleetScore.Pipeline.Run
import FleetScore.Proofs.Feature.RequestRows
import FleetScore.Proofs.Numeric.Doubles
import FleetScore.Proofs.Order.Groups
import FleetScore.Proofs.Order.StableOrder
import FleetScore.Proofs.Pipeline.Correspondence
import FleetScore.Proofs.Pipeline.Partition
import FleetScore.Proofs.Pipeline.PerServer
import FleetScore.Proofs.Pipeline.RawEvents
import FleetScore.Proofs.Storage.Paths
import FleetScore.Proofs.Store.Matching
import FleetScore.Proofs.Store.NaiveJoin
import FleetScore.Proofs.Time.Backwards
import FleetScore.Proofs.Training.Halves
import FleetScore.Settings.Setting
import FleetScore.Settings.SettingPath
import FleetScore.Settings.SettingsLayer
import FleetScore.Settings.TrainerSettings
import FleetScore.Storage.FileTree
import FleetScore.Storage.Path
import FleetScore.Storage.Place
import FleetScore.Storage.Plan
import FleetScore.Store.Join
import FleetScore.Store.Record
import FleetScore.Store.RecordText
import FleetScore.Store.Database
import FleetScore.Store.Source
import FleetScore.Telemetry.Event
import FleetScore.Telemetry.Filter
import FleetScore.Telemetry.Metrics
import FleetScore.Telemetry.Pattern
import FleetScore.Telemetry.RunLog
import FleetScore.Text.Alphanumeric
import FleetScore.Text.Blank
import FleetScore.Text.CodePoints
import FleetScore.Text.Printable
import FleetScore.Text.Quoted
import FleetScore.Time.Calendar
import FleetScore.Time.Instant
import FleetScore.Time.Timestamp
import FleetScore.Trainer.Program
import FleetScore.Training.Evaluation
import FleetScore.Training.Regressor
import FleetScore.Training.Scaler
import FleetScore.Training.Set
import FleetScore.Training.Train
import FleetScore.Proofs.Storage.Interruption
import FleetScore.Proofs.Decimal.NumeralText
import FleetScore.Proofs.Json.Layouts
import FleetScore.Proofs.Time.Dates
import FleetScore.Proofs.Time.TimestampText
import FleetScore.Proofs.Json.Records
import FleetScore.Proofs.Manifest.ManifestText
import FleetScore.Proofs.Artifact.ExportPlan
import FleetScore.Proofs.Artifact.CrashConsistency
import FleetScore.Proofs.Storage.Success
import FleetScore.Proofs.Artifact.FailedExport
import FleetScore.Proofs.Pipeline.ArtifactHistory
import FleetScore.Proofs.Numeric.Rounding
import FleetScore.Proofs.Numeric.Sizes
import FleetScore.Proofs.Numeric.Finiteness
import FleetScore.Proofs.Numeric.Nonnegative
import FleetScore.Proofs.Training.Losses
import FleetScore.Proofs.Training.FiniteResults
import FleetScore.Proofs.Decimal.PrintedDoubles
import FleetScore.Proofs.Json.Measurements
import FleetScore.Proofs.Storage.Retrieval
import FleetScore.Proofs.Artifact.Loading
import FleetScore.Proofs.Pipeline.LoadableArtifacts
import FleetScore.Proofs.Artifact.ParityChecks
import FleetScore.Proofs.Training.ReportedResults
import FleetScore.Proofs.Artifact.ReadBack
import FleetScore.Proofs.Artifact.RestoredModel
import FleetScore.Proofs.Pipeline.LookbackWindow
import FleetScore.Proofs.Pipeline.RecordOrder
import FleetScore.Proofs.Pipeline.Courses
import FleetScore.Proofs.Pipeline.RunOutcomes
import FleetScore.Proofs.Pipeline.MetricsHistory
import FleetScore.Proofs.Pipeline.RunEvents
import FleetScore.Proofs.Numeric.Ranks
import FleetScore.Proofs.Pipeline.CheckedStage
import FleetScore.Proofs.Json.CompactLayout
import FleetScore.Proofs.Manifest.ManifestLayouts
import FleetScore.Proofs.Storage.AbsentFiles
import FleetScore.Proofs.Console.VerifyCommand
import FleetScore.Proofs.Numeric.Comparison
import FleetScore.Proofs.Training.BestCheckpoint
import FleetScore.Proofs.Json.Codecs
import FleetScore.Proofs.Store.WrittenRecords
import FleetScore.Proofs.Settings.LayeredSettings
import FleetScore.Proofs.Numeric.Signs
import FleetScore.Proofs.Training.ConstantFeatures
import FleetScore.Proofs.Feature.UnmatchedRows
import FleetScore.Proofs.Numeric.Exact
import FleetScore.Proofs.Label.RequestWeights
import FleetScore.Proofs.Numeric.Counts
import FleetScore.Proofs.Feature.VectorRanges
import FleetScore.Proofs.Settings.TextSettings
import FleetScore.Proofs.Label.Pairing
import FleetScore.Proofs.Training.HeldBack
import FleetScore.Proofs.Numeric.OrderStatistics
import FleetScore.Proofs.Pipeline.RowOrder
import FleetScore.Proofs.Training.FiniteModels
import FleetScore.Proofs.Training.GradientSteps
import FleetScore.Proofs.Training.IgnoredFeatures
import FleetScore.Proofs.Training.FeatureUnits
import FleetScore.Proofs.Numeric.Moments
import FleetScore.Proofs.Training.StandardColumns
import FleetScore.Proofs.Training.ErrorStatistics
import FleetScore.Proofs.Numeric.WholeNumbers
import FleetScore.Proofs.Feature.NamedVectors
