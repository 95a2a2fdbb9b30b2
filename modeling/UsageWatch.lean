import UsageWatch.Address
import UsageWatch.Calendar
import UsageWatch.Check
import UsageWatch.Collection
import UsageWatch.CollectionKind
import UsageWatch.CommandLine.Grammar
import UsageWatch.CommandLine.Help
import UsageWatch.CommandLine.Options
import UsageWatch.Config
import UsageWatch.Config.File
import UsageWatch.Config.Json
import UsageWatch.Config.Settings
import UsageWatch.Config.Toml
import UsageWatch.Config.Yaml
import UsageWatch.Counter
import UsageWatch.Decimal.Binary
import UsageWatch.Decimal.Fixed
import UsageWatch.Decimal.Range
import UsageWatch.Decimal.Shortest
import UsageWatch.Error
import UsageWatch.Files
import UsageWatch.Files.Tree
import UsageWatch.Json
import UsageWatch.Json.Fields
import UsageWatch.Json.Printer
import UsageWatch.Json.Reader
import UsageWatch.Layout
import UsageWatch.LogLevel
import UsageWatch.Main
import UsageWatch.Metrics
import UsageWatch.Metrics.Series
import UsageWatch.PackageFilter
import UsageWatch.Profiler
import UsageWatch.Profiler.Run
import UsageWatch.Profiler.Shared
import UsageWatch.Program
import UsageWatch.Proofs.BlockedTasks
import UsageWatch.Proofs.Breakdown
import UsageWatch.Proofs.CacheInput
import UsageWatch.Proofs.Calendar
import UsageWatch.Proofs.Change
import UsageWatch.Proofs.Check
import UsageWatch.Proofs.Collection
import UsageWatch.Proofs.CollectionHistory
import UsageWatch.Proofs.ConfigFiles
import UsageWatch.Proofs.DumpMessage
import UsageWatch.Proofs.Expiry
import UsageWatch.Proofs.Filtering
import UsageWatch.Proofs.Gauges
import UsageWatch.Proofs.History
import UsageWatch.Proofs.Interleaving
import UsageWatch.Proofs.Invisibility
import UsageWatch.Proofs.Isolation
import UsageWatch.Proofs.JsonText
import UsageWatch.Proofs.Layout
import UsageWatch.Proofs.Log
import UsageWatch.Proofs.Mirroring
import UsageWatch.Proofs.Numeral
import UsageWatch.Proofs.Omission
import UsageWatch.Proofs.Overlap
import UsageWatch.Proofs.PackageLists
import UsageWatch.Proofs.Projection
import UsageWatch.Proofs.Ranking
import UsageWatch.Proofs.Reordering
import UsageWatch.Proofs.Replay
import UsageWatch.Proofs.ReplayText
import UsageWatch.Proofs.ReportLines
import UsageWatch.Proofs.ReportMarkers
import UsageWatch.Proofs.ReportSections
import UsageWatch.Proofs.ServerEvent
import UsageWatch.Proofs.ServerRequest
import UsageWatch.Proofs.ServerRun
import UsageWatch.Proofs.ServerUsage
import UsageWatch.Proofs.SessionHistory
import UsageWatch.Proofs.SessionOrder
import UsageWatch.Proofs.SessionStore
import UsageWatch.Proofs.Settings
import UsageWatch.Proofs.Share
import UsageWatch.Proofs.StartTimes
import UsageWatch.Proofs.Sweeps
import UsageWatch.Proofs.Telemetry
import UsageWatch.Proofs.TextLines
import UsageWatch.Proofs.TextRuns
import UsageWatch.Proofs.TomlSettings
import UsageWatch.Proofs.TomlText
import UsageWatch.Proofs.Totals
import UsageWatch.Proofs.Usage
import UsageWatch.Proofs.UsageText
import UsageWatch.Proofs.UserSwitch
import UsageWatch.Proofs.Window
import UsageWatch.Proofs.WireFormat
import UsageWatch.Proofs.YamlDocument
import UsageWatch.Proofs.YamlLiteral
import UsageWatch.Proofs.YamlPrinter
import UsageWatch.Proofs.YamlQuoted
import UsageWatch.Proofs.YamlScalars
import UsageWatch.Proofs.YamlSettings
import UsageWatch.Proofs.YamlTokens
import UsageWatch.Ranking
import UsageWatch.Record
import UsageWatch.Replay
import UsageWatch.Replay.Plan
import UsageWatch.Replay.Run
import UsageWatch.Replay.Source
import UsageWatch.Report
import UsageWatch.Sample
import UsageWatch.Sample.Format
import UsageWatch.Server
import UsageWatch.Server.Health
import UsageWatch.Server.Interleaving
import UsageWatch.Server.Query
import UsageWatch.Server.Run
import UsageWatch.SessionStore
import UsageWatch.TestData
import UsageWatch.Text.Blank
import UsageWatch.Text.Fields
import UsageWatch.Text.Hex
import UsageWatch.Text.Numeral
import UsageWatch.Text.Utf8
import UsageWatch.Timestamp
import UsageWatch.Toml
import UsageWatch.Toml.Numeral
import UsageWatch.Toml.Quoted
import UsageWatch.Toml.Reader
import UsageWatch.Toml.Section
import UsageWatch.Toml.Token
import UsageWatch.Usage
import UsageWatch.Usage.Format
import UsageWatch.Wire.Field
import UsageWatch.Wire.Message
import UsageWatch.Wire.Projection
import UsageWatch.Yaml.Cursor
import UsageWatch.Yaml.Document
import UsageWatch.Yaml.Node
import UsageWatch.Yaml.Resolution
import UsageWatch.Yaml.Scalar
import UsageWatch.Yaml.Scalar.Block
import UsageWatch.Yaml.Scalar.Plain
import UsageWatch.Yaml.Scalar.Printer
import UsageWatch.Yaml.Scalar.Quoted
import UsageWatch.Yaml.Token
import UsageWatch.Yaml.Token.Reader
