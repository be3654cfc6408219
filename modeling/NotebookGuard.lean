import NotebookGuard.Chart
import NotebookGuard.Cli.Args
import NotebookGuard.Cli.Help
import NotebookGuard.Cli.Resolve
import NotebookGuard.Cli.Syntax
import NotebookGuard.Config.Basic
import NotebookGuard.Config.Document
import NotebookGuard.Config.Flag
import NotebookGuard.Config.Resolve
import NotebookGuard.Config.Selectors
import NotebookGuard.Decimal.Nearest
import NotebookGuard.Decimal.Shortest
import NotebookGuard.Duration
import NotebookGuard.Engine
import NotebookGuard.ExportCache
import NotebookGuard.Failure
import NotebookGuard.Fingerprint
import NotebookGuard.GuardLoop
import NotebookGuard.Imports
import NotebookGuard.Json.Decode
import NotebookGuard.Json.Fault
import NotebookGuard.Json.Input
import NotebookGuard.Json.Reader
import NotebookGuard.Json.Value
import NotebookGuard.Json.Write
import NotebookGuard.LogScan
import NotebookGuard.Machine.Basic
import NotebookGuard.Machine.Behavior
import NotebookGuard.Machine.Endpoint
import NotebookGuard.Machine.Engine
import NotebookGuard.Machine.Http
import NotebookGuard.Machine.Preview
import NotebookGuard.Machine.Scene
import NotebookGuard.Main
import NotebookGuard.Monitor
import NotebookGuard.Orchestrator
import NotebookGuard.Path
import NotebookGuard.PhaseResult
import NotebookGuard.Pipeline
import NotebookGuard.Policy
import NotebookGuard.Probe.Check
import NotebookGuard.Probe.Context
import NotebookGuard.Probe.Execute
import NotebookGuard.Probe.Scripted
import NotebookGuard.Probe.Session
import NotebookGuard.Probe.Smoke
import NotebookGuard.Probe.Ui
import NotebookGuard.Probe.Visual
import NotebookGuard.Program
import NotebookGuard.Proofs.Act
import NotebookGuard.Proofs.Aggregate
import NotebookGuard.Proofs.Effects
import NotebookGuard.Proofs.ExitCode
import NotebookGuard.Proofs.Files
import NotebookGuard.Proofs.GuardLoop
import NotebookGuard.Proofs.JsonValue
import NotebookGuard.Proofs.Orchestrator
import NotebookGuard.Proofs.Pipeline
import NotebookGuard.Proofs.RunFlags
import NotebookGuard.Proofs.Watch
import NotebookGuard.Project
import NotebookGuard.Recovery
import NotebookGuard.Report.Basic
import NotebookGuard.Report.Files
import NotebookGuard.Report.Json
import NotebookGuard.Scripts
import NotebookGuard.Sessions
import NotebookGuard.Sha256
import NotebookGuard.Shell.Arith
import NotebookGuard.Shell.Format
import NotebookGuard.Shell.Pattern
import NotebookGuard.Shell.Run
import NotebookGuard.Shell.Syntax
import NotebookGuard.Shell.Test
import NotebookGuard.Stage
import NotebookGuard.Status
import NotebookGuard.Text.Blank
import NotebookGuard.Text.Letters
import NotebookGuard.Text.Replace
import NotebookGuard.Text.Similarity
import NotebookGuard.Toml.Decode
import NotebookGuard.Toml.Document
import NotebookGuard.Toml.Error
import NotebookGuard.Toml.Scalar
import NotebookGuard.Toml.Scan
import NotebookGuard.Toml.Value
import NotebookGuard.Toml.Write
import NotebookGuard.Watch
import NotebookGuard.Workspace
import NotebookGuard.World
import NotebookGuard.Proofs.Registry
import NotebookGuard.Proofs.Visual
import NotebookGuard.Proofs.Handoff
import NotebookGuard.Proofs.LogScan
import NotebookGuard.Proofs.PageCheck
import NotebookGuard.Proofs.CachedExports
import NotebookGuard.Proofs.PreviewWalk
import NotebookGuard.Proofs.HttpRetries
import NotebookGuard.Proofs.Polling
import NotebookGuard.Proofs.FileMonitor
import NotebookGuard.Proofs.Cancellation
import NotebookGuard.Proofs.ShellQuoting
import NotebookGuard.Proofs.ConfigLayers
import NotebookGuard.Proofs.ImportedModules
import NotebookGuard.Proofs.ReportText
import NotebookGuard.Proofs.ReaderRoom
import NotebookGuard.Proofs.DecodedValues
import NotebookGuard.Proofs.ReportRoundTrip
