import NotebookGuard.Config.Selectors
import NotebookGuard.Json.Value

/-!
# The guard's configuration

Every setting the guard reads, grouped by what it is for, each with its
default: where logs go, how the helper engine is started, how each of the six
phases runs, how the loop and the watcher behave, and what is written out. A
configuration with nothing set is `Config.default`; every group and every
setting left out of a document keeps its default.

`Config.toJson` writes every setting under the key a document gives it.
-/

namespace NotebookGuard

/-- Where files are written. -/
structure PathSettings where
  /-- Relative to the project root unless absolute. -/
  logsDir : String := "logs"

/-- How the helper engine is started. -/
structure EngineSettings where
  pythonExe : String := "auto"
  scriptsDir : String := "scripts"
  marimoModule : String := "marimo"

/-- Whether a phase runs, whether its warnings fail it, and its time limit. -/
structure PhaseToggle where
  enabled : Bool := true
  strict : Bool := false
  timeoutSeconds : Nat

/-- The headless run of the notebook. -/
structure SmokeSettings where
  enabled : Bool := true
  strict : Bool := false
  timeoutSeconds : Nat := 30
  /-- How long the headless instance is left running before teardown. -/
  seconds : Nat := 6
  port : Option Nat := none

/-- The page check in a browser. -/
structure UiSettings where
  enabled : Bool := false
  strict : Bool := false
  timeoutSeconds : Nat := 20
  port : Option Nat := none
  errorAllowlist : List String := []
  domSamples : Nat := 3
  sampleIntervalMs : Nat := 400
  selectors : UiSelectors := {}

/-- The query of a running notebook server. -/
structure McpSettings where
  enabled : Bool := false
  strict : Bool := false
  timeoutSeconds : Nat := 15
  url : String := "http://localhost:2718/mcp/server"
  /-- Poll for the endpoint up to this many seconds. -/
  waitSeconds : Nat := 0
  connectTimeoutSeconds : Nat := 5
  maxRetries : Nat := 3

/-- The artifact a notebook's own self-test writes. -/
structure SelfTestSettings where
  require : Bool := true
  /-- Remove a previous run's artifact before executing the notebook. -/
  clearStale : Bool := true

/-- The guard loop. -/
structure LoopSettings where
  maxIters : Nat := 3
  sleepSeconds : Nat := 3
  recoveryCmd : String := ""
  recoveryTimeoutSeconds : Nat := 300

/-- The watcher. -/
structure WatchSettings where
  port : Nat := 2731
  pollMs : Nat := 500
  debounceMs : Nat := 250
  logFile : String := ""
  watchImports : Bool := true
  validateOnChange : Bool := true

/-- What is written out. -/
structure OutputSettings where
  json : Bool := false
  writeReport : Bool := true
  writeIterationReports : Bool := true

/-- Logging. -/
structure LogSettings where
  level : String := "info"
  json : Bool := false
  writeToFile : Bool := false
  filePath : String := ""

/-- The whole configuration. -/
structure Config where
  paths : PathSettings := {}
  engine : EngineSettings := {}
  check : PhaseToggle := { timeoutSeconds := 60 }
  appRun : PhaseToggle := { timeoutSeconds := 120 }
  visual : PhaseToggle := { timeoutSeconds := 120 }
  smoke : SmokeSettings := {}
  ui : UiSettings := {}
  mcp : McpSettings := {}
  selftest : SelfTestSettings := {}
  guardLoop : LoopSettings := {}
  watch : WatchSettings := {}
  output : OutputSettings := {}
  logging : LogSettings := {}

namespace Config

/-- The configuration with nothing set. -/
def default : Config := {}

/-- A port that may be unset. -/
def portJson : Option Nat → Json
  | some p => Json.nat p
  | none => .null

/-- A phase's three settings. -/
def toggleJson (t : PhaseToggle) : Json :=
  Json.object [("enabled", .bool t.enabled), ("strict", .bool t.strict),
    ("timeout_seconds", Json.nat t.timeoutSeconds)]

/-- Every setting under its document key. -/
def toJson (c : Config) : Json :=
  Json.object [
    ("paths", Json.object [("logs_dir", .str c.paths.logsDir)]),
    ("engine", Json.object [("python_exe", .str c.engine.pythonExe),
      ("scripts_dir", .str c.engine.scriptsDir), ("marimo_module", .str c.engine.marimoModule)]),
    ("check", toggleJson c.check),
    ("app_run", toggleJson c.appRun),
    ("visual", toggleJson c.visual),
    ("smoke", Json.object [("enabled", .bool c.smoke.enabled), ("strict", .bool c.smoke.strict),
      ("timeout_seconds", Json.nat c.smoke.timeoutSeconds), ("seconds", Json.nat c.smoke.seconds),
      ("port", portJson c.smoke.port)]),
    ("ui", Json.object [("enabled", .bool c.ui.enabled), ("strict", .bool c.ui.strict),
      ("timeout_seconds", Json.nat c.ui.timeoutSeconds), ("port", portJson c.ui.port),
      ("error_allowlist", Json.texts c.ui.errorAllowlist), ("dom_samples", Json.nat c.ui.domSamples),
      ("sample_interval_ms", Json.nat c.ui.sampleIntervalMs),
      ("selectors", Json.object (c.ui.selectors.byLibrary.map fun (k, v) => (k, Json.texts v)))]),
    ("mcp", Json.object [("enabled", .bool c.mcp.enabled), ("strict", .bool c.mcp.strict),
      ("timeout_seconds", Json.nat c.mcp.timeoutSeconds), ("url", .str c.mcp.url),
      ("wait_seconds", Json.nat c.mcp.waitSeconds),
      ("connect_timeout_seconds", Json.nat c.mcp.connectTimeoutSeconds),
      ("max_retries", Json.nat c.mcp.maxRetries)]),
    ("selftest", Json.object [("require", .bool c.selftest.require),
      ("clear_stale", .bool c.selftest.clearStale)]),
    ("guard_loop", Json.object [("max_iters", Json.nat c.guardLoop.maxIters),
      ("sleep_seconds", Json.nat c.guardLoop.sleepSeconds), ("recovery_cmd", .str c.guardLoop.recoveryCmd),
      ("recovery_timeout_seconds", Json.nat c.guardLoop.recoveryTimeoutSeconds)]),
    ("watch", Json.object [("port", Json.nat c.watch.port), ("poll_ms", Json.nat c.watch.pollMs),
      ("debounce_ms", Json.nat c.watch.debounceMs), ("log_file", .str c.watch.logFile),
      ("watch_imports", .bool c.watch.watchImports),
      ("validate_on_change", .bool c.watch.validateOnChange)]),
    ("output", Json.object [("json", .bool c.output.json), ("write_report", .bool c.output.writeReport),
      ("write_iteration_reports", .bool c.output.writeIterationReports)]),
    ("logging", Json.object [("level", .str c.logging.level), ("json", .bool c.logging.json),
      ("write_to_file", .bool c.logging.writeToFile), ("file_path", .str c.logging.filePath)])]

end Config

end NotebookGuard
