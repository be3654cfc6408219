import NotebookGuard.Config.Basic
import NotebookGuard.Toml.Decode
import NotebookGuard.Toml.Error
import NotebookGuard.Toml.Write
import NotebookGuard.Failure

/-!
# Reading a configuration document

A configuration is read from a TOML document in two passes. The document is
read as a table; if it holds a table under `marimo_guard`, that table stands
for the whole document. The table is then written out as a document of its
own and read once more, now as a configuration, so an error about a setting
shows its line in the written document. Each group is a record whose fields
are the document keys; unknown keys are passed over.
-/

namespace NotebookGuard

namespace ConfigDocument

open TomlReader

/-- The fields of a path group. -/
def pathFields : List (TomlField PathSettings) :=
  [.of "logs_dir" string fun s v => { s with logsDir := v }]

/-- The fields of an engine group. -/
def engineFields : List (TomlField EngineSettings) :=
  [.of "python_exe" string fun s v => { s with pythonExe := v },
   .of "scripts_dir" string fun s v => { s with scriptsDir := v },
   .of "marimo_module" string fun s v => { s with marimoModule := v }]

/-- The fields of a phase group. -/
def toggleFields : List (TomlField PhaseToggle) :=
  [.of "enabled" boolean fun s v => { s with enabled := v },
   .of "strict" boolean fun s v => { s with strict := v },
   .of "timeout_seconds" (unsigned 64) fun s v => { s with timeoutSeconds := v }]

/-- The fields of the headless run group. -/
def smokeFields : List (TomlField SmokeSettings) :=
  [.of "enabled" boolean fun s v => { s with enabled := v },
   .of "strict" boolean fun s v => { s with strict := v },
   .of "timeout_seconds" (unsigned 64) fun s v => { s with timeoutSeconds := v },
   .of "seconds" (unsigned 64) fun s v => { s with seconds := v },
   .of "port" (present (unsigned 16)) fun s v => { s with port := v }]

/-- The fields of a selector group. -/
def selectorFields : List (TomlField UiSelectors) :=
  [.of "altair" strings fun s v => { s with altair := v },
   .of "plotly" strings fun s v => { s with plotly := v },
   .of "bokeh" strings fun s v => { s with bokeh := v },
   .of "matplotlib" strings fun s v => { s with matplotlib := v }]

/-- The fields of the page check group. -/
def uiFields : List (TomlField UiSettings) :=
  [.of "enabled" boolean fun s v => { s with enabled := v },
   .of "strict" boolean fun s v => { s with strict := v },
   .of "timeout_seconds" (unsigned 64) fun s v => { s with timeoutSeconds := v },
   .of "port" (present (unsigned 16)) fun s v => { s with port := v },
   .of "error_allowlist" strings fun s v => { s with errorAllowlist := v },
   .of "dom_samples" (unsigned 32) fun s v => { s with domSamples := v },
   .of "sample_interval_ms" (unsigned 64) fun s v => { s with sampleIntervalMs := v },
   .of "selectors" (record "UiSelectors" {} selectorFields) fun s v => { s with selectors := v }]

/-- The fields of the server query group. -/
def mcpFields : List (TomlField McpSettings) :=
  [.of "enabled" boolean fun s v => { s with enabled := v },
   .of "strict" boolean fun s v => { s with strict := v },
   .of "timeout_seconds" (unsigned 64) fun s v => { s with timeoutSeconds := v },
   .of "url" string fun s v => { s with url := v },
   .of "wait_seconds" (unsigned 64) fun s v => { s with waitSeconds := v },
   .of "connect_timeout_seconds" (unsigned 64) fun s v => { s with connectTimeoutSeconds := v },
   .of "max_retries" (unsigned 32) fun s v => { s with maxRetries := v }]

/-- The fields of the self-test group. -/
def selfTestFields : List (TomlField SelfTestSettings) :=
  [.of "require" boolean fun s v => { s with require := v },
   .of "clear_stale" boolean fun s v => { s with clearStale := v }]

/-- The fields of the loop group. -/
def loopFields : List (TomlField LoopSettings) :=
  [.of "max_iters" (unsigned 32) fun s v => { s with maxIters := v },
   .of "sleep_seconds" (unsigned 64) fun s v => { s with sleepSeconds := v },
   .of "recovery_cmd" string fun s v => { s with recoveryCmd := v },
   .of "recovery_timeout_seconds" (unsigned 64) fun s v => { s with recoveryTimeoutSeconds := v }]

/-- The fields of the watcher group. -/
def watchFields : List (TomlField WatchSettings) :=
  [.of "port" (unsigned 16) fun s v => { s with port := v },
   .of "poll_ms" (unsigned 64) fun s v => { s with pollMs := v },
   .of "debounce_ms" (unsigned 64) fun s v => { s with debounceMs := v },
   .of "log_file" string fun s v => { s with logFile := v },
   .of "watch_imports" boolean fun s v => { s with watchImports := v },
   .of "validate_on_change" boolean fun s v => { s with validateOnChange := v }]

/-- The fields of the output group. -/
def outputFields : List (TomlField OutputSettings) :=
  [.of "json" boolean fun s v => { s with json := v },
   .of "write_report" boolean fun s v => { s with writeReport := v },
   .of "write_iteration_reports" boolean fun s v => { s with writeIterationReports := v }]

/-- The fields of the logging group. -/
def logFields : List (TomlField LogSettings) :=
  [.of "level" string fun s v => { s with level := v },
   .of "json" boolean fun s v => { s with json := v },
   .of "write_to_file" boolean fun s v => { s with writeToFile := v },
   .of "file_path" string fun s v => { s with filePath := v }]

/-- The groups of a configuration. -/
def configFields : List (TomlField Config) :=
  let d := Config.default
  [.of "paths" (record "Paths" d.paths pathFields) fun c v => { c with paths := v },
   .of "engine" (record "Engine" d.engine engineFields) fun c v => { c with engine := v },
   .of "check" (record "Check" d.check toggleFields) fun c v => { c with check := v },
   .of "app_run" (record "AppRun" d.appRun toggleFields) fun c v => { c with appRun := v },
   .of "visual" (record "Visual" d.visual toggleFields) fun c v => { c with visual := v },
   .of "smoke" (record "Smoke" d.smoke smokeFields) fun c v => { c with smoke := v },
   .of "ui" (record "Ui" d.ui uiFields) fun c v => { c with ui := v },
   .of "mcp" (record "Mcp" d.mcp mcpFields) fun c v => { c with mcp := v },
   .of "selftest" (record "Selftest" d.selftest selfTestFields) fun c v => { c with selftest := v },
   .of "guard_loop" (record "GuardLoop" d.guardLoop loopFields) fun c v => { c with guardLoop := v },
   .of "watch" (record "Watch" d.watch watchFields) fun c v => { c with watch := v },
   .of "output" (record "Output" d.output outputFields) fun c v => { c with output := v },
   .of "logging" (record "Logging" d.logging logFields) fun c v => { c with logging := v }]

/-- The table that stands for the configuration: the one under
`marimo_guard` when there is one, else the whole document. -/
def guardTable (doc : List (String × Span × TomlValue)) : List (String × Span × TomlValue) :=
  match doc.find? (·.1 == "marimo_guard") with
  | some (_, _, .table inner) => inner
  | _ => doc

end ConfigDocument

namespace Config

/-- A TOML error shown in the text it is about. -/
def tomlFailure (text : String) (e : TomlError) : Failure := { cause := .toml (e.render text) }

/-- The configuration a TOML document sets. -/
def parse (raw : String) : Except Failure Config := do
  let doc ← (parseToml raw).mapError (tomlFailure raw)
  let written := tomlDocument (ConfigDocument.guardTable doc)
  let table ← (parseToml written).mapError (tomlFailure written)
  (TomlReader.record "Config" Config.default ConfigDocument.configFields (Span.point 0) (.table table)).mapError
    (tomlFailure written)

end Config

end NotebookGuard
