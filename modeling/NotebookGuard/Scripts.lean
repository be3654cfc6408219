import NotebookGuard.Json.Input
import NotebookGuard.World
import NotebookGuard.Probe.Scripted
import NotebookGuard.Config.Resolve
import NotebookGuard.Policy
import NotebookGuard.Report.Json
import NotebookGuard.Probe.Ui
import NotebookGuard.Config.Selectors

/-!
# Scripts written as JSON

The scripted parts of a world, scripted probes, errors and phase outcomes
have JSON forms, so that a whole run can be described as one document.

An error is written as a string (a plain error with that text) or as an object:
`{"guard": ...}` for one of the guard's own errors, or `{"message": ...}`,
either with an optional `"context"` list, outermost first. A guard error names
its kind under `"kind"` and takes the fields of that kind.
-/

namespace NotebookGuard

namespace Json

/-- A phase member, by its key. -/
def phaseAt (r : Json) (k : String) : Input Phase :=
  match r.get? k with
  | some (.str s) => match Phase.ofKey? s with
    | some p => pure p
    | none => Input.fail ("not a phase: " ++ (Json.str s).compact)
  | some j => Input.fail ("not a phase: " ++ j.compact)
  | none => Input.fail "not a phase: null"

/-- A status member, by its name. -/
def statusAt (r : Json) (k : String) : Input Status :=
  match r.get? k with
  | some (.str s) => match Status.ofName? s with
    | some p => pure p
    | none => Input.fail ("not a status: " ++ (Json.str s).compact)
  | some j => Input.fail ("not a status: " ++ j.compact)
  | none => Input.fail "not a status: null"

end Json

/-- One of the guard's own errors from its JSON form. -/
def RunError.ofSpec (j : Json) : Input RunError := do
  match ← j.strAt "kind" "" with
  | "ProbeTimeout" => return .probeTimeout (← j.strAt "phase" "") (Duration.ofMillis (← j.natAt "timeout_ms" 0))
  | "ProbeCrash" => return .probeCrash (← j.strAt "phase" "") (← j.strAt "message" "")
  | "ConfigInvalid" => return .configInvalid (← j.strAt "message" "")
  | "ArtifactMissing" => return .artifactMissing (← j.strAt "path" "")
  | "AggregationFatal" => return .aggregationFatal (← j.strAt "message" "")
  | "LaunchFailed" => return .launchFailed (← j.strAt "message" "")
  | "Cancelled" => return .cancelled
  | other => Input.fail ("unknown guard error kind " ++ other)

/-- An error from its JSON form. -/
def Failure.ofSpec (j : Json) : Input Failure := do
  match j with
  | .str s => return Failure.msg s
  | .obj _ =>
    let base ← match j.field? "guard" with
      | some g => pure (Failure.ofRun (← RunError.ofSpec g))
      | none => pure (Failure.msg (← j.strAt "message" ""))
    return { base with context := ← j.strsAt "context" }
  | _ => Input.fail "error spec must be a string or an object"

/-- An error member, if present. -/
def Json.failureAt? (r : Json) (k : String) : Input (Option Failure) :=
  match r.field? k with
  | some e => some <$> Failure.ofSpec e
  | none => pure none

/-- A scripted engine from its JSON form. Each answer may be replaced by the
error under the same name with `_error` added. -/
def EngineScript.ofJson (e : Json) : Input EngineScript := do
  let c := e.subAt "check"
  let check ← match ← e.failureAt? "check_error" with
    | some f => pure (.error f)
    | none => pure (.ok { rc := ← c.intAt "rc" 0, stdout := ← c.strAt "stdout" "", stderr := ← c.strAt "stderr" "" })
  let execute ← match ← e.failureAt? "execute_error" with
    | some f => pure (.error f)
    | none => match e.field? "execute" with
      | some x => .ok <$> Input.typed Reader.execution x
      | none => pure (.ok { ok := true, outputsLen := 1, defsLen := 1 })
  let browse ← match ← e.failureAt? "browse_error" with
    | some f => pure (.error f)
    | none => match e.field? "browse" with
      | some x => .ok <$> Input.typed Reader.browseOutput x
      | none => pure (.ok {})
  let exports ← (← e.objAt "exports").mapM fun (k, v) => do return (k, ← Input.typed Reader.exportVerdict v)
  return { check, execute, browse, exports, exportError := ← e.failureAt? "export_error",
           exportLimit := ← e.natAt? "export_limit" }

/-- A scripted launcher from its JSON form. -/
def LauncherScript.ofJson (l : Json) : Input LauncherScript := do
  return { failLaunch := ← l.strAt? "fail_launch", failAt := ← l.natsAt "fail_at",
           exitImmediately := ← l.strAt? "exit_immediately", ready := ← l.boolAt "ready" true,
           logs := ← l.strAt "logs" "", shutdownError := ← l.strAt? "shutdown_error" }

/-- A scripted session endpoint from its JSON form. -/
def SessionScript.ofJson (s : Json) : Input SessionScript := do
  let summary ← match s.field? "summary" with
    | some x => Input.typed Reader.errorsSummary x
    | none => pure {}
  return { reachable := ← s.boolAt "reachable" false, notebooks := ← s.arrAt "notebooks",
           listError := ← s.strAt? "list_error", summary, summaryError := ← s.strAt? "summary_error" }

/-- A scripted probe from its JSON form. A crash is written `panic` with its
message, `panic_static` for the fixed message, or `panic_non_string` for one
without text. -/
def ProbeScript.ofJson (p : Json) : Input ProbeScript := do
  let register ← (← p.arrAt "register").mapM fun c => do return (← c.strAt "name" "", ← c.strAt "lib" "")
  let crash ← do
    match ← p.strAt? "panic" with
    | some m => pure (some (some m))
    | none =>
      if ← p.boolAt "panic_static" false then pure (some (some "static panic message"))
      else if ← p.boolAt "panic_non_string" false then pure (some none)
      else pure none
  let result ← match p.field? "result" with
    | some x => Input.typed Reader.phaseResult x
    | none => pure PhaseResult.passed
  return { register, cancelRun := ← p.boolAt "cancel_run" false, sleepMs := ← p.natAt? "sleep_ms",
           crash, error := ← p.failureAt? "error", result }

/-- The phase switches from their JSON form, keyed by the names of the
command-line options with underscores. -/
def PhaseFlags.ofJson (f : Json) : Input PhaseFlags := do
  return { failOnWarn := ← f.boolAt "fail_on_warn" false, visualStrict := ← f.boolAt "visual_strict" false,
           smokeStrict := ← f.boolAt "smoke_strict" false, noVisual := ← f.boolAt "no_visual" false,
           noSmoke := ← f.boolAt "no_smoke" false, smokeSeconds := ← f.natAt? "smoke_seconds",
           ui := ← f.boolAt "ui" false, uiStrict := ← f.boolAt "ui_strict" false, uiPort := ← f.natAt? "ui_port",
           uiTimeout := ← f.natAt? "ui_timeout", mcp := ← f.boolAt "mcp" false,
           mcpStrict := ← f.boolAt "mcp_strict" false, mcpUrl := ← f.strAt? "mcp_url",
           checkTimeout := ← f.natAt? "check_timeout", appRunTimeout := ← f.natAt? "app_run_timeout",
           visualTimeout := ← f.natAt? "visual_timeout", smokeTimeout := ← f.natAt? "smoke_timeout",
           requireSelftest := ← f.boolAt "require_selftest" false,
           noRequireSelftest := ← f.boolAt "no_require_selftest" false }

/-- A phase outcome from its JSON form; a missing result is a pass. -/
def PhaseOutcome.ofJson (j : Json) : Input PhaseOutcome := do
  let phase ← j.phaseAt "phase"
  let settings : PhaseSettings :=
    { enabled := ← j.boolAt "enabled" true, strict := ← j.boolAt "strict" false
      timeout := Duration.ofSecs (← j.natAt "timeout_secs" 1) }
  let result ← match j.field? "result" with
    | some r => Input.typed Reader.phaseResult r
    | none => pure PhaseResult.passed
  return { phase, settings, result, duration := Duration.ofMillis (← j.natAt "duration_ms" 0) }

/-- What a run learned of its self-test artifact, from the JSON form
`{"absent": path}` or `{"present": selftest}`; none given is the default
artifact's absence. -/
def SelfTestInput.ofJson : Option Json → Input SelfTestInput
  | none => return .absent "logs/marimo_selftest_demo.json"
  | some s =>
    match s.field? "absent" with
    | some (.str p) => return .absent p
    | some _ => Input.fail "field absent must be a string"
    | none => match s.field? "present" with
      | some p => return .present (← Input.typed Reader.selfTest p)
      | none => Input.fail "selftest must be {absent} or {present}"

/-- Facts about a run from their JSON form. -/
def RunMeta.ofJson (m : Json) : Input RunMeta := do
  return { notebook := ← m.strAt? "notebook", notebookSha256 := ← m.strAt? "notebook_sha256"
           generatedAt := ← m.strAt? "generated_at", durationMs := ← m.natAt "duration_ms" 0 }

/-- Page-check options from their JSON form, named as in the configuration's
`ui` table; with `auto_port` the port is left to be picked. -/
def UiOptions.ofJson (ui : Json) : Input UiOptions := do
  let selectors ← match ui.field? "selectors" with
    | some x => Input.typed Reader.uiSelectors x
    | none => pure {}
  let port ← ui.natAt "port" 2750
  return { port := if ← ui.boolAt "auto_port" false then none else some port,
           errorAllowlist := ← ui.strsAt "error_allowlist", domSamples := ← ui.natAt "dom_samples" 3,
           sampleIntervalMs := ← ui.natAt "sample_interval_ms" 400, selectors := selectors.byLibrary,
           logsDir := ← ui.strAt "logs_dir" "logs" }

/-- HTTP settings from their JSON form; a field not given keeps its value in
`base`. -/
def HttpSettings.ofJson (base : HttpSettings) (r : Json) : Input HttpSettings := do
  let retryStatuses ← if (r.field? "retry_statuses").isSome then r.natsAt "retry_statuses"
    else pure base.retryStatuses
  return { timeoutMs := ← r.natAt "timeout_ms" base.timeoutMs, maxRetries := ← r.natAt "max_retries" base.maxRetries,
           backoffMs := ← r.natAt "backoff_ms" base.backoffMs,
           backoffMaxMs := ← r.natAt "backoff_max_ms" base.backoffMaxMs, retryStatuses }

end NotebookGuard
