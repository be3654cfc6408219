import NotebookGuard.Config.Basic
import NotebookGuard.Config.Flag
import NotebookGuard.Text.Blank
import NotebookGuard.Failure
import NotebookGuard.Status

/-!
# Settling a configuration

A configuration read from a document is overridden by the environment and
then by command-line flags, each changing only what it sets; a value of the
environment that cannot be read changes nothing. `Config.validate` then names
the first setting that cannot be run with, and `Config.phaseSettings` hands
each phase its three settings.
-/

namespace NotebookGuard

/-- A count written in decimal digits, perhaps after a plus sign, with blanks
around it; it must fit 64 bits. -/
def parseCount (raw : String) : Option Nat :=
  let cs := (trimBlanks raw).toList
  let ds := match cs with
    | '+' :: rest => rest
    | _ => cs
  if ds.isEmpty || !ds.all Char.isDigit then none
  else
    let n := ds.foldl (fun n c => n * 10 + (c.toNat - '0'.toNat)) 0
    if n < Nat.pow 2 64 then some n else none

namespace Config

/-- The configuration with the guard's environment variables applied, looked
up by `lookup`. Each variable that is set and can be read overrides its
setting; a strict page check, or a port for it that fits 16 bits, also
switches the page check on. -/
def applyEnv (lookup : String → Option String) (c : Config) : Config :=
  let flag (name : String) : Option Bool := (lookup ("MARIMO_GUARD_" ++ name)).bind parseFlag
  let count (name : String) : Option Nat := (lookup ("MARIMO_GUARD_" ++ name)).bind parseCount
  let c := { c with check.strict := (flag "FAIL_ON_WARN").getD c.check.strict }
  let c := { c with selftest.require := (flag "REQUIRE_ARTIFACT").getD c.selftest.require }
  let c := { c with mcp.enabled := (flag "USE_MCP").getD c.mcp.enabled }
  let url := (lookup "MARIMO_GUARD_MCP_URL").filter fun v => !(trimBlanks v).isEmpty
  let c := { c with mcp.url := (url.map trimBlanks).getD c.mcp.url }
  let c := { c with mcp.strict := (flag "MCP_STRICT").getD c.mcp.strict }
  let c := { c with mcp.waitSeconds := (count "MCP_WAIT_SECONDS").getD c.mcp.waitSeconds }
  let c := { c with visual.strict := (flag "VISUAL_STRICT").getD c.visual.strict }
  let uiStrict := flag "UI_STRICT"
  let c := { c with ui.strict := uiStrict.getD c.ui.strict,
                    ui.enabled := c.ui.enabled || uiStrict.getD false }
  let uiPort := (count "UI_PORT").filter (· < Nat.pow 2 16)
  let c := { c with ui.port := (uiPort.map some).getD c.ui.port,
                    ui.enabled := c.ui.enabled || uiPort.isSome }
  { c with ui.timeoutSeconds := (count "UI_TIMEOUT").getD c.ui.timeoutSeconds }

end Config

/-- The phase switches of the command line; each one unset changes nothing. -/
structure PhaseFlags where
  failOnWarn : Bool := false
  visualStrict : Bool := false
  smokeStrict : Bool := false
  noVisual : Bool := false
  noSmoke : Bool := false
  smokeSeconds : Option Nat := none
  ui : Bool := false
  uiStrict : Bool := false
  uiPort : Option Nat := none
  uiTimeout : Option Nat := none
  mcp : Bool := false
  mcpStrict : Bool := false
  mcpUrl : Option String := none
  checkTimeout : Option Nat := none
  appRunTimeout : Option Nat := none
  visualTimeout : Option Nat := none
  smokeTimeout : Option Nat := none
  requireSelftest : Bool := false
  noRequireSelftest : Bool := false
  deriving DecidableEq

namespace PhaseFlags

/-- The configuration with the flags that are set applied over it: a switch
that is given turns its setting on (or off, for `no_visual`, `no_smoke` and
`no_require_selftest`), a value that is given replaces its setting, and the
page check and the server query are switched on by their other flags. -/
def apply (f : PhaseFlags) (c : Config) : Config :=
  let c := { c with check.strict := f.failOnWarn || c.check.strict }
  let c := { c with visual.strict := f.visualStrict || c.visual.strict }
  let c := { c with smoke.strict := f.smokeStrict || c.smoke.strict }
  let c := { c with visual.enabled := !f.noVisual && c.visual.enabled }
  let c := { c with smoke.enabled := !f.noSmoke && c.smoke.enabled }
  let c := { c with smoke.seconds := f.smokeSeconds.getD c.smoke.seconds }
  let c := { c with ui.enabled := f.ui || f.uiStrict || f.uiPort.isSome || c.ui.enabled }
  let c := { c with ui.strict := f.uiStrict || c.ui.strict }
  let c := { c with ui.port := (f.uiPort.map some).getD c.ui.port }
  let c := { c with ui.timeoutSeconds := f.uiTimeout.getD c.ui.timeoutSeconds }
  let c := { c with mcp.enabled := f.mcp || f.mcpStrict || c.mcp.enabled }
  let c := { c with mcp.strict := f.mcpStrict || c.mcp.strict }
  let c := { c with mcp.url := f.mcpUrl.getD c.mcp.url }
  let c := { c with check.timeoutSeconds := f.checkTimeout.getD c.check.timeoutSeconds }
  let c := { c with appRun.timeoutSeconds := f.appRunTimeout.getD c.appRun.timeoutSeconds }
  let c := { c with visual.timeoutSeconds := f.visualTimeout.getD c.visual.timeoutSeconds }
  let c := { c with smoke.timeoutSeconds := f.smokeTimeout.getD c.smoke.timeoutSeconds }
  let c := { c with selftest.require := f.requireSelftest || c.selftest.require }
  { c with selftest.require := !f.noRequireSelftest && c.selftest.require }

end PhaseFlags

namespace Config

/-- The first setting that cannot be run with, if any: a zero time limit of a
phase, in running order; a loop of no rounds; a zero port; a server query with
no address; a page check of no samples. -/
def problem? (c : Config) : Option String :=
  let timeouts := [("check", c.check.timeoutSeconds), ("app_run", c.appRun.timeoutSeconds),
    ("visual", c.visual.timeoutSeconds), ("smoke", c.smoke.timeoutSeconds),
    ("ui", c.ui.timeoutSeconds), ("mcp", c.mcp.timeoutSeconds)]
  let ports := [("smoke.port", c.smoke.port), ("ui.port", c.ui.port), ("watch.port", some c.watch.port)]
  match timeouts.find? (·.2 == 0) with
  | some (group, _) => some (group ++ ".timeout_seconds must be > 0")
  | none =>
    if c.guardLoop.maxIters == 0 then some "guard_loop.max_iters must be >= 1"
    else match ports.find? (·.2 == some 0) with
      | some (name, _) => some (name ++ " must be non-zero")
      | none =>
        if c.mcp.enabled && (trimBlanks c.mcp.url).isEmpty then some "mcp.url is required when mcp.enabled = true"
        else if c.ui.domSamples == 0 then some "ui.dom_samples must be >= 1"
        else none

/-- Whether the configuration can be run with. -/
def validate (c : Config) : Except RunError Unit :=
  match c.problem? with
  | some m => .error (.configInvalid m)
  | none => .ok ()

/-- How a phase is configured to run. -/
def phaseSettings (c : Config) : Phase → PhaseSettings
  | .check => ⟨c.check.enabled, c.check.strict, Duration.ofSecs c.check.timeoutSeconds⟩
  | .appRun => ⟨c.appRun.enabled, c.appRun.strict, Duration.ofSecs c.appRun.timeoutSeconds⟩
  | .visual => ⟨c.visual.enabled, c.visual.strict, Duration.ofSecs c.visual.timeoutSeconds⟩
  | .run => ⟨c.smoke.enabled, c.smoke.strict, Duration.ofSecs c.smoke.timeoutSeconds⟩
  | .ui => ⟨c.ui.enabled, c.ui.strict, Duration.ofSecs c.ui.timeoutSeconds⟩
  | .mcp => ⟨c.mcp.enabled, c.mcp.strict, Duration.ofSecs c.mcp.timeoutSeconds⟩

end Config

end NotebookGuard
