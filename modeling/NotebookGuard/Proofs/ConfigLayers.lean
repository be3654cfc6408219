import NotebookGuard.Cli.Resolve
import Mathlib

/-!
# The layers of a configuration

A command line's settings come from four layers: defaults, the configuration
file, the guard's environment variables and the command's flags.
`resolveConfig_layers` tells the result setting by setting (`layered`): a
given flag wins, then a readable variable, then the file.
-/

namespace NotebookGuard.Proofs

/-- The settings the guard's environment gives, each read by its own rule; a
variable that is unset or cannot be read gives none. -/
structure EnvLayer where
  failOnWarn : Option Bool := none
  requireArtifact : Option Bool := none
  useMcp : Option Bool := none
  mcpUrl : Option String := none
  mcpStrict : Option Bool := none
  mcpWaitSeconds : Option Nat := none
  visualStrict : Option Bool := none
  uiStrict : Option Bool := none
  uiPort : Option Nat := none
  uiTimeout : Option Nat := none

/-- The environment's settings: switches read by `parseFlag`, counts by
`parseCount`, the port only when it fits 16 bits, and the server address
trimmed, only when something is left. -/
def EnvLayer.read (lookup : String → Option String) : EnvLayer where
  failOnWarn := (lookup "MARIMO_GUARD_FAIL_ON_WARN").bind parseFlag
  requireArtifact := (lookup "MARIMO_GUARD_REQUIRE_ARTIFACT").bind parseFlag
  useMcp := (lookup "MARIMO_GUARD_USE_MCP").bind parseFlag
  mcpUrl := ((lookup "MARIMO_GUARD_MCP_URL").filter fun v => !(trimBlanks v).isEmpty).map trimBlanks
  mcpStrict := (lookup "MARIMO_GUARD_MCP_STRICT").bind parseFlag
  mcpWaitSeconds := (lookup "MARIMO_GUARD_MCP_WAIT_SECONDS").bind parseCount
  visualStrict := (lookup "MARIMO_GUARD_VISUAL_STRICT").bind parseFlag
  uiStrict := (lookup "MARIMO_GUARD_UI_STRICT").bind parseFlag
  uiPort := ((lookup "MARIMO_GUARD_UI_PORT").bind parseCount).filter (· < 65536)
  uiTimeout := (lookup "MARIMO_GUARD_UI_TIMEOUT").bind parseCount

/-- The settings of `env` written over `c`, as `Config.applyEnv` writes them
one after the other. -/
def EnvLayer.over (env : EnvLayer) (c : Config) : Config :=
  { c with
    check.strict := env.failOnWarn.getD c.check.strict
    selftest.require := env.requireArtifact.getD c.selftest.require
    mcp.enabled := env.useMcp.getD c.mcp.enabled
    mcp.url := env.mcpUrl.getD c.mcp.url
    mcp.strict := env.mcpStrict.getD c.mcp.strict
    mcp.waitSeconds := env.mcpWaitSeconds.getD c.mcp.waitSeconds
    visual.strict := env.visualStrict.getD c.visual.strict
    ui.enabled := c.ui.enabled || env.uiStrict.getD false || env.uiPort.isSome
    ui.strict := env.uiStrict.getD c.ui.strict
    ui.port := (env.uiPort.map some).getD c.ui.port
    ui.timeoutSeconds := env.uiTimeout.getD c.ui.timeoutSeconds }

theorem applyEnv_eq_over (lookup : String → Option String) (c : Config) :
    c.applyEnv lookup = (EnvLayer.read lookup).over c := rfl

@[simp] theorem getD_getD_self {α : Type} (o : Option α) (x : α) :
    o.getD (o.getD x) = o.getD x := by
  cases o <;> rfl

/-- A value the environment gives is written over the one it wrote before, and
the coupled switch of the page check is already on. -/
theorem EnvLayer.over_over (env : EnvLayer) (c : Config) : env.over (env.over c) = env.over c := by
  simp [EnvLayer.over, Bool.or_assoc, Bool.or_left_comm]

theorem EnvLayer.read_none_over (c : Config) : (EnvLayer.read fun _ => none).over c = c := by
  simp [EnvLayer.over, EnvLayer.read]

/-- The configuration below the environment: the file `--config` names, else
the project's own file, read; the defaults when there is none. -/
def fileLayer (a : GuardArgs) (w : Workspace) (cwd : String) : Except String Config :=
  match a.config.orElse fun _ => w.configFile? cwd (w.projectRoot cwd a.notebook) with
  | some p => w.loadConfig cwd p
  | none => .ok Config.default

/-- A configuration settled setting by setting over `base`: the value a flag
or an option of the command gives, else the value the environment gives, else
the one of `base`. -/
def layered (base : Config) (env : EnvLayer) (a : GuardArgs) : Config :=
  let f := a.phases
  let c := { base with
    check.strict := f.failOnWarn || env.failOnWarn.getD base.check.strict
    check.timeoutSeconds := f.checkTimeout.getD base.check.timeoutSeconds
    appRun.timeoutSeconds := f.appRunTimeout.getD base.appRun.timeoutSeconds
    visual.enabled := !f.noVisual && base.visual.enabled
    visual.strict := f.visualStrict || env.visualStrict.getD base.visual.strict
    visual.timeoutSeconds := f.visualTimeout.getD base.visual.timeoutSeconds
    smoke.enabled := !f.noSmoke && base.smoke.enabled
    smoke.strict := f.smokeStrict || base.smoke.strict
    smoke.timeoutSeconds := f.smokeTimeout.getD base.smoke.timeoutSeconds
    smoke.seconds := f.smokeSeconds.getD base.smoke.seconds
    -- the page check: its flags, a strict setting or a port of the environment
    ui.enabled := f.ui || f.uiStrict || f.uiPort.isSome ||
      (base.ui.enabled || env.uiStrict.getD false || env.uiPort.isSome)
    ui.strict := f.uiStrict || env.uiStrict.getD base.ui.strict
    ui.timeoutSeconds := f.uiTimeout.getD (env.uiTimeout.getD base.ui.timeoutSeconds)
    ui.port := (f.uiPort.map some).getD ((env.uiPort.map some).getD base.ui.port)
    mcp.enabled := f.mcp || f.mcpStrict || env.useMcp.getD base.mcp.enabled
    mcp.strict := f.mcpStrict || env.mcpStrict.getD base.mcp.strict
    mcp.url := f.mcpUrl.getD (env.mcpUrl.getD base.mcp.url)
    mcp.waitSeconds := env.mcpWaitSeconds.getD base.mcp.waitSeconds
    selftest.require := !f.noRequireSelftest &&
      (f.requireSelftest || env.requireArtifact.getD base.selftest.require) }
  match a.command with
  | .check json _ _ => { c with output.json := json || c.output.json }
  | .loop maxIters sleepSeconds recoveryCmd =>
    { c with guardLoop.maxIters := maxIters.getD c.guardLoop.maxIters,
             guardLoop.sleepSeconds := sleepSeconds.getD c.guardLoop.sleepSeconds,
             guardLoop.recoveryCmd := recoveryCmd.getD c.guardLoop.recoveryCmd }
  | .watch port logFile _ =>
    { c with watch.port := port.getD c.watch.port, watch.logFile := logFile.getD c.watch.logFile }

/-- The three layers applied one over the other give `layered`. -/
theorem applyCommand_apply_applyEnv (a : GuardArgs) (lookup : String → Option String)
    (c : Config) :
    a.applyCommand (a.phases.apply (c.applyEnv lookup)) = layered c (EnvLayer.read lookup) a := by
  rcases a with ⟨command, notebook, f, config, logLevel⟩
  cases command <;> rfl

/-- A flag beats the environment, which beats the file: a page-check timeout of
11 in the file, 25 in the environment and 40 on the command line runs with 40,
and a strict page check asked for by the environment switches the check on. -/
example :
    let c := layered { Config.default with ui.timeoutSeconds := 11 }
      { uiStrict := some true, uiTimeout := some 25 }
      ⟨.check false false none, "demo.py", { uiTimeout := some 40 }, none, none⟩
    c.ui.strict = true ∧ c.ui.enabled = true ∧ c.ui.timeoutSeconds = 40 := by
  decide

section Resolve

variable {a : GuardArgs} {w : Workspace} {cwd : String} {lookup : String → Option String}

/-- A file that cannot be read stops the command line. -/
theorem resolveConfig_of_fileLayer_error {m : String} (h : fileLayer a w cwd = .error m) :
    a.resolveConfig w cwd lookup = .error (.configInvalid m) := by
  unfold fileLayer at h
  unfold GuardArgs.resolveConfig
  generalize a.config.orElse _ = path at h ⊢
  cases path with
  | none => cases h
  | some p => simp only at h; simp only [h]; rfl

/-- Over a file that can be read, the command line validates the layered
configuration and settles on it. -/
theorem resolveConfig_of_fileLayer_ok {base : Config} (h : fileLayer a w cwd = .ok base) :
    a.resolveConfig w cwd lookup = (do
      (layered base (EnvLayer.read lookup) a).validate
      pure (layered base (EnvLayer.read lookup) a)) := by
  unfold fileLayer at h
  unfold GuardArgs.resolveConfig
  generalize a.config.orElse _ = path at h ⊢
  cases path with
  | none => cases h; simp only [applyCommand_apply_applyEnv]; rfl
  | some p => simp only at h; simp only [h, applyCommand_apply_applyEnv]; rfl

/-- Validating a configuration and settling on it fails with its first problem. -/
theorem validate_then_pure (c : Config) :
    (do c.validate; pure c : Except RunError Config) =
      match c.problem? with
      | some m => .error (.configInvalid m)
      | none => .ok c := by
  unfold Config.validate
  cases c.problem? <;> rfl

/-- The command line settles on the layered configuration exactly when the
file can be read and the layered configuration has no problem, and is
otherwise invalid with the first complaint; the environment layer is
idempotent and an empty environment changes nothing. -/
theorem resolveConfig_layers (a : GuardArgs) (w : Workspace) (cwd : String)
    (lookup : String → Option String) :
    (∀ r : Config, a.resolveConfig w cwd lookup = .ok r ↔
      ∃ base, fileLayer a w cwd = .ok base ∧ layered base (EnvLayer.read lookup) a = r ∧
        r.problem? = none) ∧
    (∀ e : RunError, a.resolveConfig w cwd lookup = .error e ↔
      (∃ m, fileLayer a w cwd = .error m ∧ e = .configInvalid m) ∨
      ∃ base m, fileLayer a w cwd = .ok base ∧
        (layered base (EnvLayer.read lookup) a).problem? = some m ∧ e = .configInvalid m) ∧
    (∀ c : Config, (c.applyEnv lookup).applyEnv lookup = c.applyEnv lookup) ∧
    (∀ c : Config, c.applyEnv (fun _ => none) = c) := by
  refine ⟨fun r => ?_, fun e => ?_, fun c => ?_, fun c => ?_⟩
  · cases hf : fileLayer a w cwd with
    | error m => simp [resolveConfig_of_fileLayer_error hf]
    | ok base =>
      rw [resolveConfig_of_fileLayer_ok hf, validate_then_pure]
      cases hp : (layered base (EnvLayer.read lookup) a).problem? with
      | none => simp; rintro rfl; exact hp
      | some m => simp; rintro rfl; simp [hp]
  · cases hf : fileLayer a w cwd with
    | error m => simp [resolveConfig_of_fileLayer_error hf, eq_comm]
    | ok base =>
      rw [resolveConfig_of_fileLayer_ok hf, validate_then_pure]
      cases hp : (layered base (EnvLayer.read lookup) a).problem? <;> simp [eq_comm, hp]
  · rw [applyEnv_eq_over, applyEnv_eq_over, EnvLayer.over_over]
  · rw [applyEnv_eq_over, EnvLayer.read_none_over]

end Resolve

end NotebookGuard.Proofs
