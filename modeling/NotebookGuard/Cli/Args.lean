import NotebookGuard.Cli.Syntax
import NotebookGuard.Config.Resolve

/-!
# The guard's command line

`marimo-guard [--config PATH] [--log-level LEVEL] <check|loop|watch> NOTEBOOK
[options]`. Every subcommand takes the phase switches; `check` may open the
editor after a passing run, `loop` sets the rounds, the pause and the
recovery command, and `watch` sets the preview port and log file. The global
options may stand on either level; the subcommand's wins.
-/

namespace NotebookGuard

/-- What the command line asks for. -/
inductive GuardCommand where
  | check (json launch : Bool) (port : Option Nat)
  | loop (maxIters sleepSeconds : Option Nat) (recoveryCmd : Option String)
  | watch (port : Option Nat) (logFile : Option String) (noValidate : Bool)
  deriving DecidableEq

namespace GuardCommand

/-- The name of a command. -/
def name : GuardCommand → String
  | .check .. => "check"
  | .loop .. => "loop"
  | .watch .. => "watch"

end GuardCommand

/-- A read command line. -/
structure GuardArgs where
  command : GuardCommand
  notebook : String
  phases : PhaseFlags
  config : Option String := none
  logLevel : Option String := none
  deriving DecidableEq

namespace GuardArgs

/-- The options every level takes. -/
def globalOptions : List OptionSpec :=
  [{ long := "config", value := some ("CONFIG", .path),
     help := "Path to config TOML. If omitted, looks for .marimo-guard.toml or marimo-guard.toml in " ++
       "the notebook's project root" },
   { long := "log-level", value := some ("LOG_LEVEL", .text),
     help := "Override log level (trace/debug/info/warn/error)" }]

/-- The phase switches and limits. -/
def phaseOptions : List OptionSpec :=
  [{ long := "fail-on-warn", help := "Treat static-check warnings as failures" }, { long := "visual-strict" }, { long := "smoke-strict" },
   { long := "no-visual" }, { long := "no-smoke" },
   { long := "smoke-seconds", value := some ("SMOKE_SECONDS", .unsigned 64) },
   { long := "ui", help := "Enable live UI verification" }, { long := "ui-strict" },
   { long := "ui-port", value := some ("UI_PORT", .unsigned 16) },
   { long := "ui-timeout", value := some ("UI_TIMEOUT", .unsigned 64) },
   { long := "mcp", help := "Query the running notebook server for errors" }, { long := "mcp-strict" },
   { long := "mcp-url", value := some ("MCP_URL", .text) },
   { long := "check-timeout", value := some ("CHECK_TIMEOUT", .unsigned 64) },
   { long := "app-run-timeout", value := some ("APP_RUN_TIMEOUT", .unsigned 64) },
   { long := "visual-timeout", value := some ("VISUAL_TIMEOUT", .unsigned 64) },
   { long := "smoke-timeout", value := some ("SMOKE_TIMEOUT", .unsigned 64) },
   { long := "require-selftest" }, { long := "no-require-selftest" }]

/-- The options of each subcommand of its own. -/
def commandOptions : String → List OptionSpec
  | "check" => [{ long := "json", help := "Print the full report as JSON" },
      { long := "launch", help := "Open the notebook in the editor when the report is ok" },
      { long := "port", value := some ("PORT", .unsigned 16), help := "Editor port for --launch" }]
  | "loop" => [{ long := "max-iters", value := some ("MAX_ITERS", .unsigned 32) },
      { long := "sleep-seconds", value := some ("SLEEP_SECONDS", .unsigned 64) },
      { long := "recovery-cmd", value := some ("RECOVERY_CMD", .text),
        help := "Shell command run after a failing iteration; " ++ "\x60" ++ "\x7bnb\x7d" ++ "\x60" ++ " is the notebook" }]
  | "watch" => [{ long := "port", value := some ("PORT", .unsigned 16) },
      { long := "log-file", value := some ("LOG_FILE", .path), help := "Append preview output to this file" },
      { long := "no-validate", help := "Restart the preview on change without running the pipeline" }]
  | _ => []

/-- The subcommands and the first lines of their help. -/
def subcommands : List (String × String) :=
  [("check", "Run the validation pipeline once"),
   ("loop", "Re-run the pipeline until it passes or the iterations run out"),
   ("watch", "Keep an editor preview up and re-validate on every change"),
   ("help", "Print this message or the help of the given subcommand(s)")]

/-- The program's own level. -/
def rootLevel : LevelSpec :=
  { name := "marimo-guard", about := "Pre-launch validation for marimo notebooks (check, loop, watch)",
    options := globalOptions, subcommands,
    subcommandOptions := ["check", "loop", "watch"].map fun n =>
      (n, (phaseOptions ++ commandOptions n ++ globalOptions).map (·.long) ++ ["help"]) }

/-- A subcommand's level. -/
def commandLevel (name about : String) : LevelSpec :=
  { name := "marimo-guard " ++ name, about,
    options := phaseOptions ++ commandOptions name ++ globalOptions,
    positionals := [("NOTEBOOK", .path)] }

/-- A given count, read again; it was checked when given. -/
def count? (g : Given) (long : String) : Option Nat :=
  (g.get? long).bind fun v => (readInteger false v).toOption.map Int.toNat

/-- The phase switches given at a level. -/
def phaseFlags (g : Given) : PhaseFlags :=
  { failOnWarn := g.flag "fail-on-warn", visualStrict := g.flag "visual-strict",
    smokeStrict := g.flag "smoke-strict", noVisual := g.flag "no-visual", noSmoke := g.flag "no-smoke",
    smokeSeconds := count? g "smoke-seconds", ui := g.flag "ui", uiStrict := g.flag "ui-strict",
    uiPort := count? g "ui-port", uiTimeout := count? g "ui-timeout", mcp := g.flag "mcp",
    mcpStrict := g.flag "mcp-strict", mcpUrl := g.get? "mcp-url",
    checkTimeout := count? g "check-timeout", appRunTimeout := count? g "app-run-timeout",
    visualTimeout := count? g "visual-timeout", smokeTimeout := count? g "smoke-timeout",
    requireSelftest := g.flag "require-selftest", noRequireSelftest := g.flag "no-require-selftest" }

/-- Reads the words after the program's name. -/
def parse (words : List String) : Except UsageError GuardArgs := do
  match ← rootLevel.read words with
  | .done _ => .error (UsageError.of .missingSubcommand "'marimo-guard' requires a subcommand but one was not provided")
  | .sub top name rest =>
    let about := ((subcommands.find? (·.1 == name)).map (·.2)).getD ""
    let level := (commandLevel name about).read rest |>.mapError fun e => { e with level := some name }
    match ← level with
    | .sub .. => .error (UsageError.unexpected name)
    | .done g =>
      let command := match name with
        | "check" => GuardCommand.check (g.flag "json") (g.flag "launch") (count? g "port")
        | "loop" => .loop (count? g "max-iters") (count? g "sleep-seconds") (g.get? "recovery-cmd")
        | _ => .watch (count? g "port") (g.get? "log-file") (g.flag "no-validate")
      return { command, notebook := g.positionals.headD "", phases := phaseFlags g,
               config := (g.get? "config").orElse fun _ => top.get? "config",
               logLevel := (g.get? "log-level").orElse fun _ => top.get? "log-level" }

end GuardArgs

end NotebookGuard
