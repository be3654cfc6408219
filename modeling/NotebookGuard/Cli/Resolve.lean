import NotebookGuard.Cli.Args
import NotebookGuard.Project

/-!
# The configuration a command line runs with

Settings are layered: the defaults, then the configuration file (the one
`--config` names, else the project's own), then the guard's environment
variables, then the phase switches, then the subcommand's own options. The
result must pass `Config.validate`; a file that cannot be read or parsed is an
invalid configuration, its message naming the step and the file.
-/

namespace NotebookGuard

namespace GuardArgs

/-- The subcommand's own options applied over a configuration; each one given
replaces its setting. -/
def applyCommand (a : GuardArgs) (c : Config) : Config :=
  match a.command with
  | .check json _ _ => { c with output.json := json || c.output.json }
  | .loop maxIters sleepSeconds recoveryCmd =>
    { c with guardLoop.maxIters := maxIters.getD c.guardLoop.maxIters,
             guardLoop.sleepSeconds := sleepSeconds.getD c.guardLoop.sleepSeconds,
             guardLoop.recoveryCmd := recoveryCmd.getD c.guardLoop.recoveryCmd }
  | .watch port logFile _ =>
    { c with watch.port := port.getD c.watch.port, watch.logFile := logFile.getD c.watch.logFile }

/-- The configuration the command line runs with, files read from `w` with
relative paths taken from `cwd`, and the environment looked up by `lookup`. -/
def resolveConfig (a : GuardArgs) (w : Workspace) (cwd : String) (lookup : String → Option String) :
    Except RunError Config := do
  let path := a.config.orElse fun _ => w.configFile? cwd (w.projectRoot cwd a.notebook)
  let c ← match path with
    | some p => match w.loadConfig cwd p with
      | .ok c => pure c
      | .error m => throw (.configInvalid m)
    | none => pure Config.default
  let c := a.applyCommand (a.phases.apply (c.applyEnv lookup))
  c.validate
  return c

end GuardArgs

end NotebookGuard
