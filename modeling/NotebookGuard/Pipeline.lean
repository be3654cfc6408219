import NotebookGuard.Config.Resolve
import NotebookGuard.Orchestrator
import NotebookGuard.Probe.Check
import NotebookGuard.Probe.Execute
import NotebookGuard.Probe.Visual
import NotebookGuard.Probe.Smoke
import NotebookGuard.Probe.Ui
import NotebookGuard.Probe.Session
import NotebookGuard.Report.Files
import NotebookGuard.Sha256
import NotebookGuard.Project
import NotebookGuard.Fingerprint

/-!
# One validation run

A run checks one notebook from start to end: it clears the previous run's
self-test artifact, runs the six phases with the probes and settings the
configuration gives, reads the artifact the notebook's self-test left, and
sums all of it up in a report, stamped with the time it was made and how long
the run took, which it writes under the project's log directory.

The project is the nearest directory, from the notebook up, holding `.git`
or `pyproject.toml`; without one it is the notebook's own directory. A
self-test artifact that cannot be read counts as a failed self-test naming
why.
-/

namespace NotebookGuard

namespace Config

/-- The page check's options. -/
def uiOptions (c : Config) : UiOptions :=
  { port := c.ui.port, errorAllowlist := c.ui.errorAllowlist, domSamples := c.ui.domSamples,
    sampleIntervalMs := c.ui.sampleIntervalMs, selectors := c.ui.selectors.byLibrary,
    logsDir := c.paths.logsDir }

/-- The probe that checks a phase. -/
def probeFor (c : Config) : Phase → Probe
  | .check => Probe.ofAct checkProbe
  | .appRun => Probe.ofAct executeProbe
  | .visual => Probe.ofAct visualProbe
  | .run => Probe.ofAct (smokeProbe (c.smoke.seconds * 1000 * msNanos) c.smoke.port)
  | .ui => Probe.ofAct (uiProbe c.uiOptions)
  | .mcp => Probe.ofAct (sessionProbe (c.mcp.waitSeconds * 1000 * msNanos))

/-- The six phases in running order, each with its probe and settings. -/
def schedule (c : Config) : List ScheduledPhase :=
  Phase.canonical.map fun p => { phase := p, probe := c.probeFor p, settings := c.phaseSettings p }

end Config

/-- The project a notebook belongs to, with relative paths taken from the
world's working directory. -/
def projectRootOf (w : World) (notebook : String) : String := w.files.projectRoot w.cwd notebook

/-- The log directory of a notebook's project. -/
def logsDirOf (c : Config) (w : World) (notebook : String) : String :=
  Path.join (projectRootOf w notebook) c.paths.logsDir

/-- What the run learned of the self-test artifact at `path`. -/
def selfTestAt (files : Workspace) (path : String) : SelfTestInput :=
  match files.readSelfTest path with
  | .ok (some st) => .present st
  | .ok none => .absent path
  | .error f => .present { ok := false, errors := [f.message] }

/-- Removes the stale self-test artifact at `path`, if there is one. -/
def clearSelfTestAt (path : String) : Act Unit := do
  let w ← get
  set (w.withFiles (← Act.ofExcept (w.files.clearSelfTest path)))

/-- Writes a report at `path`, creating its directory. -/
def writeReportAt (path : String) (report : Report) : Act Unit := do
  let w ← get
  set (w.withFiles (← Act.ofExcept (w.files.writeReport path report)))

/-- The report on a run's outcomes, from the files as they are once the phases
are over: the self-test artifact at `stPath`, and the notebook at `nbPath`,
whose hash the report carries, with the time it is made and the milliseconds
since the run `started`. -/
def reportOn (c : Config) (notebook nbPath stPath : String) (started : Nat)
    (outcomes : List PhaseOutcome) : Act Report := do
  let files ← inspectFiles id
  let sha := match files.read nbPath with
    | .ok bytes => some (sha256Hex bytes)
    | .error _ => none
  let t ← now
  let info : RunMeta :=
    { notebook := some notebook, notebookSha256 := sha, generatedAt := some (timestampText t),
      durationMs := min ((t - started) / msNanos) Report.msCap }
  match Report.aggregate outcomes (selfTestAt files stPath) c.selftest.require info with
  | .ok r => pure r
  | .error e => Act.failWith e

/-- Runs the phases and reports on them, writing the report at `reportAt` when
the configuration asks for it. -/
def phasesAndReport (c : Config) (notebook root nbPath stPath reportAt : String) (started : Nat) :
    Act Report := do
  let outcomes ← runPhases c.schedule notebook root
  let report ← reportOn c notebook nbPath stPath started outcomes
  if c.output.writeReport then writeReportAt reportAt report
  return report

/-- Runs every phase on a notebook and writes the report, returning it. -/
def validationRun (c : Config) (notebook : String) : Act Report := do
  let here := Path.join (← get).cwd
  if !(← inspectFiles (·.isFile (here notebook))) then
    Act.failWith (.configInvalid ("notebook not found: " ++ notebook))
  let started ← now
  let root := projectRootOf (← get) notebook
  let logsDir := Path.join root c.paths.logsDir
  let stPath := here (selftestPath logsDir notebook)
  if c.selftest.clearStale then clearSelfTestAt stPath
  phasesAndReport c notebook root (here notebook) stPath (here (reportPath logsDir notebook)) started

end NotebookGuard
