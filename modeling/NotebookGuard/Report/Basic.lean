import NotebookGuard.Policy
import NotebookGuard.Failure
import NotebookGuard.Path

/-!
# The report of a run

A report holds one entry per phase, in every report, whether the phase ran or
not, and the verdict: `ok` exactly when no phase failed after strict promotion,
the self-test passed when it is required, and no error was found.
`Report.aggregate` folds a run's outcomes into a report.
-/

namespace NotebookGuard

/-- The version of the report's layout. -/
def schemaVersion : String := "1.1"

/-- What a notebook wrote about its own correctness. -/
structure SelfTest where
  ok : Bool
  errors : List String := []

/-- One phase as the report records it. -/
structure PhaseEntry where
  status : Status := .skipped
  strict : Bool := false
  messages : List String := ["phase not scheduled"]
  artifacts : List (String × String) := []
  metrics : List (String × Float) := []
  durationMs : Nat := 0
  details : Json := .null

/-- The report of a run. -/
structure Report where
  schemaVersion : String := NotebookGuard.schemaVersion
  ok : Bool
  error : Option String := none
  warnings : List String := []
  promoted : List String := []
  notebook : Option String := none
  notebookSha256 : Option String := none
  generatedAt : Option String := none
  durationMs : Nat := 0
  check : PhaseEntry := {}
  appRun : PhaseEntry := {}
  visual : PhaseEntry := {}
  run : PhaseEntry := {}
  ui : PhaseEntry := {}
  mcp : PhaseEntry := {}
  selftest : Option SelfTest := none

/-- Facts about the run copied into the report as they are. -/
structure RunMeta where
  notebook : Option String := none
  notebookSha256 : Option String := none
  generatedAt : Option String := none
  durationMs : Nat := 0

/-- What the run learned about the self-test artifact. -/
inductive SelfTestInput where
  | absent (expectedAt : String)
  | present (st : SelfTest)

namespace SelfTestInput

/-- The self-test, when present. -/
def toOption : SelfTestInput → Option SelfTest
  | .absent _ => none
  | .present st => some st

end SelfTestInput

namespace Report

/-- The entry of a phase. -/
def entry (r : Report) : Phase → PhaseEntry
  | .check => r.check
  | .appRun => r.appRun
  | .visual => r.visual
  | .run => r.run
  | .ui => r.ui
  | .mcp => r.mcp

/-- The report with the entry of a phase replaced. -/
def setEntry (r : Report) (p : Phase) (e : PhaseEntry) : Report :=
  match p with
  | .check => { r with check := e }
  | .appRun => { r with appRun := e }
  | .visual => { r with visual := e }
  | .run => { r with run := e }
  | .ui => { r with ui := e }
  | .mcp => { r with mcp := e }

/-- 0 for an ok report, 1 otherwise. -/
def exitCode (r : Report) : Nat := if r.ok then 0 else 1

/-- Why a report is not ok, one line per reason: the error, each failed phase in
running order with its messages, and the self-test's errors. -/
def failureSummary (r : Report) : String :=
  let err := match r.error with
    | some e => ["error: " ++ e]
    | none => []
  let phases := Phase.canonical.filterMap fun p =>
    let e := r.entry p
    if e.status = .fail then
      some (p.key ++ ": " ++ (if e.messages.isEmpty then "failed" else "; ".intercalate e.messages))
    else none
  let st := match r.selftest with
    | some st => if !st.ok && !st.errors.isEmpty then ["selftest: " ++ "; ".intercalate st.errors] else []
    | none => []
  "\n".intercalate (err ++ phases ++ st)

/-- The first phase that occurs twice among the outcomes. -/
def repeatedPhase? (outcomes : List PhaseOutcome) : Option Phase :=
  let rec go : List PhaseOutcome → List Phase → Option Phase
    | [], _ => none
    | o :: rest, seen => if seen.contains o.phase then some o.phase else go rest (o.phase :: seen)
  go outcomes []

/-- The largest unsigned 64-bit integer, where a duration in milliseconds is capped. -/
def msCap : Nat := Nat.pow 2 64 - 1

/-- What the self-test adds to a verdict, given the phases' warnings: the
report's error, whether the self-test passes, and the warnings, with the
self-test's errors added when it is optional and failed. -/
def selfTestVerdict (selftest : SelfTestInput) (requireSelftest : Bool) (warnings : List String) :
    Option String × Bool × List String :=
  match selftest, requireSelftest with
  | .absent at_, true => (some (RunError.artifactMissing at_).message, false, warnings)
  | .present st, true => (none, st.ok, warnings)
  | .present st, false =>
    (none, true, if st.ok then warnings else warnings ++ st.errors.map ("selftest: " ++ ·))
  | .absent _, false => (none, true, warnings)

/-- Folds a run's outcomes and its self-test into a report. A phase reported
twice is fatal. -/
def aggregate (outcomes : List PhaseOutcome) (selftest : SelfTestInput) (requireSelftest : Bool)
    (info : RunMeta) : Except RunError Report :=
  match repeatedPhase? outcomes with
  | some p => .error (.aggregationFatal ("phase " ++ p.key ++ " reported more than once"))
  | none =>
    let d := Decision.ofOutcomes outcomes
    let (error, selftestOk, warnings) := selfTestVerdict selftest requireSelftest d.warnings
    let base : Report :=
      { ok := d.phasesOk && selftestOk && error.isNone
        error, warnings, promoted := d.promoted
        notebook := info.notebook, notebookSha256 := info.notebookSha256
        generatedAt := info.generatedAt, durationMs := info.durationMs
        selftest := selftest.toOption }
    .ok <| (outcomes.zip d.statuses).foldl (fun r (o, (p, s)) =>
      r.setEntry p
        { status := s, strict := o.settings.strict, messages := o.result.messages
          artifacts := o.result.artifacts, metrics := o.result.metrics
          durationMs := min o.duration.millis msCap, details := o.result.details }) base

end Report

/-- Where the report of a notebook is written. -/
def reportPath (logsDir notebook : String) : String :=
  Path.join logsDir ("marimo_guard_" ++ (Path.stem? notebook).getD "notebook" ++ ".json")

/-- Where the report of one iteration of the loop is written. -/
def iterationReportPath (logsDir notebook : String) (n : Nat) : String :=
  Path.join logsDir ("marimo_guard_iter_" ++ (Path.stem? notebook).getD "notebook" ++ "_" ++ toString n ++ ".json")

/-- Where a notebook writes its self-test. -/
def selftestPath (logsDir notebook : String) : String :=
  Path.join logsDir ("marimo_selftest_" ++ (Path.stem? notebook).getD "notebook" ++ ".json")

/-- The key of a notebook's artifacts: its file stem, or `notebook`. -/
def notebookKey (notebook : String) : String := (Path.stem? notebook).getD "notebook"

end NotebookGuard
