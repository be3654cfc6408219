import NotebookGuard.Duration

/-!
# Statuses and phases

A phase ends with one of four statuses, ordered by severity: `skipped` below
`pass` below `warn` below `fail`. The six phases run in a fixed order, each more
expensive than the one before. A strict phase treats a warning as a failure.
-/

namespace NotebookGuard

/-- How a phase ended. -/
inductive Status where
  | pass
  | warn
  | fail
  | skipped
  deriving DecidableEq, Repr

namespace Status

/-- Severity: `skipped` 0, `pass` 1, `warn` 2, `fail` 3. -/
def rank : Status → Nat
  | .skipped => 0
  | .pass => 1
  | .warn => 2
  | .fail => 3

/-- The more severe of two statuses; the first on a tie. -/
def worst (a b : Status) : Status := if b.rank > a.rank then b else a

/-- The name of a status. -/
def name : Status → String
  | .pass => "pass"
  | .warn => "warn"
  | .fail => "fail"
  | .skipped => "skipped"

/-- All statuses, with their names, in declared order. -/
def all : List Status := [.pass, .warn, .fail, .skipped]

/-- The status of a name. -/
def ofName? (s : String) : Option Status := all.find? (·.name == s)

/-- A finding: a failure under strict mode, a warning otherwise. -/
def finding (strict : Bool) : Status := if strict then .fail else .warn

/-- The status after strict promotion: a strict phase's warning is a failure. -/
def promote (s : Status) (strict : Bool) : Status :=
  match s with
  | .warn => if strict then .fail else .warn
  | other => other

end Status

/-- One of the six phases. -/
inductive Phase where
  | check
  | appRun
  | visual
  | run
  | ui
  | mcp
  deriving DecidableEq, Repr

namespace Phase

/-- The phases in the order they run. -/
def canonical : List Phase := [.check, .appRun, .visual, .run, .ui, .mcp]

/-- The key of a phase in a report. -/
def key : Phase → String
  | .check => "check"
  | .appRun => "app_run"
  | .visual => "visual_validation"
  | .run => "run"
  | .ui => "ui"
  | .mcp => "mcp"

/-- The phase of a key. -/
def ofKey? (s : String) : Option Phase := canonical.find? (·.key == s)

/-- The place of a phase in the running order. -/
def index : Phase → Nat
  | .check => 0
  | .appRun => 1
  | .visual => 2
  | .run => 3
  | .ui => 4
  | .mcp => 5

end Phase

/-- How one phase is configured to run. -/
structure PhaseSettings where
  enabled : Bool := true
  /-- Warnings become failures for this phase only. -/
  strict : Bool := false
  timeout : Duration := Duration.ofSecs 1

namespace PhaseSettings

/-- The status of a finding in this phase. -/
def finding (s : PhaseSettings) : Status := Status.finding s.strict

end PhaseSettings

end NotebookGuard
