import NotebookGuard.World
import NotebookGuard.Report.Files

/-!
# The guard loop

The loop runs a validation again and again until a run passes or the rounds
run out. Between a failed round and the next it may run a recovery step, told
the round and where that round's report was written, and then it pauses.

Cancelling the run stops the loop, as an outside stop, wherever it is seen:
before a round, as the failure of a round or of a recovery, or during the
pause. Any other failure of a round ends the loop with that failure; a failed
recovery is recorded and the loop goes on.
-/

namespace NotebookGuard

/-- Where the loop stands. -/
inductive LoopPhase where
  | idle
  | running
  | retrying
  | succeeded
  | exhausted
  deriving DecidableEq, Repr

namespace LoopPhase

/-- The name of a loop phase. -/
def name : LoopPhase → String
  | .idle => "idle"
  | .running => "running"
  | .retrying => "retrying"
  | .succeeded => "succeeded"
  | .exhausted => "exhausted"

end LoopPhase

/-- Why the loop stopped. -/
inductive StopReason where
  | success
  | maxIters
  | external
  deriving DecidableEq, Repr

namespace StopReason

/-- The name of a reason. -/
def name : StopReason → String
  | .success => "success"
  | .maxIters => "max_iters"
  | .external => "external"

end StopReason

/-- What one recovery step gave: its exit code, or why it failed. -/
structure RecoveryRecord where
  iteration : Nat
  exitCode : Option Int := none
  error : Option String := none

/-- The state of the loop. -/
structure LoopState where
  /-- The round that ran last, from zero. -/
  iteration : Nat := 0
  phase : LoopPhase := .idle
  lastReport : Option Report := none
  stoppedReason : Option StopReason := none
  recoveries : List RecoveryRecord := []

namespace LoopState

/-- The state stopped in a phase for a reason. -/
def stop (s : LoopState) (phase : LoopPhase) (reason : StopReason) : LoopState :=
  { s with phase, stoppedReason := some reason }

/-- Whether the loop ended with a passing round. -/
def succeeded (s : LoopState) : Bool := s.stoppedReason == some .success

end LoopState

/-- A recovery step: given the round and the path of its report, if one was
written, it gives an exit code when it has one. -/
abbrev RecoveryStep := Nat → Option String → Act (Option Int)

/-- How the loop is set up. -/
structure GuardLoop where
  maxIters : Nat
  /-- The pause between rounds, in nanoseconds. -/
  pause : Nat := 0
  recovery : Option RecoveryStep := none
  /-- The log directory and notebook under which each round's report is
  written, if anywhere. -/
  iterationReports : Option (String × String) := none

namespace GuardLoop

/-- Writes a round's report when the loop keeps them, returning its path. -/
def keepReport (g : GuardLoop) (round : Nat) (report : Report) : Act (Option String) :=
  match g.iterationReports with
  | some (logsDir, notebook) => do
    let path := iterationReportPath logsDir notebook (round + 1)
    let w ← get
    set (w.withFiles (← Act.ofExcept (w.files.writeReport path report)))
    return some path
  | none => return none

/-- Runs the recovery step after a failed round: the state with the step's
record, or none when the run was cancelled during it. -/
def recoverAfter (g : GuardLoop) (round : Nat) (path : Option String) (s : LoopState) :
    Act (Option LoopState) :=
  match g.recovery with
  | none => return some s
  | some step => do
    match ← Act.attempt (step round path) with
    | .ok code => return some { s with recoveries := s.recoveries ++ [{ iteration := round, exitCode := code }] }
    | .error e =>
      if e.isCancelled then return none
      return some { s with recoveries := s.recoveries ++ [{ iteration := round, error := some e.message }] }

/-- The rounds from `round` on, `left` of them still allowed. -/
def rounds (g : GuardLoop) (runOnce : Nat → Act Report) (round : Nat) (s : LoopState) :
    Nat → Act LoopState
  | 0 => return s.stop .exhausted .maxIters
  | left + 1 => do
    if ← runCancelled then return s.stop .idle .external
    let s := { s with iteration := round, phase := .running }
    match ← Act.attempt (runOnce round) with
    | .error e => if e.isCancelled then return s.stop .running .external else throw e
    | .ok report =>
      let path ← g.keepReport round report
      let s := { s with lastReport := some report }
      if report.ok then return s.stop .succeeded .success
      if round + 1 ≥ g.maxIters then return s.stop .exhausted .maxIters
      let s := { s with phase := .retrying }
      match ← g.recoverAfter round path s with
      | none => return s.stop .retrying .external
      | some s =>
        if !(← sleepRun g.pause) then return s.stop .retrying .external
        g.rounds runOnce (round + 1) s left

/-- Runs rounds until one passes or `maxIters` of them have run. -/
def run (g : GuardLoop) (runOnce : Nat → Act Report) : Act LoopState := do
  if g.maxIters == 0 then Act.failWith (.configInvalid "max_iters must be at least 1")
  g.rounds runOnce 0 {} g.maxIters

end GuardLoop

end NotebookGuard
