import NotebookGuard.Probe.Context
import NotebookGuard.Policy

/-!
# Running the phases

Phases run one after another, each under its own timeout, each probe on a
thread of its own. A probe that fails, crashes or overruns its timeout gives a
failed result for its phase alone. Two failures stop the run: cancellation,
looked at before each phase and after a probe that failed or overran, and a
phase thread the system refuses, which is the crash of that phase.

Once the lint phase fails after strict promotion, every later phase is skipped.
A disabled phase is skipped too. The registry is emptied before the first
phase, so the charts of an earlier run do not leak into this one.

A phase's watchdog raises the phase's flag when its time is up, so a probe
sleeping on the flag wakes then; a probe that ends at or after that moment
overran.
-/

namespace NotebookGuard

/-- A phase scheduled for a run: which phase, its probe and its settings. -/
structure ScheduledPhase where
  phase : Phase
  probe : Probe
  settings : PhaseSettings

/-- The message of a phase that ran out of time. -/
def timeoutMessage (timeout : Duration) : String := "timeout after " ++ timeout.text

/-- The result of a phase from how its probe ended: a failure that rests on a
probe timeout reads as the phase's timeout, any other failure gives its
message, and a crash gives the message it left. -/
def endingResult (timeout : Duration) : Ending → PhaseResult
  | .returned (.ok r) => r
  | .returned (.error e) =>
    match e.runError? with
    | some (.probeTimeout _ _) => PhaseResult.failedWith (timeoutMessage timeout)
    | _ => PhaseResult.failedWith e.message
  | .crashed m => PhaseResult.failedWith ("probe panicked: " ++ m.getD "unknown panic")

namespace World

/-- The world as a phase starts: the phase's flag down, and its watchdog set to
raise the flag at the deadline. -/
def startPhase (w : World) (deadline : Nat) : World :=
  { w with phaseCancelled := false, phaseExpiry := some deadline }

/-- The world as a phase ends: the phase's flag down, and its watchdog gone. -/
def endPhase (w : World) : World := { w with phaseCancelled := false, phaseExpiry := none }

end World

/-- What the probe of a phase is given, when the phase's time is up at
`deadline`. -/
def ScheduledPhase.context (p : ScheduledPhase) (notebook root : String) (deadline : Nat) :
    PhaseContext :=
  { phase := p.phase, notebook, projectRoot := root, settings := p.settings, deadline }

/-- The crash of a phase whose thread the system refused with the error `e`. -/
def Failure.threadRefused (phase : Phase) (e : String) : Failure :=
  Failure.ofRun (.probeCrash phase.key ("spawning phase thread: " ++ e))

/-- Asks the system for a phase's thread; a refusal is a crash of the phase. -/
def spawnPhaseThread (phase : Phase) : Act Unit := do
  if let some e := (← get).threadRefusal then throw (Failure.threadRefused phase e)

/-- Runs one phase's probe under its timeout. -/
def runPhase (p : ScheduledPhase) (notebook root : String) : Act PhaseResult := do
  let start ← now
  let deadline := start + p.settings.timeout.toNanos
  spawnPhaseThread p.phase
  modify (·.startPhase deadline)
  let ending ← (p.probe (p.context notebook root deadline) : StateM World Ending)
  let finished ← now
  modify World.endPhase
  let overran := decide (deadline ≤ finished)
  if (ending.failed || overran) && (← runCancelled) then Act.failWith .cancelled
  if overran then return PhaseResult.failedWith (timeoutMessage p.settings.timeout)
  return endingResult p.settings.timeout ending

/-- The result of a phase: a skip after a failed lint or when the phase is
disabled, else what its probe gives. -/
def phaseResult (p : ScheduledPhase) (notebook root : String) (lintFailed : Bool) :
    Act PhaseResult :=
  if lintFailed then pure (PhaseResult.skippedWith "skipped: static check failed")
  else if !p.settings.enabled then pure (PhaseResult.skippedWith "disabled")
  else runPhase p notebook root

/-- Runs the phases left, given whether the lint has failed, with the outcomes
so far, latest first. -/
def runPhasesFrom (notebook root : String) :
    List ScheduledPhase → Bool → List PhaseOutcome → Act (List PhaseOutcome)
  | [], _, acc => return acc.reverse
  | p :: rest, lintFailed, acc => do
    if ← runCancelled then Act.failWith .cancelled
    let started ← now
    let result ← phaseResult p notebook root lintFailed
    let o : PhaseOutcome :=
      { phase := p.phase, settings := p.settings, result,
        duration := Duration.ofNanos ((← now) - started) }
    runPhasesFrom notebook root rest (lintFailed || (p.phase == .check && o.effective == .fail)) (o :: acc)

/-- Runs the phases in order, starting from an empty registry. -/
def runPhases (phases : List ScheduledPhase) (notebook root : String) : Act (List PhaseOutcome) := do
  updateRegistry Registry.clear
  runPhasesFrom notebook root phases false []

end NotebookGuard
