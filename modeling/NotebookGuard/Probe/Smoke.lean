import NotebookGuard.Probe.Context
import NotebookGuard.LogScan
import NotebookGuard.Text.Blank

/-!
# A short headless boot

The notebook is served headless for a short window: the configured one, cut
so that the phase keeps time for teardown, and never under a tenth of a
second. The preview is watched for an early exit; a cancelled phase stops it
and gives up. Afterwards the preview is stopped and its logs are scanned for
error patterns. An early exit fails the phase; patterns in the logs are a
finding.
-/

namespace NotebookGuard

/-- Time kept at the end of a phase for teardown, in nanoseconds. -/
def teardownReserve : Nat := 3000 * msNanos

/-- How often a preview is looked at, in nanoseconds. -/
def previewPoll : Nat := 100 * msNanos

/-- How much of a preview's logs a result keeps, in characters. -/
def logExcerptChars : Nat := 1000

/-- The boot window: the configured one, cut to leave the teardown reserve,
and at least one poll. -/
def bootWindow (configured remaining : Nat) : Nat :=
  max (min configured (remaining - teardownReserve)) previewPoll

/-- Watches a preview until `deadline`: its exit status if it exits first.
Cancelling the phase stops the preview and fails with `cancelled`. -/
def watchBoot (preview deadline : Nat) : Nat → Act (Option String)
  | 0 => pure none
  | fuel + 1 => do
    if deadline ≤ (← now) then return none
    match ← exitStatus preview with
    | some s => return some s
    | none =>
      if ← sleepPhase previewPoll then watchBoot preview deadline fuel
      else do
        shutdown preview
        Act.failWith .cancelled

/-- The result of a boot: how it ended, which patterns its logs hold, where
they are, on which port, and how long it took. -/
def bootResult (finding : Status) (early : Option String) (hits : List String) (logs : String)
    (logPath : Option String) (port elapsed : Nat) : PhaseResult :=
  let base := match early with
    | some s => PhaseResult.failedWith ("headless instance exited early: " ++ s)
    | none => PhaseResult.passed
  let base :=
    if hits.isEmpty then base
    else { base with status := base.status.worst finding }.withMessage
      ("error patterns in logs: " ++ ", ".intercalate hits)
  let base := match logPath with
    | some p => base.withArtifact "log" p
    | none => base
  base
    |>.withMetric "elapsed_sec" (((Duration.ofNanos elapsed).toFloat * 100.0).round / 100.0)
    |>.withMetric "error_patterns" hits.length.toFloat
    |>.withDetails (Json.object [("port", Json.nat port), ("log_error_patterns", Json.texts hits),
        ("log_excerpt", .str (lastChars logExcerptChars logs))])

/-- The boot probe, with the configured window in nanoseconds and the port, if
one is configured. -/
def smokeProbe (window : Nat) (port? : Option Nat) (ctx : PhaseContext) : Act PhaseResult := do
  let port ← match port? with
    | some p => pure p
    | none => pickFreePort
  let started ← now
  let preview ← Act.within "starting headless instance" (launch ctx.notebook port .run)
  let span := bootWindow window (← ctx.remaining)
  let early ← watchBoot preview (started + span) (span / previewPoll + 2)
  shutdown preview
  let elapsed := (← now) - started
  let logs ← previewLogs preview
  return bootResult ctx.finding early (foundPatterns logs) logs (← previewLogPath preview) port elapsed

end NotebookGuard
