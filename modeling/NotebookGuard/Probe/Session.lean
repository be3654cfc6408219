import NotebookGuard.Probe.Context

/-!
# Asking the notebook server

The server's session endpoint is polled until it answers, for at most the
configured wait (never past the phase's time); not answering is a finding. Once
it answers, it is asked which errors it has seen for the notebook, each one a
finding, and whether the notebook is open in it, which the details record.
-/

namespace NotebookGuard

/-- How often the endpoint is polled, in nanoseconds. -/
def healthPoll : Nat := 500 * msNanos

/-- Polls the endpoint until it answers or `deadline` passes; a cancelled phase
fails with `cancelled`. -/
def pollHealth (deadline : Nat) : Nat → Act Bool
  | 0 => pure false
  | fuel + 1 => do
    if ← healthCheck then return true
    if deadline ≤ (← now) then return false
    if ← sleepPhase healthPoll then pollHealth deadline fuel
    else Act.failWith .cancelled

/-- The sessions open in the server; none when it cannot list them. -/
def openSessions : Act (List Session) := do
  match ← Act.attempt activeNotebooks with
  | .ok nbs => return activeSessions nbs
  | .error _ => return []

/-- The session the server has open for a notebook, if any. -/
def openSession (notebook : String) : Act (Option Session) := do
  return sessionFor (World.canonical (← get)) (← openSessions) notebook

/-- The session probe, waiting at most `wait` nanoseconds for the endpoint. -/
def sessionProbe (wait : Nat) (ctx : PhaseContext) : Act PhaseResult := do
  let deadline := (← now) + min wait (← ctx.remaining)
  if !(← pollHealth deadline (wait / healthPoll + 2)) then
    return (PhaseResult.ofStatus ctx.finding).withMessage "session-query endpoint unreachable"
      |>.withMetric "reachable" 0.0
  match ← Act.attempt errorsSummary with
  | .error e =>
    return (PhaseResult.ofStatus ctx.finding).withMessage
        ("session-query errors summary unavailable: " ++ e.message)
      |>.withMetric "reachable" 1.0
      |>.withDetails (Json.object [("error", .str e.message)])
  | .ok summary =>
    let errors := summary.errorsFor ctx.notebook
    let canon := World.canonical (← get)
    let active := (sessionFor canon (← openSessions) ctx.notebook).map Session.warning
    let count := (← openSessions).length
    let r := if errors.isEmpty then PhaseResult.passed
      else { status := ctx.finding, messages := errors }
    return r
      |>.withMetric "reachable" 1.0
      |>.withMetric "errors" errors.length.toFloat
      |>.withDetails (Json.object [("total_errors", Json.nat summary.totalErrors),
          ("active_notebooks", Json.nat count),
          ("active_session", match active with | some w => .str w | none => .null)])

end NotebookGuard
