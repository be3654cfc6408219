import NotebookGuard.PhaseResult

/-!
# Strictness policy

Each phase's status is promoted by its strictness: a strict phase's warning
becomes a failure, and its messages are listed as promoted; a lenient phase's
warning stays, and its messages are listed as warnings. Messages are prefixed
with the phase key. The phases are ok when no status ends as a failure.
-/

namespace NotebookGuard

/-- One phase as it ran: which, how configured, what it found, how long. -/
structure PhaseOutcome where
  phase : Phase
  settings : PhaseSettings
  result : PhaseResult
  duration : Duration := Duration.zero

/-- What strictness made of a run's outcomes. -/
structure Decision where
  /-- No phase ended as a failure after promotion. -/
  phasesOk : Bool
  /-- Each phase's status after promotion, in the order given. -/
  statuses : List (Phase × Status)
  /-- Warnings of strict phases, now failures. -/
  promoted : List String
  /-- Warnings of lenient phases. -/
  warnings : List String

namespace PhaseOutcome

/-- The status after promotion. -/
def effective (o : PhaseOutcome) : Status := o.result.status.promote o.settings.strict

/-- The messages, prefixed with the phase key. -/
def prefixed (o : PhaseOutcome) : List String := o.result.messages.map fun m => o.phase.key ++ ": " ++ m

end PhaseOutcome

/-- Decides the outcomes of a run. -/
def Decision.ofOutcomes (outcomes : List PhaseOutcome) : Decision :=
  { phasesOk := outcomes.all fun o => o.effective != .fail
    statuses := outcomes.map fun o => (o.phase, o.effective)
    promoted := outcomes.flatMap fun o =>
      if o.result.status = .warn ∧ o.effective = .fail then o.prefixed else []
    warnings := outcomes.flatMap fun o =>
      if o.result.status = .warn ∧ o.effective = .warn then o.prefixed else [] }

end NotebookGuard
