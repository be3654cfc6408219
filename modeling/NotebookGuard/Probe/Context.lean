import NotebookGuard.World
import NotebookGuard.PhaseResult

/-!
# What a probe is given

A probe checks one aspect of a notebook during one phase. It is given the
phase, the notebook, the project it lives in, the phase's settings and the
moment its time is up. It acts on the world and ends in one of two ways: it
returns, with a result or a failure, or it crashes, leaving a message or not.
-/

namespace NotebookGuard

/-- Everything a probe may look at during one phase. -/
structure PhaseContext where
  phase : Phase
  notebook : String
  projectRoot : String
  settings : PhaseSettings
  /-- When the phase's time is up, on the world's clock. -/
  deadline : Nat

namespace PhaseContext

/-- The time left to the phase, in nanoseconds. -/
def remaining (ctx : PhaseContext) : Act Nat := do return ctx.deadline - (← now)

/-- The status of a finding: a failure for a strict phase, else a warning. -/
def finding (ctx : PhaseContext) : Status := ctx.settings.finding

end PhaseContext

/-- How a probe's run ended. -/
inductive Ending where
  /-- The probe returned a result or a failure. -/
  | returned (outcome : Except Failure PhaseResult)
  /-- The probe crashed, with the message it left, if it left one as text. -/
  | crashed (message : Option String)

/-- Whether the probe returned a failure. -/
def Ending.failed : Ending → Bool
  | .returned (.error _) => true
  | _ => false

/-- A probe: what it does to the world in a phase, and how it ends. -/
abbrev Probe := PhaseContext → StateM World Ending

namespace Probe

/-- The probe that runs a step and returns its outcome. -/
def ofAct (f : PhaseContext → Act PhaseResult) : Probe :=
  fun ctx => do return .returned (← (f ctx).run)

end Probe

/-- The lines of a text: pieces between line feeds, each without the carriage
return that stood before its line feed; a text ending in a line feed has no
empty last line. -/
def textLines (s : String) : List String :=
  let pieces := s.splitOn "\n"
  let closed := pieces.dropLast.map fun l => if l.endsWith "\r" then l.dropEnd 1 |>.toString else l
  let last := pieces.getLast?.getD ""
  if last.isEmpty then closed else closed ++ [last]

/-- Milliseconds as nanoseconds. -/
def millisToNanos (ms : Nat) : Nat := ms * msNanos

end NotebookGuard
