import NotebookGuard.Probe.Context

/-!
# Scripted probes

A scripted probe follows a script instead of looking at a notebook, so that the
phase machinery can be run against any behaviour a probe may have. It notes
the phase and the number of registered charts, registers charts, may cancel
the run, sleeps on the phase's flag, and then crashes, fails, or returns its
result, in that order of precedence.
-/

namespace NotebookGuard

/-- What a scripted probe does. -/
structure ProbeScript where
  /-- Charts to register, by name and library tag. -/
  register : List (String × String) := []
  cancelRun : Bool := false
  /-- How long to sleep on the phase's flag, in milliseconds. -/
  sleepMs : Option Nat := none
  /-- A crash, with the message it leaves as text, if any. -/
  crash : Option (Option String) := none
  error : Option Failure := none
  result : PhaseResult := PhaseResult.passed

/-- The probe that follows a script. -/
def scriptedProbe (s : ProbeScript) : Probe := fun ctx => do
  modify fun w => { w with notes := w.notes ++
    [ctx.phase.key ++ " registry=" ++ toString w.registry.registered.length] }
  for (name, tag) in s.register do
    modify fun w => { w with registry := w.registry.register name (ChartLibrary.ofTag tag) .null [] }
  if s.cancelRun then modify fun w => { w with runCancelled := true }
  match s.sleepMs with
  | some ms => let _ ← (sleepPhase (millisToNanos ms)).run
  | none => pure ()
  match s.crash, s.error with
  | some m, _ => return .crashed m
  | none, some e => return .returned (.error e)
  | none, none => return .returned (.ok s.result)

end NotebookGuard
