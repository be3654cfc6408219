import NotebookGuard.Duration
import NotebookGuard.Json.Fault

/-!
# Errors that stop a run

`RunError` names the failures the guard tells apart; each has one message and
one exit code. A `Failure` is any error as it leaves an operation: what it rests
on, and the steps that led to it, outermost first. Its message joins the steps
and the cause with `": "`.
-/

namespace NotebookGuard

/-- The failures the guard tells apart. -/
inductive RunError where
  | probeTimeout (phase : String) (timeout : Duration)
  | probeCrash (phase : String) (message : String)
  | configInvalid (message : String)
  | artifactMissing (path : String)
  | aggregationFatal (message : String)
  | launchFailed (message : String)
  | cancelled

namespace RunError

/-- The message of a failure. -/
def message : RunError → String
  | .probeTimeout phase t => "phase " ++ phase ++ " timed out after " ++ t.text
  | .probeCrash phase m => "phase " ++ phase ++ " crashed: " ++ m
  | .configInvalid m => "invalid configuration: " ++ m
  | .artifactMissing p => "selftest artifact missing: " ++ p
  | .aggregationFatal m => "report aggregation failed: " ++ m
  | .launchFailed m => "launch failed: " ++ m
  | .cancelled => "cancelled"

/-- The exit code of a failure: 2 for a configuration, 3 for aggregation, 4 for
a launch, 130 for cancellation, 1 otherwise. -/
def exitCode : RunError → Nat
  | .configInvalid _ => 2
  | .aggregationFatal _ => 3
  | .launchFailed _ => 4
  | .cancelled => 130
  | _ => 1

/-- The name of the kind of failure. -/
def kind : RunError → String
  | .probeTimeout .. => "ProbeTimeout"
  | .probeCrash .. => "ProbeCrash"
  | .configInvalid _ => "ConfigInvalid"
  | .artifactMissing _ => "ArtifactMissing"
  | .aggregationFatal _ => "AggregationFatal"
  | .launchFailed _ => "LaunchFailed"
  | .cancelled => "Cancelled"

end RunError

/-- What an error rests on. -/
inductive Cause where
  /-- A failure the guard tells apart. -/
  | run (e : RunError)
  /-- A JSON document that could not be read. -/
  | json (e : ReadError)
  /-- A TOML document that could not be read, with its message. -/
  | toml (message : String)
  /-- Anything else, by its message. -/
  | other (message : String)

namespace Cause

/-- The message of the cause. -/
def message : Cause → String
  | .run e => e.message
  | .json e => e.message
  | .toml m => m
  | .other m => m

end Cause

/-- An error with the steps that led to it, outermost first. -/
structure Failure where
  cause : Cause
  context : List String := []

namespace Failure

/-- A failure of the guard. -/
def ofRun (e : RunError) : Failure := { cause := .run e }

/-- A failure with a plain message. -/
def msg (m : String) : Failure := { cause := .other m }

/-- The same failure inside one more step. -/
def within (step : String) (f : Failure) : Failure := { f with context := step :: f.context }

/-- The steps and the cause joined by `": "`. -/
def message (f : Failure) : String := ": ".intercalate (f.context ++ [f.cause.message])

/-- The exit code: the guard failure's, or 1. -/
def exitCode (f : Failure) : Nat :=
  match f.cause with
  | .run e => e.exitCode
  | _ => 1

/-- The failure of the guard this rests on, if any. -/
def runError? (f : Failure) : Option RunError :=
  match f.cause with
  | .run e => some e
  | _ => none

/-- Whether the run was cancelled. -/
def isCancelled (f : Failure) : Bool :=
  match f.cause with
  | .run .cancelled => true
  | _ => false

end Failure

/-- Adds a step to the failure of an outcome. -/
def withContext (step : String) : Except Failure α → Except Failure α
  | .error f => .error (f.within step)
  | .ok a => .ok a

end NotebookGuard
