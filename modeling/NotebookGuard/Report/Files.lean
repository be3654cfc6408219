import NotebookGuard.Report.Json
import NotebookGuard.Workspace

/-!
# Reports and self-tests on disk

A report is written as indented JSON, creating its directory first, and read
back by parsing it. A notebook's self-test artifact is read only when it
exists: a missing artifact is no self-test, while one that cannot be read or
parsed is an error naming it. Clearing a stale artifact removes it when it is
there.
-/

namespace NotebookGuard

/-- A failure of a file operation on `path`, inside a step. -/
def fileFailure (step path : String) (message : String) : Failure :=
  (Failure.msg message).within (step ++ ": " ++ path)

/-- A failure to parse the JSON of the file at `path`, inside a step. -/
def parseFailure (step path : String) (e : ReadError) : Failure :=
  ({ cause := .json e } : Failure).within (step ++ ": " ++ path)

namespace Workspace

/-- Creates a directory and those above it, naming it on failure. -/
def ensureDir (w : Workspace) (p : String) : Except Failure Workspace :=
  match w.createDirAll p with
  | .ok w => .ok w
  | .error e => .error ((Failure.msg e).within ("create_dir_all " ++ p))

/-- Writes a report at `path`, creating its directory. -/
def writeReport (w : Workspace) (path : String) (r : Report) : Except Failure Workspace := do
  let w ← match Path.parent? path with
    | some d => w.ensureDir d
    | none => .ok w
  match w.write path (Json.pretty "" r.toJson).toUTF8 with
  | .ok w => .ok w
  | .error e => .error (fileFailure "writing report" path e)

/-- Reads the report at `path`. -/
def readReport (w : Workspace) (path : String) : Except Failure Report := do
  let raw ← match w.readText path with
    | .ok s => .ok s
    | .error e => .error (fileFailure "reading report" path e)
  match decodeText Reader.report raw with
  | .ok r => .ok r
  | .error e => .error (parseFailure "parsing report" path e)

/-- The self-test artifact at `path`: none when nothing is there. -/
def readSelfTest (w : Workspace) (path : String) : Except Failure (Option SelfTest) := do
  if !w.has path then return none
  let raw ← match w.readText path with
    | .ok s => .ok s
    | .error e => .error (fileFailure "reading selftest artifact" path e)
  match decodeText Reader.selfTest raw with
  | .ok st => .ok (some st)
  | .error e => .error (parseFailure "parsing selftest artifact" path e)

/-- Removes a stale self-test artifact at `path`, if there is one. -/
def clearSelfTest (w : Workspace) (path : String) : Except Failure Workspace :=
  if !w.has path then .ok w
  else match w.removeFile path with
    | .ok w => .ok w
    | .error e => .error (fileFailure "removing stale selftest artifact" path e)

end Workspace

end NotebookGuard
