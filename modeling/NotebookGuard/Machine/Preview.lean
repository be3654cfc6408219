import NotebookGuard.Machine.Engine

/-!
# Previews on a simulated machine

A preview is the tool serving a notebook on a port (`run`, or `edit` with the
session endpoint on). Launching one checks that the port is free, creates the
log directory, opens the log for appending and starts the program with both of
its streams going to the log. The program's behaviour decides the rest: it may
exit at once, or wait, write that it is ready, listen on its port, and live on
until it is stopped, when it ends at once. A preview is stopped at most once;
once stopped, it has no exit status to show.

An editor for the user is started the same way, without a log, and is not
waited for.
-/

namespace NotebookGuard

namespace Machine

/-- The key of a notebook: its file name without the extension. -/
def noteKey (notebook : String) : String := (Path.stem? notebook).getD "notebook"

/-- The behaviour of the next preview of a mode on a port. -/
def previewBehavior (m : Machine) (mode : PreviewMode) (port : Nat) : Behavior :=
  let kind := "marimo_" ++ mode.name
  Behavior.pick m.behaviors kind (m.callsOf kind) (some (kind ++ "@" ++ toString port))

/-- Starts a program serving a notebook, counted under its kind. -/
def startProgram (m : Machine) (files : Workspace) (now : Nat) (port : Nat) (mode : PreviewMode)
    (logPath : String) : Machine × Nat :=
  let kind := "marimo_" ++ mode.name
  let beh := m.previewBehavior mode port
  let p : PreviewProcess :=
    { pid := m.nextPid, port, mode, behavior := beh, started := now, logPath,
      loadError := if m.moduleFound files then none else some (m.moduleMissing files),
      printed := beh.printEnv.bind (m.seenVar files) }
  ({ m with previews := m.previews ++ [p], nextPid := m.nextPid + 1,
            calls := (kind, m.callsOf kind + 1) :: m.calls.filter (·.1 != kind) }, m.previews.length)

/-- Launches a preview of a notebook: the number of the preview. -/
def launchPreview (m : Machine) (files : Workspace) (now : Nat) (notebook : String) (port : Nat)
    (mode : PreviewMode) : MachineCall Nat :=
  let fail (f : Failure) : MachineCall Nat := ⟨m, files, now, .error f⟩
  let io (step e : String) : Failure := ({ cause := .other e } : Failure).within step
  if m.listening port now then fail (Failure.msg ("port " ++ toString port ++ " is already in use"))
  else
    match files.createDirAll (m.resolve m.previewLogsDir) with
    | .error e => fail (io ("create_dir_all " ++ m.previewLogsDir) e)
    | .ok files =>
      let logPath := m.previewLogFile.getD
        (Path.join m.previewLogsDir ("preview_" ++ noteKey notebook ++ "_" ++ toString port ++ ".log"))
      let opened := if files.isFile (m.resolve logPath) then .ok files
        else files.write (m.resolve logPath) ByteArray.empty
      match opened with
      | .error e => ⟨m, files, now, .error (io ("open preview log: " ++ logPath) e)⟩
      | .ok files =>
        match m.startProblem files (m.interpreter files) with
        | some e => ⟨m, files, now, .error (io ("spawning preview for " ++ notebook) e)⟩
        | none =>
          let (m, i) := m.startProgram files now port mode logPath
          ⟨m, files, now, .ok i⟩

/-- The exit status of a preview at `t`: none while it runs, and none once it
has been stopped. -/
def previewStatus (m : Machine) (i : Nat) (t : Nat) : Option String :=
  match m.previews[i]? with
  | some p => if p.stoppedAt.isSome then none else if p.ending.1 ≤ t then some p.ending.2 else none
  | none => none

/-- Stops a preview: a running one is asked to end and is seen gone at the
next look. When the stop is done. -/
def stopPreview (m : Machine) (i : Nat) (t : Nat) : Machine × Nat :=
  match m.previews[i]? with
  | some p =>
    if p.stoppedAt.isSome then (m, t)
    else
      let done := if p.ending.1 ≤ t then t else t + 50 * msNanos
      ({ m with previews := m.previews.set i { p with stoppedAt := some t } }, done)
  | none => (m, t)

/-- What a preview has logged since its launch, by `t`. -/
def previewLog (m : Machine) (i : Nat) (t : Nat) : String :=
  match m.previews[i]? with
  | some p => p.written t
  | none => ""

/-- Starts an editor for the user on a port, not waited for: its address and
process number. -/
def startEditor (m : Machine) (files : Workspace) (now : Nat) (port : Nat) :
    Except Failure (String × Nat) × Machine :=
  if m.listening port now then (.error (Failure.msg ("port " ++ toString port ++ " is already in use")), m)
  else
    match m.startProblem files (m.interpreter files) with
    | some e => (.error (({ cause := .other e } : Failure).within "spawning marimo edit"), m)
    | none =>
      let pid := m.nextPid
      let (m, _) := m.startProgram files now port .edit "/dev/null"
      (.ok ("http://127.0.0.1:" ++ toString port ++ "/", pid), m)

end Machine

end NotebookGuard
