import NotebookGuard.World
import NotebookGuard.Report.Basic
import NotebookGuard.Imports

/-!
# Watching a notebook

The watcher keeps an editor preview of the notebook up and reacts to each
change the file monitor reports. Changes that arrive together count one by
one but make one reaction: the preview is stopped and launched anew, and, when
the watcher validates on change, one validation runs. A restart that fails
leaves no preview until the next change; a validation that fails is passed
over, except a cancelled one, which ends the watch. The watch ends when the run
is cancelled or the monitor stops reporting, and the preview is stopped then.

Only the first launch must succeed: its failure is the watch's failure.

The file monitor watches the notebook and, when asked, the local modules it
imports directly. It remembers what each file held when it last looked, and
reports a file when it finds different content, or finds it appearing or
vanishing; a file rewritten with the same bytes is not reported.
-/

namespace NotebookGuard

/-- How the watcher is set up. -/
structure Watcher where
  notebook : String
  port : Nat
  /-- How long to wait for more changes after one, in nanoseconds. -/
  debounce : Nat := 0
  /-- How long to wait for a change before looking again, in nanoseconds. -/
  poll : Nat := 0
  validateOnChange : Bool := true
  /-- Whether the local modules the notebook imports are watched too. -/
  watchImports : Bool := false

/-- What a watch did. -/
structure WatchSummary where
  /-- Change notifications taken, each one counted. -/
  changes : Nat := 0
  runs : Nat := 0
  restarts : Nat := 0
  lastReport : Option Report := none

/-- The next change: none once the monitor has stopped and nothing waits. -/
inductive ChangeWait where
  | change (path : String)
  | quiet
  | closed

/-- The monitor looks at its files once, and reports each whose content it
finds changed. -/
def pollMonitor : Act Unit := do
  let w := (← get).catchUp
  let seen := w.monitored.map fun (p, _) => (p, (w.files.read p).toOption)
  let changed := (w.monitored.zip seen).filterMap fun ((p, before), (_, now)) =>
    if before.map (·.toList) == now.map (·.toList) then none else some p
  set { w with monitored := seen, pendingChanges := w.pendingChanges ++ changed }

/-- Waits for the next reported change. -/
def awaitChange (poll : Nat) : Act ChangeWait := do
  pollMonitor
  let w ← get
  match w.pendingChanges with
  | p :: rest =>
    set { w with pendingChanges := rest }
    return .change p
  | [] =>
    if w.changesClosed then return .closed
    set { w with clock := w.clock + poll }
    return .quiet

/-- Takes every change waiting now. -/
def takeWaitingChanges : Act (List String) := do
  pollMonitor
  let w ← get
  set { w with pendingChanges := [] }
  return w.pendingChanges

namespace Watcher

/-- Launches the editor preview. -/
def launchPreview (wt : Watcher) : Act Nat := launch wt.notebook wt.port .edit

/-- Stops a preview, letting a failure pass. -/
def stopPreview : Option Nat → Act Unit
  | some p => do discard (Act.attempt (shutdown p))
  | none => pure ()

/-- Reacts to changes until the watch ends or `rounds` waits have passed. -/
def react (wt : Watcher) (validate : Act Report) :
    Nat → Option Nat → WatchSummary → Act (Option Nat × WatchSummary)
  | 0, preview, s => return (preview, s)
  | rounds + 1, preview, s => do
    if ← runCancelled then return (preview, s)
    match ← awaitChange wt.poll with
    | .closed => return (preview, s)
    | .quiet => wt.react validate rounds preview s
    | .change _ =>
      let s := { s with changes := s.changes + 1 }
      if !(← sleepRun wt.debounce) then return (preview, s)
      let more ← takeWaitingChanges
      let s := { s with changes := s.changes + more.length }
      stopPreview preview
      let (preview, s) ← match ← Act.attempt wt.launchPreview with
        | .ok p => pure (some p, { s with restarts := s.restarts + 1 })
        | .error _ => pure (none, s)
      if !wt.validateOnChange then return ← wt.react validate rounds preview s
      let s := { s with runs := s.runs + 1 }
      match ← Act.attempt validate with
      | .ok report => wt.react validate rounds preview { s with lastReport := some report }
      | .error e => if e.isCancelled then return (preview, s) else wt.react validate rounds preview s

/-- Watches the notebook, reacting to at most `rounds` waits for a change. -/
def drive (wt : Watcher) (validate : Act Report) (rounds : Nat) : Act WatchSummary := do
  let first ← match ← Act.attempt wt.launchPreview with
    | .ok p => pure p
    | .error e => Act.failWith (.launchFailed e.message)
  let (preview, s) ← wt.react validate rounds (some first) {}
  stopPreview preview
  return s

/-- The files to watch, relative paths taken from `cwd`: the notebook, then
the local modules it imports when those are watched. -/
def watchedPaths (wt : Watcher) (files : Workspace) (cwd : String) : List String :=
  let nb := Path.join cwd wt.notebook
  nb :: if wt.watchImports then localImports files nb else []

/-- Starts the file monitor on the watched files and watches the notebook
until the watch ends; the monitor stops with it. -/
def run (wt : Watcher) (validate : Act Report) (rounds : Nat) : Act WatchSummary := do
  let files ← inspectFiles id
  let cwd := (← get).cwd
  modify fun w => { w with monitored := (wt.watchedPaths files cwd).map fun p => (p, (files.read p).toOption) }
  let s ← wt.drive validate rounds
  modify fun w => { w with monitored := [] }
  return s

end Watcher

end NotebookGuard
