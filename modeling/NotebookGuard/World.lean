import NotebookGuard.Engine
import NotebookGuard.Sessions
import NotebookGuard.Workspace
import NotebookGuard.Failure
import NotebookGuard.Machine.Preview
import NotebookGuard.Machine.Http
import NotebookGuard.Text.Replace

/-!
# The world a run acts on

A run talks to three outside parties: the notebook engine, a launcher of
previews and a notebook server's session endpoint, each given by a script or
by the programs of a simulated machine. The world records what was asked of
them, and holds the clock, the cancellation flags, whether the system grants
threads, the chart registry, the file tree and the monitor's watched files.

Every call to an outside party takes one microsecond, and sleeping on a flag
wakes early when the flag goes up. An `Act` is a step against the world that
may fail, keeping the changes made before it.
-/

namespace NotebookGuard

/-- What the engine answers to each kind of call. -/
structure EngineScript where
  check : Except Failure CheckOutput := .ok {}
  execute : Except Failure Execution := .ok { ok := true, outputsLen := 1, defsLen := 1 }
  /-- The verdict for a chart by name; a chart not named exports fine. -/
  exports : List (String × ExportVerdict) := []
  /-- A failure of the whole export batch. -/
  exportError : Option Failure := none
  /-- How many verdicts the exporter gives at most. -/
  exportLimit : Option Nat := none
  browse : Except Failure BrowseOutput := .ok {}
  /-- A file the notebook writes while it runs, and its bytes. -/
  writesOnExecute : Option (String × ByteArray) := none

/-- How launches go and how the previews behave. -/
structure LauncherScript where
  /-- Every launch fails with this text. -/
  failLaunch : Option String := none
  /-- The numbers of the attempts that fail, counting from one. -/
  failAt : List Nat := []
  /-- The exit status every preview has from the start. -/
  exitImmediately : Option String := none
  /-- Whether previews accept connections. -/
  ready : Bool := true
  /-- What every preview logs. -/
  logs : String := ""
  /-- Stopping a preview fails with this text. -/
  shutdownError : Option String := none

/-- What the session endpoint answers. -/
structure SessionScript where
  reachable : Bool := false
  notebooks : List Json := []
  /-- Listing the open notebooks fails with this text. -/
  listError : Option String := none
  summary : ErrorsSummary := {}
  /-- The errors summary fails with this text. -/
  summaryError : Option String := none

/-- A change another program makes to a file at a set time: the file's new
content, or its removal. -/
structure OutsideChange where
  time : Nat
  path : String
  content : Option ByteArray

/-- A preview that was launched. -/
structure Preview where
  port : Nat
  stopped : Bool := false

/-- The state of the world during a run. -/
structure World where
  /-- The time now, in nanoseconds since 1970-01-01 UTC. -/
  clock : Nat := 0
  runCancelled : Bool := false
  phaseCancelled : Bool := false
  /-- When the phase's watchdog raises the phase flag. -/
  phaseExpiry : Option Nat := none
  registry : Registry := {}
  files : Workspace
  /-- The port the system hands out when asked for any free one. -/
  freePort : Nat
  /-- Ports something else listens on. -/
  busyPorts : List Nat := []
  engine : EngineScript := {}
  launcher : LauncherScript := {}
  sessions : SessionScript := {}
  /-- The calls made to the engine, in order. -/
  engineCalls : List String := []
  launchAttempts : Nat := 0
  launches : Nat := 0
  shutdowns : Nat := 0
  modes : List PreviewMode := []
  previews : List Preview := []
  /-- Lines written by probes that keep a log of their own. -/
  notes : List String := []
  /-- Changed files reported by the file monitor and not yet taken. -/
  pendingChanges : List String := []
  /-- Whether the file monitor has stopped reporting. -/
  changesClosed : Bool := false
  /-- The simulated machine, when the outside parties are its programs rather
  than scripts. -/
  machine : Option Machine := none
  /-- When an interrupt cancels the run, if one does. -/
  interruptAt : Option Nat := none
  /-- The error the system gives when asked for a thread, while it refuses
  them; none while it grants them. -/
  threadRefusal : Option String := none
  /-- The directory relative paths are taken from. -/
  cwd : String := "/"
  /-- Changes other programs will make to files, in order of time. -/
  outsideChanges : List OutsideChange := []
  /-- The files a monitor watches, each with the content it last saw, none
  for a file that was missing. -/
  monitored : List (String × Option ByteArray) := []
  /-- When each file was first seen to exist. -/
  firstSeen : List (String × Nat) := []
  /-- What the program wrote, in order: when, whether to its error stream,
  and the text. -/
  console : List (Nat × Bool × String) := []

/-- The world with a new file tree, noting the files that appear in it now. -/
def World.withFiles (w : World) (files : Workspace) : World :=
  let fresh := files.files.filter fun f => (w.firstSeen.lookup f).isNone
  { w with files, firstSeen := w.firstSeen ++ fresh.map (·, w.clock) }

/-- The world with every outside change whose time has come made; a change
that cannot be made is passed over. -/
def World.catchUp (w : World) : World :=
  let (due, later) := w.outsideChanges.partition (·.time ≤ w.clock)
  let apply (fs : Workspace) (c : OutsideChange) : Workspace :=
    let r := match c.content with
      | some b => fs.place c.path b
      | none => fs.removeFile c.path
    r.toOption.getD fs
  { w.withFiles (due.foldl apply w.files) with outsideChanges := later }

/-- A step against the world that may fail. -/
abbrev Act := ExceptT Failure (StateM World)

namespace Act

/-- The value of an outcome, or its failure. -/
def ofExcept : Except Failure α → Act α
  | .ok a => pure a
  | .error f => throw f

/-- Fails with a plain message. -/
def fail (m : String) : Act α := throw (Failure.msg m)

/-- Fails with a failure of the guard. -/
def failWith (e : RunError) : Act α := throw (Failure.ofRun e)

/-- Runs a step; a failure gets one more step of context. -/
def within (step : String) (a : Act α) : Act α :=
  tryCatch a fun f => throw (f.within step)

/-- The step's outcome, failure included, as a value. -/
def attempt (a : Act α) : Act (Except Failure α) :=
  tryCatch (Except.ok <$> a) fun f => pure (.error f)

end Act

/-- One microsecond, the time any call to an outside party takes. -/
def callTime : Nat := 1000

/-- Lets a call to an outside party take its time. -/
def tick : Act Unit := modify fun w => { w with clock := w.clock + callTime }

/-- The time now. -/
def now : Act Nat := do return (← get).clock

namespace World

/-- Whether the run's flag is raised: by a cancellation, or by an interrupt
whose time has come. -/
def runDown (w : World) : Bool :=
  w.runCancelled || w.interruptAt.any (· ≤ w.clock)

/-- Whether the phase's flag is raised: by itself, by the run's, or by its
watchdog. -/
def phaseDown (w : World) : Bool :=
  w.runDown || w.phaseCancelled ||
    match w.phaseExpiry with
    | some t => decide (t ≤ w.clock)
    | none => false

/-- When the phase's flag goes up: now when it is up, else the earlier of the
watchdog's time and the interrupt's. -/
def phaseFlagAt (w : World) : Option Nat :=
  if w.phaseDown then some w.clock
  else
    match w.phaseExpiry, w.interruptAt with
    | some a, some b => some (min a b)
    | some a, none => some a
    | none, b => b

/-- The bounds of a call to an outside program: the time left of the phase,
and the phase's flag. -/
def bounds (w : World) : Bounds :=
  { now := w.clock, cancelAt := w.phaseFlagAt,
    timeout := match w.phaseExpiry with
      | some t => t - w.clock
      | none => 3600000 * msNanos }

end World

/-- Whether the phase is cancelled now. -/
def phaseCancelled : Act Bool := do return (← get).phaseDown

/-- Whether the run is cancelled now. -/
def runCancelled : Act Bool := do return (← get).runDown

/-- Cancels the run. -/
def cancelRun : Act Unit := modify fun w => { w with runCancelled := true }

/-- Sleeps up to `d` nanoseconds on the phase's flag: false when the flag is
raised before the time is up, at the moment it is raised. -/
def sleepPhase (d : Nat) : Act Bool := do
  let w ← get
  if w.phaseDown then return false
  let wake := w.clock + d
  match w.phaseFlagAt with
  | some t =>
    if t ≤ wake then
      set { w with clock := t }
      return false
    else
      set { w with clock := wake }
      return true
  | none =>
    set { w with clock := wake }
    return true

/-- Sleeps `d` nanoseconds on the run's flag: false when it is raised before
the time is up, at the moment it is raised. -/
def sleepRun (d : Nat) : Act Bool := do
  let w ← get
  if w.runDown then return false
  let wake := w.clock + d
  match w.interruptAt with
  | some t =>
    if t ≤ wake then
      set { w with clock := t }
      return false
    else
      set { w with clock := wake }
      return true
  | none =>
    set { w with clock := wake }
    return true

/-- Writes text to the program's standard output, or to its error stream. -/
def writeTo (toErr : Bool) (text : String) : Act Unit :=
  modify fun w => { w with console := w.console ++ [(w.clock, toErr, text)] }

/-- Writes a line to the program's standard output. -/
def say (line : String) : Act Unit := writeTo false (line ++ "\n")

/-- Changes the registry. -/
def updateRegistry (f : Registry → Registry) : Act Unit :=
  modify fun w => { w with registry := f w.registry }

/-- The registry now. -/
def registryNow : Act Registry := do return (← get).registry

/-- Changes the file tree; a failure of the change fails the step with its
message. -/
def updateFiles (f : Workspace → Except String Workspace) : Act Unit := do
  let w := (← get).catchUp
  match f w.files with
  | .ok t => set (w.withFiles t)
  | .error e => Act.fail e

/-- Something read from the file tree. -/
def inspectFiles (f : Workspace → α) : Act α := do
  modify World.catchUp
  return f (← get).files

/-- Creates a directory and those above it; the failure names the directory. -/
def ensureDir (p : String) : Act Unit :=
  Act.within ("create_dir_all " ++ p) (updateFiles (·.createDirAll p))

/-- Whether nothing listens on a port. -/
def portIsFree (p : Nat) : Act Bool := do
  let w ← get
  match w.machine with
  | some m => return !m.listening p w.clock
  | none => return !w.busyPorts.contains p

/-- A port free for use: the preferred one when it is free, else the one the
system hands out. -/
def pickFreePort (preferred : Option Nat := none) : Act Nat := do
  let w ← get
  match w.machine with
  | some m => return m.pickPort w.clock preferred
  | none =>
    match preferred with
    | some p => if ← portIsFree p then return p else return w.freePort
    | none => return w.freePort

/-- Records a call to the engine. -/
def engineCall (entry : String) : Act Unit := do
  modify fun w => { w with engineCalls := w.engineCalls ++ [entry] }
  tick

/-- A call to the machine's programs, when there is a machine: its state, the
files and the clock move on with it. -/
def onMachine (call : Machine → Workspace → Bounds → MachineCall α) (scripted : Act α) : Act α := do
  modify World.catchUp
  let w ← get
  match w.machine with
  | some m =>
    let c := call m w.files w.bounds
    set ({ w with machine := some c.machine, clock := max w.clock c.endsAt }.withFiles c.files)
    Act.ofExcept c.result
  | none => scripted

/-- The engine's static lint of a notebook. -/
def staticCheck (notebook : String) : Act CheckOutput := do
  engineCall "check"
  onMachine (·.lint · · notebook) do Act.ofExcept (← get).engine.check

/-- The engine's run of a notebook; the notebook may write a file as it runs. -/
def execute (notebook : String) : Act Execution := do
  engineCall "execute"
  onMachine (·.runNotebook · · notebook) do
    match (← get).engine.writesOnExecute with
    | some (path, bytes) =>
      modify fun w => w.withFiles ((w.files.place path bytes).toOption.getD w.files)
    | none => pure ()
    Act.ofExcept (← get).engine.execute

/-- The engine's offline export of charts, one verdict per chart at most. -/
def exportCharts (notebook : String) (charts : List Chart) : Act (List ExportVerdict) := do
  engineCall ("export:" ++ ",".intercalate (charts.map (·.name)))
  onMachine (·.exportAll · · notebook charts) do
    let e := (← get).engine
    match e.exportError with
    | some f => throw f
    | none =>
      let verdicts := charts.map fun c => (e.exports.lookup c.name).getD { ok := true }
      return match e.exportLimit with
        | some n => verdicts.take n
        | none => verdicts

/-- JSON of a selector map. -/
def selectorsJson (s : List (String × List String)) : Json :=
  .obj (s.map fun (k, v) => (k, Json.texts v))

/-- The engine's browser session against a preview. -/
def browse (req : BrowseRequest) : Act BrowseOutput := do
  engineCall ("browse:" ++ req.url ++ " samples=" ++ toString req.domSamples ++ " interval_ms=" ++
    toString req.sampleIntervalMs ++ " selectors=" ++ (selectorsJson req.selectors).compact)
  onMachine (·.browseWith · · req) do Act.ofExcept (← get).engine.browse

/-- Launches a preview of a notebook on a port; the preview is known by its
number. -/
def launch (notebook : String) (port : Nat) (mode : PreviewMode) : Act Nat := do
  tick
  modify fun w => { w.catchUp with launchAttempts := w.launchAttempts + 1 }
  let w ← get
  match w.machine with
  | some m =>
    let c := m.launchPreview w.files w.clock notebook port mode
    set ({ w with machine := some c.machine }.withFiles c.files)
    let i ← Act.ofExcept c.result
    modify fun w => { w with launches := w.launches + 1, modes := w.modes ++ [mode] }
    return i
  | none =>
    match w.launcher.failLaunch with
    | some m => Act.fail m
    | none =>
      if w.launcher.failAt.contains w.launchAttempts then
        Act.fail ("launch attempt " ++ toString w.launchAttempts ++ " failed")
      else
        set { w with launches := w.launches + 1, modes := w.modes ++ [mode],
                     previews := w.previews ++ [({ port } : Preview)] }
        return w.previews.length

/-- The exit status of a preview, once it has exited. -/
def exitStatus (preview : Nat) : Act (Option String) := do
  tick
  let w ← get
  match w.machine with
  | some m => return m.previewStatus preview w.clock
  | none => return w.launcher.exitImmediately

/-- The port of a preview. -/
def previewPort (preview : Nat) : Act Nat := do
  let w ← get
  match w.machine with
  | some m => return (m.previews[preview]?.map (·.port)).getD 0
  | none => return (w.previews[preview]?.map (·.port)).getD 0

/-- Whether a preview accepts connections. -/
def isReady (preview : Nat) : Act Bool := do
  tick
  let w ← get
  match w.machine with
  | some m => return m.listening (← previewPort preview) w.clock
  | none => return w.launcher.ready

/-- Stops a preview; stopping it again does nothing. -/
def shutdown (preview : Nat) : Act Unit := do
  tick
  let w ← get
  match w.machine with
  | some m =>
    let stopped := (m.previews[preview]?.map (·.stoppedAt.isSome)).getD true
    let (m, t) := m.stopPreview preview w.clock
    set { w with machine := some m, clock := t, shutdowns := if stopped then w.shutdowns else w.shutdowns + 1 }
  | none =>
    match w.launcher.shutdownError with
    | some m => Act.fail m
    | none =>
      match w.previews[preview]? with
      | some p =>
        if p.stopped then pure ()
        else set { w with shutdowns := w.shutdowns + 1,
                          previews := w.previews.set preview { p with stopped := true } }
      | none => pure ()

/-- Where a preview logs. -/
def previewLogPath (preview : Nat) : Act (Option String) := do
  match (← get).machine with
  | some m => return m.previews[preview]?.map (·.logPath)
  | none => return some ("preview_" ++ toString (← previewPort preview) ++ ".log")

/-- What a preview logged. -/
def previewLogs (preview : Nat) : Act String := do
  let w ← get
  match w.machine with
  | some m => return m.previewLog preview w.clock
  | none => return w.launcher.logs

/-- Starts an editor for the user on a port, not waited for: its address and
process number. -/
def spawnEditor (port : Nat) : Act (String × Nat) := do
  tick
  let w ← get
  match w.machine with
  | some m =>
    let (r, m) := m.startEditor w.files w.clock port
    set { w with machine := some m }
    Act.ofExcept r
  | none => return ("http://127.0.0.1:" ++ toString port ++ "/", 1)

/-- Sends a request to the session endpoint over the machine's network. -/
def sessionRequest (method url : String) (body : Option Json) (ok : List Nat) : Act (Except String HttpAnswer) := do
  let w ← get
  match w.machine with
  | some m =>
    let (m, t, r) := m.httpRequest w.clock method url body ok
    set { w with machine := some m, clock := max w.clock t }
    return r
  | none => return .error "no network"

/-- The session endpoint's address, without trailing separators. -/
def sessionBase : Act String := do
  let url := ((← get).machine.map (·.sessionUrl)).getD ""
  return String.ofList (url.toList.reverse.dropWhile (· == '/')).reverse

/-- Asks the session endpoint for a prompt. -/
def prompt (name : String) (ok : List Nat) : Act (Except String HttpAnswer) := do
  sessionRequest "POST" ((← sessionBase) ++ "/prompts/" ++ name) (some (Json.object [])) ok

/-- The reply of a prompt, read as JSON and unwrapped. -/
def promptReply (name : String) : Act Json := do
  match ← prompt name [] with
  | .error e => Act.fail e
  | .ok a =>
    match Json.parse a.body with
    | .ok j => return unwrapReply j
    | .error e => Act.fail e.message

/-- Whether the session endpoint answers. -/
def healthCheck : Act Bool := do
  tick
  match (← get).machine with
  | some _ =>
    let base ← sessionBase
    let health := replaceAll base "/mcp/server" "" ++ "/health"
    if (← sessionRequest "GET" health none [404, 405]).toBool then return true
    return (← prompt "active_notebooks" [400, 404]).toBool
  | none => return (← get).sessions.reachable

/-- The notebooks open in the server. -/
def activeNotebooks : Act (List Json) := do
  tick
  match (← get).machine with
  | some _ =>
    match ← promptReply "active_notebooks" with
    | .arr items => return items
    | _ => return []
  | none =>
    let s := (← get).sessions
    match s.listError with
    | some m => Act.fail m
    | none => return s.notebooks

/-- The errors the server has seen. -/
def errorsSummary : Act ErrorsSummary := do
  tick
  match (← get).machine with
  | some _ => return ((decodeValue Reader.errorsSummary (← promptReply "errors_summary")).toOption).getD {}
  | none =>
    let s := (← get).sessions
    match s.summaryError with
    | some m => Act.fail m
    | none => return s.summary

/-- A path as the system resolves it: a path to an existing entry of the tree
is written plainly; any other is kept as it is. -/
def World.canonical (w : World) (p : String) : String :=
  if Path.isAbsolute p && w.files.has p then keyPath (pathKey p) else p

end NotebookGuard
