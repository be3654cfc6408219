import NotebookGuard.Machine.Behavior
import NotebookGuard.Machine.Endpoint
import NotebookGuard.Engine
import NotebookGuard.Workspace
import NotebookGuard.Failure

/-!
# A simulated machine

The machine the guard runs on when its outside programs are stand-ins: the
directory the guard runs in, its environment, the interpreter and where it may
be found, the stand-in programs with their behaviour file, the previews that
are running, the ports that are taken, and an HTTP endpoint. It records each
call a stand-in answered, in order.

Time is the run's clock, in nanoseconds. A program takes `bootTime` to start
before it does anything, and a process that is waited on is stopped when its
time is up or its flag is raised, whichever comes first; one that has ended by
then is seen to have ended.
-/

namespace NotebookGuard

/-- Nanoseconds in a millisecond. -/
def msNanos : Nat := 1000000

/-- How long a program takes to start, in nanoseconds. -/
def bootTime : Nat := 30 * msNanos

/-- How a preview serves a notebook: as a read-only app, or as an editor with
the session endpoint on. -/
inductive PreviewMode where
  | run
  | edit
  deriving DecidableEq

/-- The name of a mode. -/
def PreviewMode.name : PreviewMode → String
  | .run => "run"
  | .edit => "edit"

/-- The system's message for a program that may not be run. -/
def permissionDenied : String := "Permission denied (os error 13)"

/-- How the tools are reached, as the configuration gives it. -/
structure ToolSettings where
  pythonExe : String := "auto"
  module : String := "marimo"
  scriptsDir : String := "scripts"
  /-- The log directory, relative to a notebook's project. -/
  logsDir : String := "logs"
  /-- Whether a run of a notebook exports its charts too. -/
  exportOnExecute : Bool := true

/-- A preview process. -/
structure PreviewProcess where
  pid : Nat
  port : Nat
  mode : PreviewMode
  behavior : Behavior
  /-- When it was started. -/
  started : Nat
  logPath : String
  /-- What it writes when it cannot load the tool, if it cannot. -/
  loadError : Option String := none
  /-- The value of the variable its behaviour prints, if it prints one. -/
  printed : Option String := none
  /-- When the guard stopped it, if it has. -/
  stoppedAt : Option Nat := none

namespace PreviewProcess

/-- When the program has started. -/
def boot (p : PreviewProcess) : Nat := p.started + bootTime

/-- When the program ends by itself, and the status it ends with. -/
def ending (p : PreviewProcess) : Nat × String :=
  match p.loadError, p.behavior.exitCode with
  | some _, _ => (p.boot, "exit status: 1")
  | none, some c => (p.boot, "exit status: " ++ toString (c % 256))
  | none, none =>
    if p.behavior.signal then (p.boot, "signal: 9 (SIGKILL)")
    else (p.boot + (p.behavior.delayMs + p.behavior.lifetimeMs) * msNanos, "exit status: 0")

/-- When the program is gone: ended by itself or stopped. -/
def gone (p : PreviewProcess) : Nat :=
  match p.stoppedAt with
  | some t => min t p.ending.1
  | none => p.ending.1

/-- Whether the program gets to be ready, and when. -/
def readyAt (p : PreviewProcess) : Option Nat :=
  if p.loadError.isNone && p.behavior.exitCode.isNone && !p.behavior.signal then
    some (p.boot + p.behavior.delayMs * msNanos)
  else none

/-- Whether its port is taken at `t`: while it listens, and as long after it is
gone as its behaviour holds the port. -/
def holdsPort (p : PreviewProcess) (t : Nat) : Bool :=
  match p.readyAt with
  | some r => p.behavior.listen && r ≤ t && r < p.gone && t < p.gone + p.behavior.holdPortMs * msNanos
  | none => false

/-- What it has written to its log by `t`. -/
def written (p : PreviewProcess) (t : Nat) : String :=
  let start := match p.loadError with
    | some e => e
    | none =>
      let env := match p.behavior.printEnv with
        | some name => name ++ "=" ++ p.printed.getD "<unset>" ++ "\n"
        | none => ""
      env ++ p.behavior.stdout ++ p.behavior.stderr
  let ready := match p.readyAt with
    | some r => if r ≤ t && r < p.gone then p.behavior.readyStdout else ""
    | none => ""
  if p.boot ≤ t && p.boot ≤ p.gone then start ++ ready else ""

end PreviewProcess

/-- The state of the simulated machine. -/
structure Machine where
  /-- The directory the guard runs in. -/
  cwd : String
  /-- The stand-ins' behaviour file. -/
  behaviors : Json := .null
  /-- Where the stand-in programs are installed, if they are. -/
  standInsDir : Option String := none
  /-- Paths that lead to the interpreter. -/
  interpreterLinks : List String := []
  /-- The guard's environment. -/
  env : List (String × String) := []
  tools : ToolSettings := {}
  /-- The calls each kind of stand-in has answered. -/
  calls : List (String × Nat) := []
  /-- The calls the stand-ins answered, in order, as `{kind, payload}`. -/
  requests : List Json := []
  endpoint : Option Endpoint := none
  /-- Ports something else holds. -/
  occupied : List Nat := []
  previews : List PreviewProcess := []
  /-- The port the system hands out when asked for any free one. -/
  freePort : Nat := 40999
  /-- Where previews log: the directory, and a file that overrides the name
  taken from the notebook and port. -/
  previewLogsDir : String := "logs"
  previewLogFile : Option String := none
  /-- The session endpoint's address, and how it is talked to. -/
  sessionUrl : String := ""
  http : HttpSettings := {}
  /-- Verdicts the last run of a notebook gave its charts, by chart name. -/
  exportCache : Option (String × List (String × ExportVerdict)) := none
  nextPid : Nat := 4100

/-- The names of the helper scripts among the stand-ins. -/
def standInScripts : List String := ["guard_execute.py", "guard_export.py", "guard_browse.py"]

namespace Machine

/-- A path taken from the machine's working directory. -/
def resolve (m : Machine) (p : String) : String := Path.join m.cwd p

/-- The value of a variable of the guard's environment. -/
def envVar (m : Machine) (k : String) : Option String := m.env.lookup k

/-- A path with a leading `~/` taken from the home directory. -/
def expandTilde (m : Machine) (p : String) : String :=
  if p.startsWith "~/" then
    match m.envVar "HOME" with
    | some h => Path.join h (String.ofList (p.toList.drop 2))
    | none => p
  else p

/-- Whether two paths name one entry. -/
def samePath (a b : String) : Bool := pathKey a == pathKey b

/-- Whether a path leads to the interpreter: a link made to it, or the system's
own interpreter. -/
def isInterpreter (m : Machine) (p : String) : Bool :=
  let q := m.resolve p
  m.interpreterLinks.any (samePath · q) ||
    ["/usr/bin/python3", "/usr/bin/python", "/usr/local/bin/python3", "/usr/local/bin/python"].any (samePath · q)

/-- Whether a directory of stand-ins is at a path. -/
def isStandInsDir (m : Machine) (p : String) : Bool :=
  match m.standInsDir with
  | some d => samePath d (m.resolve p)
  | none => false

/-- Whether a stand-in script is at a path. -/
def isStandInScript (m : Machine) (p : String) : Bool :=
  let q := m.resolve p
  match m.standInsDir, Path.parent? q, Path.fileName? q with
  | some d, some dir, some name => samePath d dir && standInScripts.contains name
  | _, _, _ => false

/-- Whether anything is at a path. -/
def present (m : Machine) (files : Workspace) (p : String) : Bool :=
  files.has (m.resolve p) || m.isInterpreter p || m.isStandInsDir p || m.isStandInScript p

/-- Whether a directory is at a path. -/
def isDirectory (m : Machine) (files : Workspace) (p : String) : Bool :=
  files.isDir (m.resolve p) || m.isStandInsDir p

/-- The interpreter the settings name: `auto` (or nothing) looks at
`MARIMO_GUARD_PYTHON`, then at the project's `.venv`, then takes `python3`
from the search path; any other name is used as it is, with `~/` expanded. -/
def interpreter (m : Machine) (files : Workspace) : String :=
  let raw := String.ofList ((m.tools.pythonExe.toList.dropWhile Char.isWhitespace).reverse.dropWhile
    Char.isWhitespace).reverse
  if raw.isEmpty || raw.toLower == "auto" then
    let fromEnv := (m.envVar "MARIMO_GUARD_PYTHON").bind fun v =>
      let p := m.expandTilde v
      if m.present files p then some p else none
    match fromEnv with
    | some p => p
    | none => if m.present files ".venv/bin/python" then ".venv/bin/python" else "python3"
  else m.expandTilde raw

/-- Why a program cannot be started, in the system's words; none when it can.
A bare name is looked up on the search path, which holds the interpreter. -/
def startProblem (m : Machine) (files : Workspace) (program : String) : Option String :=
  if !program.contains '/' then
    if program == "python3" || program == "python" then none else some notFound
  else if m.isInterpreter program then none
  else if files.has (m.resolve program) || m.isStandInsDir program then some permissionDenied
  else some notFound

/-- The directory put first on the module path: the scripts directory, when it
is one. -/
def helpersDir (m : Machine) (files : Workspace) : Option String :=
  if m.isDirectory files m.tools.scriptsDir then some (keyPath (pathKey (m.resolve m.tools.scriptsDir)))
  else none

/-- The module path the tool runs with. -/
def modulePath (m : Machine) (files : Workspace) : Option String :=
  (m.helpersDir files).map fun d =>
    match m.envVar "PYTHONPATH" with
    | some rest => if rest.isEmpty then d else d ++ ":" ++ rest
    | none => d

/-- Whether the tool's module can be loaded: only the stand-in can. -/
def moduleFound (m : Machine) (files : Workspace) : Bool :=
  m.tools.module == "fakemarimo" && ((m.helpersDir files).any m.isStandInsDir)

/-- What the interpreter writes when the tool's module cannot be loaded. -/
def moduleMissing (m : Machine) (files : Workspace) : String :=
  let exe := m.interpreter files
  let shown := if exe.contains '/' then keyPath (pathKey (m.resolve exe)) else "/usr/bin/" ++ exe
  shown ++ ": No module named " ++ m.tools.module ++ "\n"

/-- The value a stand-in sees for a variable: the module path as the tool runs
with it, else the guard's environment. -/
def seenVar (m : Machine) (files : Workspace) (name : String) : Option String :=
  if name == "PYTHONPATH" then m.modulePath files else m.envVar name

/-- How many calls a kind of stand-in has answered. -/
def callsOf (m : Machine) (kind : String) : Nat := (m.calls.lookup kind).getD 0

/-- The machine with one more call of a kind answered and recorded. -/
def record (m : Machine) (kind : String) (payload : Json) : Machine :=
  { m with calls := (kind, m.callsOf kind + 1) :: m.calls.filter (·.1 != kind),
           requests := m.requests ++ [Json.object [("kind", .str kind), ("payload", payload)]] }

/-- Whether something listens on a port at `t`. -/
def listening (m : Machine) (port : Nat) (t : Nat) : Bool :=
  m.occupied.contains port || (m.endpoint.any (·.port == port)) || m.previews.any (·.holdsPort t)

/-- A port free at `t`: the preferred one when it is free, else the one the
system hands out. -/
def pickPort (m : Machine) (t : Nat) (preferred : Option Nat) : Nat :=
  match preferred with
  | some p => if m.listening p t then m.freePort else p
  | none => m.freePort

end Machine

/-- The bounds a call runs under: when it starts, how long it may take, and
when its flag is raised, if it ever is. -/
structure Bounds where
  now : Nat
  timeout : Nat
  cancelAt : Option Nat := none

/-- How waiting on a process ends. -/
inductive WaitEnd where
  | finished
  | timedOut
  | cancelled
  deriving DecidableEq

/-- Waiting on a process that ends at `finish`: it is seen to end, or it is
stopped when its time is up or when its flag is raised; at one moment, ending
is seen first and the timeout before the flag. Also when the wait returns. -/
def waitOn (b : Bounds) (finish : Nat) : WaitEnd × Nat :=
  let deadline := b.now + b.timeout
  let flagged := b.cancelAt.map (max b.now)
  let stop := match flagged with
    | some c => if deadline ≤ c then (WaitEnd.timedOut, deadline) else (WaitEnd.cancelled, c)
    | none => (WaitEnd.timedOut, deadline)
  if finish ≤ stop.2 && finish < deadline && b.cancelAt.all (b.now < ·) then (.finished, max finish b.now)
  else stop

/-- The failure of a wait that did not see the process end. -/
def WaitEnd.failure (e : WaitEnd) (timeout : Nat) : Failure :=
  match e with
  | .cancelled => Failure.ofRun .cancelled
  | _ => Failure.ofRun (.probeTimeout "subprocess" (Duration.ofNanos timeout))

end NotebookGuard
