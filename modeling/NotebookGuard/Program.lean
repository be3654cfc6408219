import NotebookGuard.Cli.Help
import NotebookGuard.Cli.Resolve
import NotebookGuard.Pipeline
import NotebookGuard.GuardLoop
import NotebookGuard.Watch
import NotebookGuard.Recovery
import NotebookGuard.Stage

/-!
# The guard program

`marimo-guard` reads its command line, settles its configuration, opens its
log file when asked, and runs `check` (validate once), `loop` (validate until a
round passes, recovering between rounds) or `watch` (validate on every change
until interrupted). A command-line error or help request prints its text; any
other failure prints `marimo-guard: ` and the failure, which decides the exit
code.

The interrupt handler runs on a thread of its own. Threads get the stack size
`RUST_MIN_STACK` asks for; when the system refuses that stack it refuses every
thread, so the handler is missing and the first phase that runs a probe
crashes.
-/

namespace NotebookGuard

namespace GuardProgram

/-- The editor's port after a passing check when none is given, if it is free. -/
def defaultEditPort : Nat := 2731

/-- Prints a report: as JSON, or whether it passed with why not, then its
warnings and where it was written. -/
def printReport (r : Report) (json : Bool) (path : Option String) : Act Unit := do
  if json then say (Json.pretty "" r.toJson)
  else
    say (if r.ok then "OK" else "FAILED\n" ++ r.failureSummary)
    for w in r.warnings do say ("warning: " ++ w)
    if let some p := path then say ("report: " ++ p)

/-- Where the report of a notebook is written, when reports are written. -/
def writtenReport (c : Config) (notebook : String) : Act (Option String) := do
  if c.output.writeReport then return some (reportPath (logsDirOf c (← get) notebook) notebook)
  return none

/-- The port to open the editor on: the one given, or a free one, the default
if it is free. -/
def editPort (port : Option Nat) : Act Nat :=
  match port with
  | some p => pure p
  | none => pickFreePort (some defaultEditPort)

/-- Validates once, prints the report, and opens the editor after a passing
report when asked: the exit code. -/
def check (c : Config) (notebook : String) (launch : Bool) (port : Option Nat) : Act Nat := do
  let report ← validationRun c notebook
  printReport report c.output.json (← writtenReport c notebook)
  if !report.ok then return report.exitCode
  if launch then
    let p ← editPort port
    match ← Act.attempt (spawnEditor p) with
    | .ok (url, _) => say ("launched: " ++ url)
    | .error f => Act.failWith (.launchFailed f.message)
  return 0

/-- The recovery step of a command template: the template run in the shell
for the notebook, with the report of the failed round. -/
def recoveryStep (template notebook : String) (limit : Duration) : RecoveryStep := fun _ path =>
  match recoveryOutcome (commandLine template notebook) path limit with
  | .ok code => return code.map Int.ofNat
  | .error e => Act.failWith e

/-- The guard loop a configuration sets for a notebook, with its iteration
reports kept under `logsDir`. -/
def guardLoopFor (c : Config) (notebook logsDir : String) : GuardLoop :=
  { maxIters := c.guardLoop.maxIters, pause := c.guardLoop.sleepSeconds * 1000 * msNanos,
    recovery := if c.guardLoop.recoveryCmd.trimAscii.isEmpty then none
      else some (recoveryStep c.guardLoop.recoveryCmd notebook (Duration.ofSecs c.guardLoop.recoveryTimeoutSeconds)),
    iterationReports := if c.output.writeIterationReports then some (logsDir, notebook) else none }

/-- The exit code of a stopped loop: 0 when a round passed, 130 when
interrupted, 1 otherwise. -/
def loopExitCode (s : LoopState) : Nat :=
  match s.stoppedReason with
  | some .success => 0
  | some .external => 130
  | _ => 1

/-- Validates until a round passes or the rounds run out, and prints the last
report: the exit code. -/
def loop (c : Config) (notebook : String) : Act Nat := do
  let g := guardLoopFor c notebook (logsDirOf c (← get) notebook)
  let s ← g.run fun _ => validationRun c notebook
  if let some r := s.lastReport then printReport r c.output.json (← writtenReport c notebook)
  return loopExitCode s

/-- How many waits for a change a watch may make. -/
def watchRounds : Nat := 10000

/-- Keeps an editor preview up and validates on every change until the run is
interrupted. -/
def watch (c : Config) (notebook : String) (noValidate : Bool) : Act Nat := do
  let c := if noValidate then { c with watch.validateOnChange := false } else c
  let root := projectRootOf (← get) notebook
  let logFile := c.watch.logFile.trimAscii.toString
  modify fun w => w.withMachine fun m =>
    { m with previewLogsDir := Path.join root c.paths.logsDir,
             previewLogFile := if logFile.isEmpty then none else some logFile }
  let wt : Watcher :=
    { notebook, port := c.watch.port, debounce := c.watch.debounceMs * msNanos, poll := c.watch.pollMs * msNanos,
      validateOnChange := c.watch.validateOnChange, watchImports := c.watch.watchImports }
  discard (wt.run (validationRun c notebook) watchRounds)
  return 0

/-- Opens the log file for appending, creating it and its directory. -/
def openLog (c : Config) (root : String) : Act Unit := do
  let path := if c.logging.filePath.isEmpty then Path.join (Path.join root c.paths.logsDir) "marimo-guard.log"
    else c.logging.filePath
  let here := Path.join (← get).cwd
  if let some d := Path.parent? path then
    Act.within ("create_dir_all " ++ d) (updateFiles (·.createDirAll (here d)))
  Act.within ("open log file: " ++ path) <| updateFiles fun fs =>
    if fs.isFile (here path) then .ok fs else fs.write (here path) ByteArray.empty

/-- Opens the log file when the configuration asks for one, and hands the
configuration to the machine. -/
def prepare (c : Config) (root : String) : Act Unit := do
  if c.logging.writeToFile then openLog c root
  modify fun w => w.withMachine (·.configure c root)

/-- Runs the command of a command line with its configuration: the exit code. -/
def runCommand (c : Config) (a : GuardArgs) : Act Nat :=
  match a.command with
  | .check _ launch port => check c a.notebook launch port
  | .loop .. => loop c a.notebook
  | .watch _ _ noValidate => watch c a.notebook noValidate

/-- Runs a read command line: the exit code. -/
def dispatch (a : GuardArgs) : Act Nat := do
  let w ← get
  let c ← match a.resolveConfig w.files w.cwd (fun k => w.machine.bind (·.envVar k)) with
    | .ok c => pure c
    | .error e => Act.failWith e
  prepare c (projectRootOf w a.notebook)
  runCommand c a

/-- The stack size threads get when `RUST_MIN_STACK` reads as one: decimal
digits, perhaps after a plus sign, within 64 bits, and no blanks. -/
def requestedStack (raw : String) : Option Nat :=
  if raw.any isBlank then none else parseCount raw

/-- How the system answers a request for a thread whose stack is `size` bytes:
a size within a page of the end of memory wraps around and is invalid, one the
address space (2^47 bytes) cannot hold is refused for want of resources, and
any other is granted. -/
def stackRefusal (size : Nat) : Option String :=
  if Nat.pow 2 64 - 4096 ≤ size then some "Invalid argument (os error 22)"
  else if Nat.pow 2 47 ≤ size then some "Resource temporarily unavailable (os error 11)"
  else none

/-- The world once the program has asked for the interrupt handler's thread.
When the system refuses it, it refuses every later thread too; the program says
so on its error stream, and an interrupt no longer cancels anything. -/
def withInterruptHandler (w : World) : World :=
  let stack := (w.machine.bind (·.envVar "RUST_MIN_STACK")).bind requestedStack
  match w.threadRefusal.or (stack.bind stackRefusal) with
  | none => w
  | some e =>
    let line := "marimo-guard: cannot install signal handler: Ctrl-C error: Unexpected system error\n"
    { w with threadRefusal := some e, interruptAt := none, console := w.console ++ [(w.clock, true, line)] }

/-- Runs the program on the words after its name: the exit code. -/
def run (words : List String) : Act Nat := do
  match GuardArgs.parse words with
  | .error e =>
    writeTo (!e.toStdout) e.text
    return e.exitCode
  | .ok a =>
    modify withInterruptHandler
    match ← Act.attempt (dispatch a) with
    | .ok code => return code
    | .error f =>
      writeTo true ("marimo-guard: " ++ f.message ++ "\n")
      return f.exitCode

/-- Runs the program in a world: the exit code and the world it leaves; a
failure that escapes the run ends it with that failure's exit code. -/
def outcome (w : World) (words : List String) : Nat × World :=
  match ((run words).run).run w with
  | (.ok code, w) => (code, w)
  | (.error f, w) => (f.exitCode, w)

end GuardProgram

end NotebookGuard
