import NotebookGuard.Machine.Basic
import NotebookGuard.Project
import NotebookGuard.Report.Basic

/-!
# The notebook engine on a simulated machine

The engine lints a notebook with `python -m <module> check <notebook>` and
runs the three helper scripts with a JSON request on their input. On the
machine, the tool is the stand-in when its module is the stand-in's and the
scripts directory holds it, and each helper is the stand-in script of its
name. A stand-in records its call once it has started, sleeps as its
behaviour says, and then answers: the lint with its exit code and streams
(`-1` when it killed itself), a helper with its JSON, or by failing.

A helper that exits with a failure gives `python script failed`, with what it
wrote to its error stream; an answer that does not read as the expected JSON
names the script it came from. The export cache keeps the verdicts the last
run of a notebook gave; exporting asks the export helper only for the charts
without one, and not at all when none is missing.
-/

namespace NotebookGuard

/-- How a call to the machine ended: the machine and files after it, when it
returned, and its result. -/
structure MachineCall (α : Type) where
  machine : Machine
  files : Workspace
  endsAt : Nat
  result : Except Failure α

/-- What the export helper answers: a verdict per chart name, or the error of
the whole batch. -/
structure ExportBatch where
  results : List (String × ExportVerdict) := []
  error : Option String := none

/-- Reads an export batch; every field may be left out. -/
def Reader.exportBatch : Reader ExportBatch :=
  Reader.record "ExportBatchOut" {} [
    { name := "results", read := fun x => do return { x with results := ← Reader.strMap Reader.exportVerdict } },
    { name := "error", read := fun x => do return { x with error := ← Reader.optional Reader.string } }]

/-- The request of a browser session, as the helper reads it. -/
def BrowseRequest.toJson (r : BrowseRequest) : Json :=
  Json.object [("url", .str r.url), ("timeout_ms", Json.nat r.timeoutMs), ("dom_samples", Json.nat r.domSamples),
    ("sample_interval_ms", Json.nat r.sampleIntervalMs),
    ("selectors", Json.object (r.selectors.map fun (k, v) => (k, Json.texts v))),
    ("screenshot_path", .str r.screenshotPath), ("html_path", .str r.htmlPath)]

namespace Machine

/-- The text of a program name as the system quotes it. -/
def quotedProgram (p : String) : String :=
  "\"" ++ String.join (p.toList.map fun c =>
    if c = '"' then "\\\"" else if c = '\\' then "\\\\" else c.toString) ++ "\""

/-- The log directory of a notebook's project, as the helpers are told it. -/
def logsDirFor (m : Machine) (files : Workspace) (notebook : String) : String :=
  Path.join (files.projectRoot m.cwd notebook) m.tools.logsDir

/-- Runs a stand-in of `kind` under bounds, with the behaviour of its call:
how the wait ended and when, and the machine with the call recorded when the
stand-in got to start. -/
def runStandIn (m : Machine) (b : Bounds) (kind : String) (payload : Json) :
    Machine × Behavior × WaitEnd × Nat :=
  let beh := Behavior.pick m.behaviors kind (m.callsOf kind)
  let boot := b.now + bootTime
  let ended := waitOn b (boot + beh.sleepMs * msNanos)
  let m := if boot ≤ ended.2 then m.record kind payload else m
  (m, beh, ended.1, ended.2)

/-- The engine's lint of a notebook. -/
def lint (m : Machine) (files : Workspace) (b : Bounds) (notebook : String) : MachineCall CheckOutput :=
  let exe := m.interpreter files
  let within (f : Failure) : Failure := f.within "marimo check"
  match m.startProblem files exe with
  | some io =>
    ⟨m, files, b.now, .error (within ((({ cause := .other io } : Failure)).within ("spawning " ++ quotedProgram exe)))⟩
  | none =>
    if !m.moduleFound files then
      match waitOn b (b.now + bootTime) with
      | (.finished, t) => ⟨m, files, t, .ok { rc := 1, stderr := m.moduleMissing files }⟩
      | (e, t) => ⟨m, files, t, .error (within (e.failure b.timeout))⟩
    else
      let (m, beh, e, t) := m.runStandIn b "marimo_check" (Json.texts ["check", notebook])
      match e with
      | .finished =>
        let env := match beh.printEnv with
          | some name => name ++ "=" ++ (m.seenVar files name).getD "<unset>" ++ "\n"
          | none => ""
        ⟨m, files, t, .ok { rc := if beh.signal then -1 else beh.rc, stdout := env ++ beh.stdout,
                            stderr := beh.stderr }⟩
      | e => ⟨m, files, t, .error (within (e.failure b.timeout))⟩

/-- Runs a helper script with a request: the behaviour it answered with and
its output, once it has ended well. The request is recorded without its
`timeout_ms`. -/
def runHelper (m : Machine) (files : Workspace) (b : Bounds) (kind name : String) (request : Json) :
    MachineCall (Behavior × String) :=
  let script := Path.join m.tools.scriptsDir name
  if !(files.isFile (m.resolve script) || m.isStandInScript script) then
    ⟨m, files, b.now, .error (Failure.msg ("missing helper script: " ++ script))⟩
  else
    let exe := m.interpreter files
    match m.startProblem files exe with
    | some io => ⟨m, files, b.now, .error (({ cause := .other io } : Failure).within ("spawning python: " ++ script))⟩
    | none =>
      let (m, beh, e, t) := m.runStandIn b kind (request.erase "timeout_ms")
      match e with
      | .finished =>
        if beh.signal || beh.rc != 0 then
          ⟨m, files, t, .error (Failure.msg ("python script failed: " ++ script ++ "\n" ++ beh.stderr))⟩
        else
          let fallback := match kind with
            | "execute" => Json.object [("ok", .bool true), ("outputs_len", Json.nat 1), ("defs_len", Json.nat 1)]
            | "export" => Json.object [("results", Json.object [])]
            | _ => Json.object []
          let text := match beh.raw with
            | some r => r
            | none => (beh.out.getD fallback).compact
          ⟨m, files, t, .ok (beh, text)⟩
      | e => ⟨m, files, t, .error (e.failure b.timeout)⟩

/-- Reads a helper's output as the JSON it must be. -/
def readOutput (script : String) (d : Reader α) (text : String) : Except Failure α :=
  match decodeText d text with
  | .ok v => .ok v
  | .error e => .error (({ cause := .json e } : Failure).within ("parsing python JSON output: " ++ script))

/-- The verdicts a notebook run carries, by chart name: those of its charts,
then those of the charts a scan found. -/
def carriedVerdicts (out : Execution) : List (String × ExportVerdict) :=
  (out.charts ++ out.heuristic).filterMap fun c => c.export?.map (c.name, ·)

/-- The engine's run of a notebook. The stand-in may write the self-test
artifact or delete the notebook on the side. -/
def runNotebook (m : Machine) (files : Workspace) (b : Bounds) (notebook : String) : MachineCall Execution :=
  let logsDir := m.logsDirFor files notebook
  let request := Json.object [("notebook", .str notebook), ("logs_dir", .str logsDir),
    ("export", .bool m.tools.exportOnExecute)]
  let c := m.runHelper files b "execute" "guard_execute.py" request
  match c.result with
  | .error f => { c with result := .error f }
  | .ok (beh, text) =>
    let files := match beh.selftest with
      | some st => ((c.files.place (m.resolve (selftestPath logsDir notebook)) st.toUTF8).toOption).getD c.files
      | none => c.files
    let files := if beh.deleteNotebook then ((files.removeFile (m.resolve notebook)).toOption).getD files else files
    let script := Path.join m.tools.scriptsDir "guard_execute.py"
    match readOutput script Reader.execution text with
    | .ok out =>
      ⟨{ c.machine with exportCache := some (notebook, carriedVerdicts out) }, files, c.endsAt, .ok out⟩
    | .error f => ⟨c.machine, files, c.endsAt, .error f⟩

/-- The cached verdicts for charts of a notebook, none where the last run gave
none. The notebook is compared component by component, and of two verdicts
for one name the later one counts. -/
def cachedVerdicts (m : Machine) (notebook : String) (charts : List Chart) : List (Option ExportVerdict) :=
  match m.exportCache with
  | some (nb, verdicts) =>
    if Path.same nb notebook then charts.map (verdicts.reverse.lookup ·.name) else charts.map fun _ => none
  | none => charts.map fun _ => none

/-- The engine's offline export of charts: one verdict per chart, in order. -/
def exportAll (m : Machine) (files : Workspace) (b : Bounds) (notebook : String) (charts : List Chart) :
    MachineCall (List ExportVerdict) :=
  let cached := m.cachedVerdicts notebook charts
  let missing := (charts.zip cached).filterMap fun (c, v) => if v.isNone then some c else none
  let finish (vs : List (Option ExportVerdict)) : List ExportVerdict := vs.map (·.getD ExportVerdict.missing)
  if missing.isEmpty then ⟨m, files, b.now, .ok (finish cached)⟩
  else
    let request := Json.object [("notebook", .str notebook), ("logs_dir", .str (m.logsDirFor files notebook)),
      ("charts", .arr (missing.map fun c => Json.object [("name", .str c.name),
        ("library", .str c.library.name), ("handle", c.handle)]))]
    let c := m.runHelper files b "export" "guard_export.py" request
    match c.result with
    | .error f => { c with result := .error f }
    | .ok (_, text) =>
      match readOutput (Path.join m.tools.scriptsDir "guard_export.py") Reader.exportBatch text with
      | .error f => { c with result := .error f }
      | .ok batch =>
        match batch.error with
        | some err => { c with result := .error (Failure.msg ("export run failed: " ++ err)) }
        | none =>
          let vs := (charts.zip cached).map fun (ch, v) => v.orElse fun _ => batch.results.lookup ch.name
          { c with result := .ok (finish vs) }

/-- The engine's browser session; the stand-in may write its two snapshots. -/
def browseWith (m : Machine) (files : Workspace) (b : Bounds) (req : BrowseRequest) : MachineCall BrowseOutput :=
  let c := m.runHelper files b "browse" "guard_browse.py" req.toJson
  match c.result with
  | .error f => { c with result := .error f }
  | .ok (beh, text) =>
    let snap (w : Workspace) (p : String) : Workspace :=
      ((w.place (m.resolve p) "snapshot".toUTF8).toOption).getD w
    let files := if beh.writeSnapshots then snap (snap c.files req.screenshotPath) req.htmlPath else c.files
    { c with files, result := readOutput (Path.join m.tools.scriptsDir "guard_browse.py") Reader.browseOutput text }

end Machine

end NotebookGuard
