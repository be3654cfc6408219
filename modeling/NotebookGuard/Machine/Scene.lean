import NotebookGuard.Machine.Basic
import NotebookGuard.Config.Basic

/-!
# Scenes

A scene is the setting of a run on a simulated machine: a project directory
with its files, the stand-ins installed in it and how they behave, links to
the interpreter, the guard's environment, a scripted HTTP endpoint, and ports
other programs hold. A scene has a JSON form; its files are given as text or
as `{"hex": ...}`.

Setting a scene up writes `pyproject.toml` (when asked), then the notebook
(from its source, or a small default when neither a source nor other files are
given), then the other files. The stand-ins' own files are not part of the
project's files.
-/

namespace NotebookGuard

/-- The setting of a run on a simulated machine. -/
structure Scene where
  /-- The project directory, where the guard runs. -/
  dir : String
  installStandIns : Bool := true
  /-- Where the stand-ins are installed, relative to the directory. -/
  standInsAt : String := "scripts"
  pyproject : Bool := true
  notebook : String := "demo.py"
  notebookSource : Option String := none
  files : List (String × ByteArray) := []
  /-- Whether other files were given. -/
  hasFiles : Bool := false
  behaviors : Json := .null
  /-- Whether the project has a virtual environment with the interpreter. -/
  venv : Bool := false
  /-- A path made a link to the interpreter. -/
  pythonLink : Option String := none
  env : List (String × String) := []
  endpoint : Option Endpoint := none
  occupied : List Nat := []

/-- The notebook written when a scene gives none. -/
def defaultNotebook : String := "import marimo\napp = marimo.App()\n"

/-- The value of a hexadecimal digit. -/
def hexDigit (c : Char) : Option Nat :=
  if c.isDigit then some (c.toNat - '0'.toNat)
  else if 'a' ≤ c && c ≤ 'f' then some (c.toNat - 'a'.toNat + 10)
  else if 'A' ≤ c && c ≤ 'F' then some (c.toNat - 'A'.toNat + 10)
  else none

/-- Bytes from digit values taken two at a time, high digit first. -/
def hexPairs : List Nat → List UInt8
  | a :: b :: rest => (a * 16 + b).toUInt8 :: hexPairs rest
  | _ => []

/-- Bytes given as text, or as hexadecimal digits under `hex`. -/
def bytesOfJson (j : Json) : Except String ByteArray :=
  match j with
  | .str s => .ok s.toUTF8
  | _ =>
    match (j.get? "hex").bind Json.getStr? with
    | some h =>
      let ds : List (Option Nat) := h.toList.map hexDigit
      if h.length % 2 != 0 || ds.any Option.isNone then .error "bad hex"
      else .ok (ByteArray.mk (hexPairs (ds.map fun d => d.getD 0)).toArray)
    | none => .error "bytes must be a string or a hex object"

/-- A reply of a route from its JSON form. -/
def Reply.ofJson (j : Json) : Reply :=
  { status := ((j.get? "status").bind Json.getNat?).getD 200, body := Reply.bodyOf (j.get? "body"),
    delayMs := ((j.get? "delay_ms").bind Json.getNat?).getD 0 }

/-- A route from its JSON form. -/
def Route.ofJson (j : Json) : Route :=
  { method := ((j.get? "method").bind Json.getStr?).getD "GET",
    path := ((j.get? "path").bind Json.getStr?).getD "/",
    replies := (((j.get? "responses").bind Json.getArr?).getD []).map Reply.ofJson }

namespace Scene

/-- A scene from its JSON form, in a directory; the endpoint, if the scene has
one, listens on `endpointPort`. -/
def ofJson (dir : String) (endpointPort : Nat) (j : Json) : Except String Scene := do
  let text (k : String) : Option String := (j.get? k).bind Json.getStr?
  let flag (k : String) (d : Bool) : Bool := ((j.get? k).bind Json.getBool?).getD d
  let files ← ((j.get? "files").bind Json.getObj?).getD [] |>.mapM fun (k, v) => do
    return (k, ← bytesOfJson v)
  let env := ((j.get? "env").bind Json.getObj?).getD [] |>.filterMap fun (k, v) => v.getStr?.map (k, ·)
  let endpoint := (j.get? "server").map fun s =>
    { port := endpointPort, routes := (((s.get? "routes").bind Json.getArr?).getD []).map Route.ofJson }
  return { dir, installStandIns := flag "install_fakes" true, standInsAt := (text "scripts_dir").getD "scripts",
           pyproject := flag "pyproject" true, notebook := (text "notebook").getD "demo.py",
           notebookSource := text "notebook_source", files, hasFiles := (j.get? "files").isSome,
           behaviors := (j.get? "behavior").getD .null, venv := flag "venv" false,
           pythonLink := text "python_link", env, endpoint,
           occupied := ((j.get? "occupy_port").bind Json.getNat?).toList }

/-- The project's files and the machine of a scene. -/
def setup (s : Scene) : Except String (Workspace × Machine) := do
  let inDir (p : String) : String := Path.join s.dir p
  let mut w : Workspace := { base := pathKey s.dir }
  if s.pyproject then w ← w.place (inDir "pyproject.toml") ByteArray.empty
  match s.notebookSource with
  | some src => w ← w.place (inDir s.notebook) src.toUTF8
  | none => if !s.hasFiles then w ← w.place (inDir s.notebook) defaultNotebook.toUTF8
  for (p, b) in s.files do
    w ← w.place (inDir p) b
  let mut links : List String := []
  if s.venv then links := links ++ [inDir ".venv/bin/python"]
  if let some l := s.pythonLink then
    links := links ++ [inDir l]
    w ← w.place (inDir l) ByteArray.empty
  let m : Machine :=
    { cwd := s.dir, behaviors := s.behaviors, interpreterLinks := links, env := s.env,
      standInsDir := if s.installStandIns then some (inDir s.standInsAt) else none,
      endpoint := s.endpoint, occupied := s.occupied, previewLogsDir := inDir "logs" }
  return (w, m)

end Scene

/-- The project's files as a listing shows them: relative to the base, without
the stand-ins' bookkeeping (their scripts, recorded requests, the virtual
environment, the behaviour file and caches). -/
def Workspace.shownFiles (w : Workspace) : List String :=
  w.files.filter fun f =>
    !(["scripts/", "fake_requests/", ".venv/"].any (fun p => f.startsWith p) || f == "fake_behavior.json" ||
      (f.splitOn "/").contains "__pycache__")

namespace Machine

/-- The machine with its tools set up as a configuration says, for a project
at `root`. -/
def configure (m : Machine) (c : Config) (root : String) : Machine :=
  { m with tools := { pythonExe := c.engine.pythonExe, module := c.engine.marimoModule,
                      scriptsDir := c.engine.scriptsDir, logsDir := c.paths.logsDir,
                      exportOnExecute := c.visual.enabled },
           previewLogsDir := Path.join root c.paths.logsDir, sessionUrl := c.mcp.url,
           http := { timeoutMs := c.mcp.connectTimeoutSeconds * 1000, maxRetries := c.mcp.maxRetries } }

end Machine

end NotebookGuard
