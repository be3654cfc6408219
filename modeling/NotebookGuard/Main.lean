import NotebookGuard.Program

/-!
# The command line

`marimo-guard` runs over the files of its working directory. They are read
into a file tree, hidden directories and caches left out, and the program runs
in a world that holds them and the guard's environment variables. What it
printed is then written to the standard streams, the files it wrote or changed
are saved, and its exit code is the process's.

The world's machine has no notebook engine installed, so the phases that need
one find it missing, as on a machine without it.
-/

namespace NotebookGuard

namespace GuardCommand

/-- The environment variables the guard and its runtime read. -/
def guardVariables : List String :=
  ["HOME", "PYTHONPATH", "RUST_MIN_STACK", "MARIMO_GUARD_PYTHON", "MARIMO_GUARD_MCP_URL"] ++
    ["FAIL_ON_WARN", "MCP_STRICT", "REQUIRE_ARTIFACT", "UI_STRICT", "USE_MCP", "VISUAL_STRICT",
     "MCP_WAIT_SECONDS", "UI_PORT", "UI_TIMEOUT"].map ("MARIMO_GUARD_" ++ ·)

/-- Whether a directory is left out of the tree: hidden ones and caches. -/
def skipped (name : String) : Bool :=
  name.startsWith "." || name == "__pycache__" || name == "node_modules"

/-- The files under the working directory as a file tree based there. -/
def readTree : IO Workspace := do
  let here ← IO.currentDir
  let paths ← here.walkDir fun d => return d == here || !skipped (d.fileName.getD "")
  let mut fs : Workspace := { base := pathKey here.toString }
  for p in paths do
    if !(← p.isDir) then
      if let .ok w := fs.place p.toString (← IO.FS.readBinFile p) then fs := w
  return fs

/-- Saves the files of `after` that are new or changed since `before`. -/
def saveChanges (before after : Workspace) : IO Unit := do
  for rel in after.files do
    let full := Path.join after.basePath rel
    if let .ok b := after.read full then
      let same := match before.read full with
        | .ok old => old.data == b.data
        | .error _ => false
      if !same then
        if let some d := Path.parent? full then IO.FS.createDirAll d
        IO.FS.writeBinFile full b

/-- The time now, in nanoseconds since 1970: the boot time the kernel gives,
plus the monotonic clock, which counts from boot; zero when the kernel gives
no boot time. -/
def wallClock : IO Nat := do
  let stat ← try IO.FS.readFile "/proc/stat" catch _ => pure ""
  let boot := (stat.splitOn "\n").findSome? fun line =>
    if line.startsWith "btime " then (line.drop 6).toString.trimAscii.toString.toNat? else none
  match boot with
  | some b => return b * 1000000000 + (← IO.monoNanosNow)
  | none => return 0

/-- Runs the guard on the command line's words over the working directory:
the process's exit code. -/
def run (args : List String) : IO UInt32 := do
  let files ← readTree
  let cwd := files.basePath
  let env ← guardVariables.filterMapM fun k => return (← IO.getEnv k).map (k, ·)
  let w : World := { clock := ← wallClock, files, freePort := 40999, cwd, machine := some { cwd, env } }
  let (code, w') := GuardProgram.outcome w args
  let out ← IO.getStdout
  let err ← IO.getStderr
  for (_, toErr, text) in w'.console do
    if toErr then err.putStr text else out.putStr text
  out.flush
  saveChanges files w'.files
  return code.toUInt32

end GuardCommand

end NotebookGuard

/-- Runs the guard on the command line's words. -/
def main (args : List String) : IO UInt32 := NotebookGuard.GuardCommand.run args
