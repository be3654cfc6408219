import NotebookGuard.Workspace
import NotebookGuard.Config.Document

/-!
# The project of a notebook

Paths may be relative; they are taken from a working directory. A notebook's
project root is the nearest directory, from the notebook's own resolved path
up, holding `.git` or `pyproject.toml`; without one it is the directory the
notebook names. A project may hold its configuration as `.marimo-guard.toml`
or `marimo-guard.toml` in its root, looked up in that order.
-/

namespace NotebookGuard

namespace Workspace

/-- A path taken from the working directory `cwd` when it is relative. -/
def resolve (cwd p : String) : String := Path.join cwd p

/-- Whether anything is at a path taken from `cwd`. -/
def present (w : Workspace) (cwd p : String) : Bool := w.has (resolve cwd p)

/-- The resolved path of an existing entry, or the path as given. -/
def canonical (w : Workspace) (cwd p : String) : String :=
  if w.present cwd p then keyPath (pathKey (resolve cwd p)) else p

/-- The project root of a notebook. -/
def projectRoot (w : Workspace) (cwd notebook : String) : String :=
  let start := w.canonical cwd notebook
  let marked (d : String) : Bool :=
    w.present cwd (Path.join d ".git") || w.present cwd (Path.join d "pyproject.toml")
  match (Path.ancestors start).find? marked with
  | some d => d
  | none => (Path.parent? start).getD "."

/-- The configuration file of a project root, if it has one. -/
def configFile? (w : Workspace) (cwd root : String) : Option String :=
  ([".marimo-guard.toml", "marimo-guard.toml"].map (Path.join root ·)).find? (w.present cwd ·)

/-- The configuration in the file at `path`; a failure names the step and the
path. -/
def loadConfig (w : Workspace) (cwd path : String) : Except String Config :=
  match w.readText (resolve cwd path) with
  | .error e => .error ("reading config: " ++ path ++ ": " ++ e)
  | .ok raw =>
    match Config.parse raw with
    | .ok c => .ok c
    | .error f => .error ("parsing TOML: " ++ path ++ ": " ++ f.message)

end Workspace

end NotebookGuard
