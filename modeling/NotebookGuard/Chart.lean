import NotebookGuard.Text.Blank
import NotebookGuard.PhaseResult

/-!
# Charts and the chart registry

A chart is known by name, the library that drew it, an opaque handle that only
the exporter looks into, and string metadata. The registry of a run keeps the
charts a notebook registered, in registration order (registering a name again
replaces the chart in place), and the candidates a module scan found, each
marked as found by the scan.
-/

namespace NotebookGuard

/-- The library a chart was drawn with. -/
inductive ChartLibrary where
  | altair
  | plotly
  | bokeh
  | matplotlib
  | other
  deriving DecidableEq, Repr

namespace ChartLibrary

/-- The name of a library. -/
def name : ChartLibrary → String
  | .altair => "altair"
  | .plotly => "plotly"
  | .bokeh => "bokeh"
  | .matplotlib => "matplotlib"
  | .other => "other"

/-- All libraries, in declared order. -/
def all : List ChartLibrary := [.altair, .plotly, .bokeh, .matplotlib, .other]

/-- The library of a tag as a notebook reports it: trimmed, in small letters,
up to its first dot. Vega-Lite is drawn by Altair. -/
def ofTag (tag : String) : ChartLibrary :=
  let root := ((asciiLower (trimBlanks tag)).splitOn ".").headD ""
  if root == "altair" || root == "vegalite" || root == "vega_lite" then .altair
  else if root == "plotly" then .plotly
  else if root == "bokeh" then .bokeh
  else if root == "matplotlib" then .matplotlib
  else .other

end ChartLibrary

/-- A chart a notebook drew. -/
structure Chart where
  name : String
  library : ChartLibrary
  handle : Json := .null
  metadata : List (String × String) := []

namespace Chart

/-- Who found the chart: its `source` metadata, else the registry. -/
def source (c : Chart) : String := (c.metadata.lookup "source").getD "registry"

/-- JSON of a chart. -/
def toJson (c : Chart) : Json :=
  Json.object [("name", .str c.name), ("library", .str c.library.name), ("handle", c.handle),
    ("metadata", .obj (c.metadata.map fun (k, v) => (k, .str v)))]

end Chart

/-- The charts of one run. -/
structure Registry where
  /-- Registered charts, in registration order, one per name. -/
  registered : List Chart := []
  /-- Candidates found by a module scan. -/
  heuristic : List Chart := []

namespace Registry

/-- Registers a chart; a missing `source` becomes `registry`. A name already
registered keeps its place and takes the new chart. -/
def register (r : Registry) (name : String) (lib : ChartLibrary) (handle : Json)
    (metadata : List (String × String)) : Registry :=
  let metadata := if (metadata.lookup "source").isSome then metadata else putSorted "source" "registry" metadata
  let c : Chart := { name, library := lib, handle, metadata }
  if r.registered.any (·.name == name) then
    { r with registered := r.registered.map fun d => if d.name == name then c else d }
  else { r with registered := r.registered ++ [c] }

/-- Keeps the candidates of a module scan, each marked as found by it. -/
def recordHeuristic (r : Registry) (cs : List Chart) : Registry :=
  { r with heuristic := cs.map fun c => { c with metadata := putSorted "source" "heuristic" c.metadata } }

/-- Forgets every chart. -/
def clear (_ : Registry) : Registry := {}

/-- Whether no chart was registered. -/
def isEmpty (r : Registry) : Bool := r.registered.isEmpty

end Registry

namespace Reader

/-- A library, by name. -/
def chartLibrary : Reader ChartLibrary := unitVariant (ChartLibrary.all.map fun l => (l.name, l))

/-- A map of strings. -/
def stringMap : Reader (List (String × String)) := strMap string

/-- A chart: name, library and handle are required. -/
def chart : Reader Chart :=
  record "ChartDescriptor" { name := "", library := .other } [
    { name := "name", required := true, read := fun c => do return { c with name := ← string } },
    { name := "library", required := true,
      read := fun c => do return { c with library := ← chartLibrary } },
    { name := "handle", required := true, read := fun c => do return { c with handle := ← json } },
    { name := "metadata", read := fun c => do return { c with metadata := ← stringMap } }]

end Reader

end NotebookGuard
