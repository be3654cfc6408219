import NotebookGuard.Chart

/-!
# What the notebook engine answers

The engine lints a notebook, runs it once, exports its charts offline, and
drives a browser over a live preview. These are the answers it gives, with the
readers for their JSON forms: every field but the ones named required may be
left out and takes its default.
-/

namespace NotebookGuard

/-- The outcome of the static lint: its exit code and its two streams. -/
structure CheckOutput where
  rc : Int := 0
  stdout : String := ""
  stderr : String := ""

/-- An offline export's verdict on one chart. -/
structure ExportVerdict where
  ok : Bool
  /-- The exporter for the chart's library is not installed. -/
  unavailable : Bool := false
  error : Option String := none
  /-- Notes that do not fail the export. -/
  warnings : List String := []

namespace ExportVerdict

/-- The verdict given to a chart the exporter said nothing about. -/
def missing : ExportVerdict := { ok := false, error := some "exporter returned no verdict" }

/-- A failed export with the given error. -/
def failed (e : String) : ExportVerdict := { ok := false, error := some e }

/-- JSON of a verdict. -/
def toJson (v : ExportVerdict) : Json :=
  Json.object [("ok", .bool v.ok), ("unavailable", .bool v.unavailable),
    ("error", match v.error with | some e => .str e | none => .null),
    ("warnings", Json.texts v.warnings)]

end ExportVerdict

/-- A chart as the notebook run reports it. -/
structure ChartReport where
  name : String
  lib : String := ""
  handle : Json := .null
  metadata : List (String × String) := []
  /-- The export verdict from the same run, when exports were asked for. -/
  export? : Option ExportVerdict := none

namespace ChartReport

/-- The chart the registry keeps for a report: its tag decides the library and
is kept in the metadata as `lib` when it is not empty. -/
def toChart (c : ChartReport) : Chart :=
  let metadata := if c.lib.isEmpty then c.metadata else putSorted "lib" c.lib c.metadata
  { name := c.name, library := ChartLibrary.ofTag c.lib, handle := c.handle, metadata }

end ChartReport

/-- The outcome of running a notebook once. -/
structure Execution where
  ok : Bool
  error : Option String := none
  outputsLen : Nat := 0
  defsLen : Nat := 0
  /-- Charts the notebook registered itself. -/
  charts : List ChartReport := []
  /-- Chart-like globals a module scan found. -/
  heuristic : List ChartReport := []

/-- What the browser is asked to do against a preview. -/
structure BrowseRequest where
  url : String
  timeoutMs : Nat
  domSamples : Nat
  sampleIntervalMs : Nat
  /-- Library tag to the selectors counted for it. -/
  selectors : List (String × List String)
  screenshotPath : String
  htmlPath : String

/-- What the browser saw. -/
structure BrowseOutput where
  /-- Browser automation is not installed. -/
  unavailable : Bool := false
  error : Option String := none
  consoleErrors : List String := []
  consoleWarnings : List String := []
  requestFailures : List String := []
  /-- Library tag to selector to the largest match count over all samples. -/
  dom : List (String × List (String × Nat)) := []
  screenshot : Option String := none
  html : Option String := none

namespace Reader

/-- An export verdict; only `ok` is required. -/
def exportVerdict : Reader ExportVerdict :=
  record "ExportOut" { ok := false } [
    { name := "ok", required := true, read := fun v => do return { v with ok := ← boolean } },
    { name := "unavailable", read := fun v => do return { v with unavailable := ← boolean } },
    { name := "error", read := fun v => do return { v with error := ← optional string } },
    { name := "warnings", read := fun v => do return { v with warnings := ← strings } }]

/-- A chart report; only `name` is required. -/
def chartReport : Reader ChartReport :=
  record "ChartOut" { name := "" } [
    { name := "name", required := true, read := fun c => do return { c with name := ← string } },
    { name := "lib", read := fun c => do return { c with lib := ← string } },
    { name := "handle", read := fun c => do return { c with handle := ← json } },
    { name := "meta", read := fun c => do return { c with metadata := ← stringMap } },
    { name := "export", read := fun c => do return { c with export? := ← optional exportVerdict } }]

/-- The outcome of a notebook run; only `ok` is required. -/
def execution : Reader Execution :=
  record "ExecuteOut" { ok := false } [
    { name := "ok", required := true, read := fun e => do return { e with ok := ← boolean } },
    { name := "error", read := fun e => do return { e with error := ← optional string } },
    { name := "outputs_len", read := fun e => do return { e with outputsLen := ← unsigned 64 } },
    { name := "defs_len", read := fun e => do return { e with defsLen := ← unsigned 64 } },
    { name := "charts", read := fun e => do return { e with charts := ← list chartReport } },
    { name := "heuristic", read := fun e => do return { e with heuristic := ← list chartReport } }]

/-- What the browser saw; every field may be left out. -/
def browseOutput : Reader BrowseOutput :=
  record "BrowseOut" {} [
    { name := "unavailable", read := fun b => do return { b with unavailable := ← boolean } },
    { name := "error", read := fun b => do return { b with error := ← optional string } },
    { name := "console_errors", read := fun b => do return { b with consoleErrors := ← strings } },
    { name := "console_warnings",
      read := fun b => do return { b with consoleWarnings := ← strings } },
    { name := "request_failures",
      read := fun b => do return { b with requestFailures := ← strings } },
    { name := "dom", read := fun b => do return { b with dom := ← strMap (strMap (unsigned 32)) } },
    { name := "screenshot", read := fun b => do return { b with screenshot := ← optional string } },
    { name := "html", read := fun b => do return { b with html := ← optional string } }]

end Reader

/-- JSON of an optional text: the text, or null. -/
def Json.optText : Option String → Json
  | some s => .str s
  | none => .null

/-- JSON of a lint outcome. -/
def CheckOutput.toJson (c : CheckOutput) : Json :=
  Json.object [("rc", Json.int c.rc), ("stdout", .str c.stdout), ("stderr", .str c.stderr)]

/-- JSON of a chart report; the verdict is written only when there is one. -/
def ChartReport.toJson (c : ChartReport) : Json :=
  Json.object ([("name", .str c.name), ("lib", .str c.lib), ("handle", c.handle),
    ("meta", .obj (c.metadata.map fun (k, v) => (k, .str v)))] ++
    c.export?.toList.map fun v => ("export", v.toJson))

/-- JSON of a notebook run, every field written. -/
def Execution.toJson (e : Execution) : Json :=
  Json.object [("ok", .bool e.ok), ("error", Json.optText e.error), ("outputs_len", Json.nat e.outputsLen),
    ("defs_len", Json.nat e.defsLen), ("charts", .arr (e.charts.map ChartReport.toJson)),
    ("heuristic", .arr (e.heuristic.map ChartReport.toJson))]

/-- JSON of what the browser saw, every field written. -/
def BrowseOutput.toJson (b : BrowseOutput) : Json :=
  Json.object [("unavailable", .bool b.unavailable), ("error", Json.optText b.error),
    ("console_errors", Json.texts b.consoleErrors), ("console_warnings", Json.texts b.consoleWarnings),
    ("request_failures", Json.texts b.requestFailures),
    ("dom", Json.object (b.dom.map fun (k, m) => (k, Json.object (m.map fun (s, n) => (s, Json.nat n))))),
    ("screenshot", Json.optText b.screenshot), ("html", Json.optText b.html)]

end NotebookGuard
