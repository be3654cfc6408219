import NotebookGuard.Report.Basic

/-!
# Reports as JSON

A report is written as an object with one member per field and per phase. An
absent error, notebook, digest, time or self-test is left out, and so is an
empty list of promoted messages, and details that are `null`. Reading accepts
what writing gives: `schema_version` and `ok` are required, every other field
has a default, unknown members are passed over, and a member given twice is an
error.
-/

namespace NotebookGuard

namespace SelfTest

/-- JSON of a self-test. -/
def toJson (st : SelfTest) : Json := Json.object [("ok", .bool st.ok), ("errors", Json.texts st.errors)]

end SelfTest

namespace PhaseEntry

/-- JSON of a phase entry. -/
def toJson (e : PhaseEntry) : Json :=
  Json.object <|
    [("status", .str e.status.name), ("strict", .bool e.strict), ("messages", Json.texts e.messages),
     ("artifacts", .obj (e.artifacts.map fun (k, v) => (k, .str v))),
     ("metrics", .obj (e.metrics.map fun (k, v) => (k, Json.float v))),
     ("duration_ms", Json.nat e.durationMs)] ++
    (if e.details.isNull then [] else [("details", e.details)])

end PhaseEntry

namespace Report

/-- JSON of a report. -/
def toJson (r : Report) : Json :=
  let opt (k : String) (v : Option String) : List (String × Json) :=
    match v with
    | some s => [(k, .str s)]
    | none => []
  Json.object <|
    [("schema_version", .str r.schemaVersion), ("ok", .bool r.ok)] ++ opt "error" r.error ++
    [("warnings", Json.texts r.warnings)] ++
    (if r.promoted.isEmpty then [] else [("promoted", Json.texts r.promoted)]) ++
    opt "notebook" r.notebook ++ opt "notebook_sha256" r.notebookSha256 ++
    opt "generated_at" r.generatedAt ++
    [("duration_ms", Json.nat r.durationMs)] ++
    Phase.canonical.map (fun p => (p.key, (r.entry p).toJson)) ++
    (match r.selftest with
     | some st => [("selftest", st.toJson)]
     | none => [])

end Report

namespace Reader

/-- A self-test; `ok` is required. -/
def selfTest : Reader SelfTest :=
  record "SelfTest" { ok := false } [
    { name := "ok", required := true, read := fun s => do return { s with ok := ← boolean } },
    { name := "errors", read := fun s => do return { s with errors := ← strings } }]

/-- A phase entry; `status` is required, other fields default to empty. -/
def phaseEntry : Reader PhaseEntry :=
  record "PhaseReport" { messages := [] } [
    { name := "status", required := true, read := fun e => do return { e with status := ← status } },
    { name := "strict", read := fun e => do return { e with strict := ← boolean } },
    { name := "messages", read := fun e => do return { e with messages := ← strings } },
    { name := "artifacts", read := fun e => do return { e with artifacts := ← paths } },
    { name := "metrics", read := fun e => do return { e with metrics := ← doubles } },
    { name := "duration_ms", read := fun e => do return { e with durationMs := ← unsigned 64 } },
    { name := "details", read := fun e => do return { e with details := ← json } }]

/-- A report. -/
def report : Reader Report :=
  let phase (p : Phase) : Field Report :=
    { name := p.key, read := fun r => do return r.setEntry p (← phaseEntry) }
  record "Report" { schemaVersion := "", ok := false } ([
    { name := "schema_version", required := true,
      read := fun r => do return { r with schemaVersion := ← string } },
    { name := "ok", required := true, read := fun r => do return { r with ok := ← boolean } },
    { name := "error", read := fun r => do return { r with error := ← optional string } },
    { name := "warnings", read := fun r => do return { r with warnings := ← strings } },
    { name := "promoted", read := fun r => do return { r with promoted := ← strings } },
    { name := "notebook", read := fun r => do return { r with notebook := ← optional string } },
    { name := "notebook_sha256",
      read := fun r => do return { r with notebookSha256 := ← optional string } },
    { name := "generated_at", read := fun r => do return { r with generatedAt := ← optional string } },
    { name := "duration_ms", read := fun r => do return { r with durationMs := ← unsigned 64 } }] ++
    Phase.canonical.map phase ++
    [{ name := "selftest", read := fun r => do return { r with selftest := ← optional selfTest } }])

end Reader

end NotebookGuard
