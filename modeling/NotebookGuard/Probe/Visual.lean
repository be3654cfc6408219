import NotebookGuard.Probe.Context

/-!
# Offline export of the charts

Every chart the run knows is exported offline, never rendered live: the charts
the notebook registered, or, when it registered none, the candidates of the
module scan, which give lower confidence. Charts of an unknown library are
skipped with a warning. The others go to the exporter in one call, which gives
one verdict per chart; a chart left without a verdict failed, and when the
whole call fails every chart failed with its message.

A verdict's warnings and an exporter that is not installed are warnings; a
failed export is a finding, a failure for a strict phase.
-/

namespace NotebookGuard

/-- The tallies of a validation. -/
structure ExportTally where
  status : Status := .pass
  messages : List String := []
  exported : Nat := 0
  failed : Nat := 0
  unavailable : Nat := 0

namespace ExportTally

/-- Takes one chart's verdict into the tally. -/
def add (finding : Status) (t : ExportTally) (cv : Chart × ExportVerdict) : ExportTally :=
  let (c, v) := cv
  let t := v.warnings.foldl (fun t w =>
    { t with status := t.status.worst .warn, messages := t.messages ++ [c.name ++ ": " ++ w] }) t
  if v.unavailable then
    { t with unavailable := t.unavailable + 1, status := t.status.worst .warn,
             messages := t.messages ++ [c.name ++ ": " ++ c.library.name ++ " exporter unavailable: " ++
               v.error.getD "not installed"] }
  else if v.ok then { t with exported := t.exported + 1 }
  else
    { t with failed := t.failed + 1, status := t.status.worst finding,
             messages := t.messages ++ [c.name ++ ": " ++ c.library.name ++ " export failed: " ++
               v.error.getD "unknown error"] }

end ExportTally

/-- Exactly `n` verdicts: the ones given, then failures for the charts left
without one. -/
def fitVerdicts (n : Nat) (vs : List ExportVerdict) : List ExportVerdict :=
  vs.take n ++ List.replicate (n - vs.length) ExportVerdict.missing

/-- Folds the verdicts on the supported charts and the skipped charts into a
result. -/
def validationResult (finding : Status) (all supported : List Chart) (verdicts : List ExportVerdict) :
    PhaseResult :=
  let others := all.filter (·.library == .other)
  let start : ExportTally :=
    { status := if others.isEmpty then .pass else .warn,
      messages := others.map fun c => c.name ++ ": unsupported library, skipped" }
  let t := (supported.zip (fitVerdicts supported.length verdicts)).foldl (ExportTally.add finding) start
  { (PhaseResult.ofStatus t.status) with messages := t.messages }
    |>.withMetric "charts" all.length.toFloat
    |>.withMetric "exported" t.exported.toFloat
    |>.withMetric "failed" t.failed.toFloat
    |>.withMetric "unsupported" others.length.toFloat
    |>.withMetric "unavailable" t.unavailable.toFloat

/-- Exports the supported charts among `charts` and folds the findings. -/
def validateCharts (ctx : PhaseContext) (charts : List Chart) : Act PhaseResult := do
  if ← phaseCancelled then Act.failWith .cancelled
  let supported := charts.filter (·.library != .other)
  let verdicts ←
    if supported.isEmpty then pure []
    else
      match ← Act.attempt (exportCharts ctx.notebook supported) with
      | .ok vs => pure vs
      | .error e =>
        if ← phaseCancelled then throw e
        else pure (supported.map fun _ => ExportVerdict.failed e.message)
  return validationResult ctx.finding charts supported verdicts

/-- The offline export probe. -/
def visualProbe (ctx : PhaseContext) : Act PhaseResult := do
  let r ← registryNow
  let (charts, source) := if r.isEmpty then (r.heuristic, "heuristic") else (r.registered, "registry")
  let result ← validateCharts ctx charts
  return result.withDetails (Json.object [("source", .str source),
    ("confidence", .str (if source == "registry" then "high" else "low")),
    ("charts", .arr (charts.map fun c => Json.object
      [("name", .str c.name), ("library", .str c.library.name), ("source", .str c.source)]))])

end NotebookGuard
