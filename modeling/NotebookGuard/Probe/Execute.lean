import NotebookGuard.Probe.Context

/-!
# Running the notebook

The engine runs the notebook once. Every chart the notebook registered goes
into the registry, in order; the candidates of the module scan replace the
registry's earlier candidates. The phase passes when the run did, and fails
with the run's error otherwise.
-/

namespace NotebookGuard

/-- The result of a notebook run, given how many charts the registry holds
after it. -/
def executionResult (out : Execution) (registered : Nat) : PhaseResult :=
  let base :=
    if out.ok then PhaseResult.passed
    else PhaseResult.failedWith (out.error.getD "notebook execution failed")
  base
    |>.withMetric "outputs_len" out.outputsLen.toFloat
    |>.withMetric "defs_len" out.defsLen.toFloat
    |>.withMetric "charts_registered" registered.toFloat
    |>.withMetric "heuristic_candidates" out.heuristic.length.toFloat
    |>.withDetails (Json.object [("ok", .bool out.ok), ("outputs_len", Json.nat out.outputsLen),
        ("defs_len", Json.nat out.defsLen)])

/-- Puts a run's charts into a registry: registered charts in order, scan
candidates in place of the earlier ones. -/
def recordCharts (out : Execution) (r : Registry) : Registry :=
  let r := out.charts.foldl (fun r c =>
    let d := c.toChart
    r.register d.name d.library d.handle d.metadata) r
  r.recordHeuristic (out.heuristic.map ChartReport.toChart)

/-- The notebook run probe. -/
def executeProbe (ctx : PhaseContext) : Act PhaseResult := do
  let out ← Act.within "notebook execution" (execute ctx.notebook)
  updateRegistry (recordCharts out)
  let registered := (← registryNow).registered.length
  return executionResult out registered

end NotebookGuard
