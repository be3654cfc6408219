import NotebookGuard.Engine
import NotebookGuard.Path

/-!
# Export verdicts kept from a notebook run

A notebook run may export each chart it reports while its objects are alive.
The verdicts of the last run are kept by chart name, so that the export phase
need not run the notebook again for them. Looking a chart up finds a verdict
only for the notebook of the last run, compared component by component.
-/

namespace NotebookGuard

/-- The verdicts of the last run, with its notebook. -/
structure ExportCache where
  slot : Option (String × List (String × ExportVerdict)) := none

namespace ExportCache

/-- Keeps the verdicts a run carried, replacing the earlier ones; of two charts
with one name, the later one's verdict is kept. -/
def store (_ : ExportCache) (notebook : String) (out : Execution) : ExportCache :=
  let verdicts := (out.charts ++ out.heuristic).foldl (fun acc c =>
    match c.export? with
    | some v => (c.name, v) :: acc.filter (·.1 != c.name)
    | none => acc) []
  { slot := some (notebook, verdicts) }

/-- The kept verdict of each chart, when the notebook is the last run's. -/
def lookup (c : ExportCache) (notebook : String) (charts : List String) : List (Option ExportVerdict) :=
  match c.slot with
  | some (nb, verdicts) =>
    if Path.same nb notebook then charts.map fun n => verdicts.lookup n
    else charts.map fun _ => none
  | none => charts.map fun _ => none

end ExportCache

end NotebookGuard
