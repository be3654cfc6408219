import NotebookGuard.Text.Replace

/-!
# Error patterns in logs

The texts whose presence in a preview's logs marks a broken notebook, and the
scan that finds them: at each place of the logs the first pattern that starts
there is taken, and the scan resumes after it. The answer lists each pattern
found once, in the order of the pattern list.
-/

namespace NotebookGuard

/-- The error patterns, in the order they are reported. -/
def errorPatterns : List String :=
  ["Traceback", "NameError", "KeyError", "AttributeError", "TypeError", "ValueError",
   "Exception", "Chart Error:", "SELFTEST: FAIL"]

/-- The error patterns found in logs, each once, in pattern order. -/
def foundPatterns (logs : String) : List String :=
  let hits := scanPatterns errorPatterns logs.toList
  errorPatterns.filter hits.contains

end NotebookGuard
