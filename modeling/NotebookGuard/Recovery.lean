import NotebookGuard.Text.Replace
import NotebookGuard.Shell.Run
import NotebookGuard.Failure

/-!
# The recovery command

A recovery command is a shell template in which each `{nb}` stands for the
notebook path, quoted for the shell: between single quotes, with each single
quote of the path written `'\''`. It runs in a shell with `ERR_JSON` naming
the last report, if there is one, and must end within its time limit; its
outcome is its exit code, or none when a signal killed it.
-/

namespace NotebookGuard

/-- A path between single quotes, safe for the shell. -/
def shellQuote (s : String) : String := "'" ++ replaceAll s "'" "'\\''" ++ "'"

/-- The command line of a recovery template for a notebook. -/
def commandLine (template notebook : String) : String :=
  replaceAll template "{nb}" (shellQuote notebook)

/-- Runs a recovery command line: its exit code, none when a signal killed
it, or the timeout when it outlived `limit`. -/
def recoveryOutcome (line : String) (reportPath : Option String) (limit : Duration) :
    Except RunError (Option Nat) :=
  let vars := match reportPath with
    | some p => [("ERR_JSON", p)]
    | none => []
  match runShellScript { limitMs := limit.millis } vars line with
  | .exited code => .ok (some code)
  | .signalled _ => .ok none
  | .timedOut => .error (.probeTimeout "subprocess" limit)

end NotebookGuard
