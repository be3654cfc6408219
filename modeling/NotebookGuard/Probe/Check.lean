import NotebookGuard.Probe.Context
import NotebookGuard.Text.Blank

/-!
# The static lint

The engine lints the notebook. A nonzero exit code fails the phase, with the
first line that is not blank (error stream first) as a second message. Lines of
either stream that hold `warning[` are counted; with a zero exit code, any of
them make the phase a warning. The lint's status is never promoted here: the
strictness policy does that for the whole run.
-/

namespace NotebookGuard

/-- How much of each stream a result keeps, in characters. -/
def streamExcerptChars : Nat := 4000

/-- The number of lines of a lint's output that report a warning. -/
def lintWarnings (out : CheckOutput) : Nat :=
  ((textLines out.stdout ++ textLines out.stderr).filter fun l => (l.splitOn "warning[").length > 1).length

/-- The first line that is not blank, error stream first, trimmed. -/
def lintHeadline (out : CheckOutput) : Option String :=
  ((textLines out.stderr ++ textLines out.stdout).find? fun l => !(trimBlanks l).isEmpty).map trimBlanks

/-- The result of a lint's output. -/
def lintResult (out : CheckOutput) : PhaseResult :=
  let warnings := lintWarnings out
  let base :=
    if out.rc != 0 then
      let r := PhaseResult.failedWith ("static check failed (rc=" ++ toString out.rc ++ ")")
      match lintHeadline out with
      | some first => r.withMessage first
      | none => r
    else if warnings > 0 then
      (PhaseResult.ofStatus .warn).withMessage (toString warnings ++ " warning(s) reported by static check")
    else PhaseResult.passed
  base
    |>.withMetric "rc" (Float.ofInt out.rc)
    |>.withMetric "warnings" warnings.toFloat
    |>.withDetails (Json.object [("rc", Json.int out.rc),
        ("stdout", .str (lastChars streamExcerptChars out.stdout)),
        ("stderr", .str (lastChars streamExcerptChars out.stderr))])

/-- The lint probe. -/
def checkProbe (ctx : PhaseContext) : Act PhaseResult := do
  let out ← Act.within "static check" (staticCheck ctx.notebook)
  return lintResult out

end NotebookGuard
