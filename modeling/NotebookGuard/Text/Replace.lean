/-!
# Replacing and finding text

`replaceAll` replaces every occurrence of a pattern, scanning left to right and
resuming after each replaced occurrence. `scanPatterns` takes, at each place of
a text, the first of several patterns in list order that starts there, and
resumes after it.
-/

namespace NotebookGuard

/-- Every occurrence of a nonempty `pat` in a character list, left to right,
replaced by `rep`. -/
def replaceChars (pat rep : List Char) : List Char → List Char
  | [] => []
  | c :: rest =>
    if pat ≠ [] ∧ pat.isPrefixOf (c :: rest) then
      rep ++ replaceChars pat rep (rest.drop (pat.length - 1))
    else c :: replaceChars pat rep rest
termination_by cs => cs.length
decreasing_by
  · show (rest.drop (pat.length - 1)).length < (c :: rest).length
    rw [List.length_drop, List.length_cons]
    omega
  · exact Nat.lt_succ_self _

/-- A text with every occurrence of `pat` replaced by `rep`. -/
def replaceAll (s pat rep : String) : String :=
  String.ofList (replaceChars pat.toList rep.toList s.toList)

/-- The patterns met scanning a character list left to right: at each place the
first nonempty pattern in list order that starts there is taken, and the scan
resumes after it. -/
def scanPatterns (pats : List String) : List Char → List String
  | [] => []
  | c :: rest =>
    match pats.find? fun p => p ≠ "" ∧ p.toList.isPrefixOf (c :: rest) with
    | some p => p :: scanPatterns pats (rest.drop (p.length - 1))
    | none => scanPatterns pats rest
termination_by cs => cs.length
decreasing_by
  · show (rest.drop (p.length - 1)).length < (c :: rest).length
    rw [List.length_drop, List.length_cons]
    omega
  · exact Nat.lt_succ_self _

end NotebookGuard
