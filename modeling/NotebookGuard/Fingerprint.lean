import NotebookGuard.Workspace
import NotebookGuard.Sha256
import NotebookGuard.Failure

/-!
# File fingerprints and timestamps

A file's fingerprint is the SHA-256 digest of its bytes in lowercase hex. A
directory opens but cannot be read; anything else that cannot be opened fails
naming the path.

A moment is written in RFC 3339 form in UTC: the date, `T`, the time, the
fraction of the second with its trailing zeros dropped when there is one, and
`Z`.
-/

namespace NotebookGuard

namespace Workspace

/-- The fingerprint of the file at a path. -/
def hashFile (w : Workspace) (p : String) : Except Failure String :=
  if w.isDir p then .error (Failure.msg isADirectory)
  else
    match w.read p with
    | .ok b => .ok (sha256Hex b)
    | .error e => .error ((Failure.msg e).within ("open " ++ p))

end Workspace

/-- The year, month and day of a day counted from 1970-01-01. -/
def civilDate (days : Nat) : Nat × Nat × Nat :=
  let z := days + 719468
  let era := z / 146097
  let doe := z - era * 146097
  let yoe := (doe - doe / 1460 + doe / 36524 - doe / 146096) / 365
  let doy := doe - (365 * yoe + yoe / 4 - yoe / 100)
  let mp := (5 * doy + 2) / 153
  let d := doy - (153 * mp + 2) / 5 + 1
  let m := if mp < 10 then mp + 3 else mp - 9
  let y := yoe + era * 400 + (if m ≤ 2 then 1 else 0)
  (y, m, d)

/-- `n` written with at least `width` digits. -/
def padded (width n : Nat) : String :=
  let s := toString n
  String.ofList (List.replicate (width - s.length) '0') ++ s

/-- A moment, in nanoseconds since 1970-01-01 UTC, in RFC 3339 form. -/
def timestampText (nanos : Nat) : String :=
  let secs := nanos / 1000000000
  let frac := nanos % 1000000000
  let (y, m, d) := civilDate (secs / 86400)
  let t := secs % 86400
  let fracText :=
    if frac = 0 then ""
    else "." ++ String.ofList ((padded 9 frac).toList.reverse.dropWhile (· = '0')).reverse
  padded 4 y ++ "-" ++ padded 2 m ++ "-" ++ padded 2 d ++ "T" ++ padded 2 (t / 3600) ++ ":" ++
    padded 2 (t / 60 % 60) ++ ":" ++ padded 2 (t % 60) ++ fracText ++ "Z"

end NotebookGuard
