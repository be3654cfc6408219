import NotebookGuard.Sha256
import NotebookGuard.PhaseResult

/-!
# The file monitor

The watch loop learns of edits from a monitor thread that polls the watched
files. For each file it remembers an identity: the length, the modification
time and the SHA-256 digest of the bytes, or nothing when the file is missing
or cannot be read. A poll passes over a file whose length and modification
time are as remembered, or that is still missing. Any other file is read
again and its new identity remembered, and its path is sent to the watch loop
unless the digest is the remembered one, so a save that only touches a file
goes unreported.

The thread sleeps on a stop token between polls. Cancellation flags are
shared: a token is cancelled when its own flag or one of its ancestors' is
up. The monitor's token is a child of the caller's, with a new flag of its own
that stopping the monitor raises. The thread ends when a sleep finds its token
cancelled, or when a send finds that the receiver is gone.
-/

namespace NotebookGuard

/-- A cancellation token, by the numbers of its flags: its own and its
ancestors'. -/
structure CancelToken where
  own : Nat
  ancestors : List Nat := []
  deriving Repr, DecidableEq

namespace CancelToken

/-- Whether the token is cancelled while the flags `raised` are up. -/
def isCancelled (t : CancelToken) (raised : List Nat) : Bool :=
  raised.contains t.own || t.ancestors.any raised.contains

/-- A child token whose own flag is `flag`: it is cancelled with its parent,
and can be cancelled alone. -/
def child (t : CancelToken) (flag : Nat) : CancelToken :=
  { own := flag, ancestors := t.ancestors ++ [t.own] }

/-- Cancelling a token raises its own flag. -/
def cancel (t : CancelToken) (raised : List Nat) : List Nat :=
  t.own :: raised

end CancelToken

/-- What a look at a path finds when something is there: its length, its
modification time in nanoseconds since the epoch (zero when the system gives
none), and its bytes when they can be read. -/
structure FileStat where
  len : Nat
  modifiedNanos : Nat
  bytes : Option ByteArray

/-- What the monitor remembers of a file. -/
structure FileIdentity where
  len : Nat
  modifiedNanos : Nat
  sha256 : String
  deriving Repr, DecidableEq

namespace FileIdentity

/-- The length and modification time at a path, when something is there. -/
def stat (s : Option FileStat) : Option (Nat × Nat) :=
  s.map fun f => (f.len, f.modifiedNanos)

/-- The identity of the file at a path, when it is there and can be read. -/
def forPath (s : Option FileStat) : Option FileIdentity :=
  s.bind fun f => f.bytes.map fun b =>
    { len := f.len, modifiedNanos := f.modifiedNanos, sha256 := sha256Hex b }

end FileIdentity

/-- A started monitor: its stop token, and what its thread remembers of each
watched path, in path order. -/
structure FileMonitor where
  token : CancelToken
  baseline : List (String × Option FileIdentity)

namespace FileMonitor

/-- Starts a monitor on `paths` as `files` shows them, under the caller's
token `cancel`; `flag` is the new flag of the monitor's own token. -/
def start (paths : List String) (files : String → Option FileStat) (cancel : CancelToken)
    (flag : Nat) : FileMonitor where
  token := cancel.child flag
  baseline := paths.foldl (fun acc p => putSorted p (FileIdentity.forPath (files p)) acc) []

/-- Stopping a monitor, or dropping it, raises the flag of its token. -/
def stop (m : FileMonitor) (raised : List Nat) : List Nat :=
  m.token.cancel raised

/-- One look at a file remembered as `known` and found as `now`: what is
remembered after it, and whether the path is sent. -/
def look (known : Option FileIdentity) (now : Option FileStat) : Option FileIdentity × Bool :=
  let unchanged := match known, FileIdentity.stat now with
    | some k, some (len, mtime) => k.len == len && k.modifiedNanos == mtime
    | none, none => true
    | _, _ => false
  if unchanged then (known, false)
  else
    let current := FileIdentity.forPath now
    let sameContent := match known, current with
      | some k, some c => k.sha256 == c.sha256
      | _, _ => false
    (current, !sameContent)

/-- What one poll leaves: what is remembered of each file, the paths sent,
the sends the receiver still takes, and whether a send found it gone. -/
structure Poll where
  baseline : List (String × Option FileIdentity)
  sent : List String
  room : Option Nat
  hungUp : Bool

/-- One poll over the remembered files in order, with the files as `files`
shows them and a receiver that takes `room` more paths (none: all of them).
A send the receiver does not take ends the poll. -/
def poll (files : String → Option FileStat) : Option Nat → List (String × Option FileIdentity) → Poll
  | room, [] => { baseline := [], sent := [], room, hungUp := false }
  | room, (p, known) :: rest =>
    let seen := look known (files p)
    if seen.2 then
      match room with
      | some 0 => { baseline := (p, seen.1) :: rest, sent := [], room := some 0, hungUp := true }
      | _ =>
        let after := poll files (room.map (· - 1)) rest
        { after with baseline := (p, seen.1) :: after.baseline, sent := p :: after.sent }
    else
      let after := poll files room rest
      { after with baseline := (p, seen.1) :: after.baseline }

/-- What the thread meets at one turn of its loop: the flags up when its
sleep looks, and what is at each path when it polls. -/
structure Round where
  raised : List Nat
  files : String → Option FileStat

/-- How the thread ended, or that it still runs after the rounds given. -/
inductive Ending where
  | stopped
  | hungUp
  | running
  deriving Repr, DecidableEq

/-- The thread with stop token `stop`, remembering `baseline`, over the rounds
it meets: the paths each poll sent, and how the thread ended. -/
def thread (stop : CancelToken) :
    Option Nat → List (String × Option FileIdentity) → List Round → List (List String) × Ending
  | _, _, [] => ([], .running)
  | room, baseline, r :: rs =>
    if stop.isCancelled r.raised then ([], .stopped)
    else
      let now := poll r.files room baseline
      if now.hungUp then ([now.sent], .hungUp)
      else
        let later := thread stop now.room now.baseline rs
        (now.sent :: later.1, later.2)

end FileMonitor

end NotebookGuard
