import NotebookGuard.Json.Value

/-!
# How a stand-in program behaves

The guard calls outside programs: the notebook tool (`check`, `run`, `edit`)
and three helper scripts (`execute`, `export`, `browse`). On a simulated
machine each is a stand-in whose behaviour a behaviour file gives, by kind of
call: one behaviour for every call, or a list, where call `n` takes item `n`
and the last item repeats. A preview started on a port may have a behaviour of
its own under `marimo_<cmd>@<port>`.

A behaviour says what the program writes, how long it sleeps, how it ends, and
what it does on the side. Any key may be left out.
-/

namespace NotebookGuard

/-- What a stand-in program does on one call. -/
structure Behavior where
  /-- A variable whose value is written first, as `NAME=value`. -/
  printEnv : Option String := none
  stdout : String := ""
  stderr : String := ""
  /-- The program kills itself with the kill signal. -/
  signal : Bool := false
  /-- How long the program sleeps before answering, in milliseconds. -/
  sleepMs : Nat := 0
  /-- The exit code. -/
  rc : Int := 0
  /-- A preview that exits at once, with this code. -/
  exitCode : Option Int := none
  /-- How long a preview takes to become ready, in milliseconds. -/
  delayMs : Nat := 0
  /-- What a preview writes when it becomes ready. -/
  readyStdout : String := ""
  /-- Whether a preview listens on its port. -/
  listen : Bool := false
  /-- How long the port stays taken after the preview is stopped, in milliseconds. -/
  holdPortMs : Nat := 0
  /-- How long a preview lives, in milliseconds. -/
  lifetimeMs : Nat := 20000
  /-- The JSON a helper answers. -/
  out : Option Json := none
  /-- Text a helper answers instead of JSON. -/
  raw : Option String := none
  /-- Text the run of a notebook leaves as its self-test artifact. -/
  selftest : Option String := none
  /-- Whether a browser session writes its two snapshots. -/
  writeSnapshots : Bool := false
  /-- Whether the run of a notebook deletes the notebook. -/
  deleteNotebook : Bool := false

/-- Milliseconds from a number of seconds, rounded to the nearest. -/
def secondsToMillis (j : Json) : Option Nat :=
  match j with
  | .num (.nat n) => some (n * 1000)
  | .num (.float f) => if f > 0 then some (f * 1000).round.toUInt64.toNat else some 0
  | .num (.neg _) => some 0
  | _ => none

namespace Behavior

/-- A behaviour from its JSON object; a key of the wrong kind is left out. -/
def ofJson (j : Json) : Behavior :=
  let text (k : String) : Option String := (j.get? k).bind Json.getStr?
  let flag (k : String) : Bool := ((j.get? k).bind Json.getBool?).getD false
  let millis (k : String) : Option Nat := (j.get? k).bind secondsToMillis
  { printEnv := text "print_env", stdout := (text "stdout").getD "", stderr := (text "stderr").getD "",
    signal := flag "signal", sleepMs := (millis "sleep").getD 0,
    rc := ((j.get? "rc").bind Json.getInt?).getD 0, exitCode := (j.get? "exit").bind Json.getInt?,
    delayMs := (millis "delay").getD 0, readyStdout := (text "ready_stdout").getD "",
    listen := flag "listen", holdPortMs := (millis "hold_port_secs").getD 0,
    lifetimeMs := (millis "lifetime").getD 20000,
    out := j.get? "out", raw := text "raw", selftest := text "selftest",
    writeSnapshots := flag "write_snapshots", deleteNotebook := flag "delete_notebook" }

/-- The behaviour of call `n` of a kind, looked up first under `special`. -/
def pick (file : Json) (kind : String) (n : Nat) (special : Option String := none) : Behavior :=
  let entry := match special.bind file.get? with
    | some e => some e
    | none => file.get? kind
  match entry with
  | some (.arr items) =>
    match items[n]?, items.getLast? with
    | some j, _ => ofJson j
    | none, some j => ofJson j
    | none, none => {}
  | some j => ofJson j
  | none => {}

end Behavior

end NotebookGuard
